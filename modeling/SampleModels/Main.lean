import SampleModels.CommandLine.Run

/-!
# The command line program

Reads the sample, writes what was generated, and prints the report of the run. What to do and what
to say is decided by `readJob`, `Job.generate` and `Report`.
-/

namespace SampleModels.CommandLine

/-- A failure of the operating system as the library knows it. -/
def ioErrorOf : IO.Error → IoError
  | .noFileOrDirectory _ _ _ => .notFound
  | .alreadyExists _ _ _ => .alreadyExists
  | .inappropriateType _ _ details =>
    if details.toLower = "is a directory" then .isADirectory else .notADirectory
  | .invalidArgument file code details =>
    if details.endsWith "name too long" then .nameTooLong
    else .custom (toString (IO.Error.invalidArgument file code details))
  | error => .custom (toString error)

/-- Does something that the operating system may refuse. -/
def attempt {α : Type} (action : IO α) : BaseIO (Except IoError α) := do
  match ← action.toBaseIO with
  | .ok a => return .ok a
  | .error error => return .error (ioErrorOf error)

/-- Reads a stream to its end. -/
partial def readToEnd (stream : IO.FS.Stream) (before : ByteArray) : IO ByteArray := do
  let chunk ← stream.read 65536
  if chunk.isEmpty then return before else readToEnd stream (before ++ chunk)

/-- Reads the sample from its file or from standard input. -/
def readSample (job : Job) : IO (Except IoError String) := do
  let content ← attempt <| match job.inputFile? with
    | some path => IO.FS.readBinFile path
    | none => do readToEnd (← IO.getStdin) .empty
  return content.bind fun bytes => Job.decodeInput bytes.data.toList

/-- Writes a file and makes the directories above it that are missing. -/
def writeDeep (path generated : String) : IO Unit := do
  let directory := Files.directoryOf path
  unless directory.isEmpty do IO.FS.createDirAll directory
  IO.FS.writeBinFile path generated.toUTF8

def execute (job : Job) : IO Report := do
  match job.generate (← readSample job) with
  | .error report => return report
  | .ok (log, generated) =>
    match job.options.out? with
    | none => return .printed log generated
    | some path => return .written log (← attempt (writeDeep path generated))

def printReport (report : Report) : IO UInt32 := do
  for message in report.messages do IO.eprintln message
  IO.print report.output
  return UInt32.ofNat report.code

end SampleModels.CommandLine

/-- Runs the program with the arguments of its command line. -/
def main (arguments : List String) : IO UInt32 := do
  match SampleModels.CommandLine.readJob arguments (← IO.getEnv "RUST_LOG") with
  | .error report => SampleModels.CommandLine.printReport report
  | .ok job => SampleModels.CommandLine.printReport (← SampleModels.CommandLine.execute job)
