import SampleModels.CommandLine.Arguments
import SampleModels.CommandLine.RootName
import SampleModels.Files.Tree
import SampleModels.Generation
import SampleModels.Log.Filter

/-!
# Running the program

A run reads the arguments, then the sample, generates, and only then writes. It ends with an exit
code: 0 if all went well, 1 for a fault, 2 for arguments that are refused, and 101 if it breaks off.
-/

namespace SampleModels.CommandLine

def versionText : String := "jsonmodelgen 0.1.0\n"

def optionsHelp : List (String × String) := [
  ("-o, --out <OUT>", "Output file (stdout if omitted)"),
  ("    --root-name <ROOT_NAME>",
    "Root model name; derived from the input file name when omitted"),
  ("    --inspect-arrays",
    "Type array fields from their first element instead of passing them through"),
  ("    --indent-width <INDENT_WIDTH>", "Spaces per indentation level [default: 4]"),
  ("-h, --help", "Print help"),
  ("-V, --version", "Print version")]

/-- The width of the column that names the options. -/
def optionsColumn : Nat := 35

def helpText : String :=
  String.join <| List.map (· ++ "\n") <| [
    "Generate nested data-model declarations from a sample JSON document.",
    "",
    "Usage: jsonmodelgen [OPTIONS] [INPUT]",
    "",
    "Arguments:",
    "  [INPUT]  Sample JSON file; stdin when omitted or `-`",
    "",
    "Options:"] ++
  optionsHelp.map fun (name, effect) =>
    "  " ++ name ++ String.ofList (List.replicate (optionsColumn - name.length) ' ') ++ effect

/-- What a run prints and how it ends. -/
structure Report where
  code : Nat
  /-- What was printed. -/
  output : String := ""
  /-- The log, and how a failure is reported. -/
  messages : List String := []
deriving DecidableEq

def Report.ofFault (log : List String) (message : String) : Report :=
  { code := 1, messages := log ++ ["Error: " ++ message] }

/-- What is left to do once the arguments and the setting of the log have been read. -/
structure Job where
  options : Options
  filter : Log.Filter

/-- Reads the setting of the log, and then the arguments. -/
def readJob (arguments : List String) (logSetting? : Option String) : Except Report Job :=
  match Log.Filter.ofSetting? logSetting? with
  | none => .error { code := 101 }
  | some filter =>
    match readArguments arguments with
    | .error error => .error { code := 2, messages := [error.message] }
    | .ok .help => .error { code := 0, output := helpText }
    | .ok .version => .error { code := 0, output := versionText }
    | .ok (.generate options) => .ok ⟨options, filter⟩

/-- A path that stands for standard input. -/
def standardInput : String := "-"

namespace Job

/-- The input file, if the sample does not come from standard input. -/
def inputFile? (job : Job) : Option String :=
  job.options.input?.filter fun path => !Files.samePath path standardInput

def rootName (job : Job) : String :=
  job.options.rootName?.getD (defaultRootName job.inputFile?)

def decodeInput (stdin : Bytes) : Except IoError String :=
  match stdin.toText? with
  | some text => .ok text
  | none => .error .notText

def log (job : Job) (sample : String) : List String :=
  job.filter.lines <|
    .generating job.rootName job.options.inspectArrays ::
      inferenceEvents sample job.rootName job.options.settings

/-- Generates from what was read: the report of a failure, or the log and the generated file. -/
def generate (job : Job) : Except IoError String → Except Report (List String × String)
  | .error error => .error (.ofFault [] error.message)
  | .ok sample =>
    match generateFileText sample job.rootName job.options.settings with
    | .ok generated => .ok (job.log sample, generated)
    | .error (.fault fault) => .error (.ofFault (job.log sample) fault.message)
    | .error (.breach breach) =>
      .error { code := 101, messages := job.log sample ++ [breach.message] }

end Job

/-- The end of a run that printed what it generated. -/
def Report.printed (log : List String) (generated : String) : Report :=
  { code := 0, output := generated, messages := log }

/-- The end of a run that wrote, or tried to write, what it generated to a file. -/
def Report.written (log : List String) : Except IoError Unit → Report
  | .ok () => { code := 0, messages := log }
  | .error error => .ofFault log error.message

/-- Runs the program with arguments, the setting of the log, and standard input, in a directory:
its report and the directory afterwards. -/
def run (arguments : List String) (logSetting? : Option String) (stdin : Bytes)
    (tree : Files.Tree) : Report × Files.Tree :=
  match readJob arguments logSetting? with
  | .error report => (report, tree)
  | .ok job =>
    let sample := match job.inputFile? with
      | some path => tree.readText path
      | none => Job.decodeInput stdin
    match job.generate sample with
    | .error report => (report, tree)
    | .ok (log, generated) =>
      match job.options.out? with
      | none => (.printed log generated, tree)
      | some path =>
        let (tree, outcome) := tree.writeDeep path (.ofText generated)
        (.written log outcome, tree)

end SampleModels.CommandLine
