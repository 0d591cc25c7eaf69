/-!
# Failures of reading and writing
-/

namespace SampleModels

/-- Why reading or writing failed. -/
inductive IoError where
  | notFound
  | alreadyExists
  | notADirectory
  | isADirectory
  /-- A name, or a whole path, is longer than the system takes. -/
  | nameTooLong
  /-- A path holds the character that would end it. -/
  | nulInPath
  /-- What was read is not UTF-8. -/
  | notText
  /-- The receiver took no byte of a write. -/
  | nothingWritten
  /-- An error of the receiver's own. -/
  | custom (text : String)
deriving DecidableEq

def IoError.message : IoError → String
  | .notFound => "No such file or directory (os error 2)"
  | .alreadyExists => "File exists (os error 17)"
  | .notADirectory => "Not a directory (os error 20)"
  | .isADirectory => "Is a directory (os error 21)"
  | .nameTooLong => "File name too long (os error 36)"
  | .nulInPath => "file name contained an unexpected NUL byte"
  | .notText => "stream did not contain valid UTF-8"
  | .nothingWritten => "failed to write whole buffer"
  | .custom text => text

end SampleModels
