import SampleModels.Files.Path
import SampleModels.Text.CamelCase

/-!
# The name of the root model

Without a name from the user the root model is named after the input file.
-/

namespace SampleModels.CommandLine

/-- The name when there is no input file, or none that a name can be taken from. -/
def fallbackRootName : String := "Root"

/-- The name of a file in camel case, without its extension, if that begins with a letter. -/
def rootNameOf? (path : String) : Option String :=
  (Files.fileStem? path).bind fun stem =>
    let name := Text.upperCamelCase stem
    match name.toList with
    | [] => none
    | c :: _ => if Text.isAlphabetic c then some name else none

/-- The name of the root model for an input file, or for standard input. -/
def defaultRootName (input? : Option String) : String :=
  (input?.bind rootNameOf?).getD fallbackRootName

end SampleModels.CommandLine
