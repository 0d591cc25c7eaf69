import SampleModels.Files.Tree
import SampleModels.Generation

/-!
# Generating a file from a file
-/

namespace SampleModels

/-- Reads a sample from a file and writes the generated file. The output is only touched once
everything has been generated. -/
def generateFile (tree : Files.Tree) (input output rootName : String) (settings : Settings) :
    Files.Tree × Except Failure Unit :=
  match tree.readText input with
  | .error error => (tree, .error (.fault (.io error)))
  | .ok text =>
    match generateFileText text rootName settings with
    | .error failure => (tree, .error failure)
    | .ok generated =>
      match tree.write output (.ofText generated) with
      | .error error => (tree, .error (.fault (.io error)))
      | .ok tree => (tree, .ok ())

end SampleModels
