/-!
# Paths

A path is text: names with slashes between them. `parts` keeps every part, as the file tree walks
them; `components` leaves out the parts that change nothing, so that two spellings of one path can
be compared.
-/

namespace SampleModels.Files

/-- One part of a path. -/
inductive Component where
  /-- The top of all directories: a slash in front. -/
  | root
  /-- The directory itself: `.` or nothing between two slashes. -/
  | current
  /-- The directory above: `..`. -/
  | parent
  | name (name : String)
deriving DecidableEq

def Component.ofChars (part : List Char) : Component :=
  if part = [] || part = ['.'] then .current
  else if part = ['.', '.'] then .parent
  else .name (String.ofList part)

def partsOfChars (cs : List Char) : List Component :=
  (cs.splitOn '/').map Component.ofChars

def parts (path : String) : List Component :=
  match path.toList with
  | '/' :: rest => .root :: partsOfChars rest
  | cs => partsOfChars cs

/-- The parts that matter. A `.` matters only at the beginning. -/
def components (path : String) : List Component :=
  if path = "" then []
  else match parts path with
    | [] => []
    | first :: rest => first :: rest.filter fun part => part != .current

/-- Whether two paths are spellings of one path. -/
def samePath (path other : String) : Bool := components path == components other

/-- The part as it is written. A slash follows it unless it is the last. -/
def Component.text : Component → String
  | .root => ""
  | .current => "."
  | .parent => ".."
  | .name n => n

def textOf (path : List Component) : String :=
  if path = [.root] then "/" else String.intercalate "/" (path.map Component.text)

/-- The directory that a path leads into, which is empty for the current one. -/
def directoryOf (path : String) : String := textOf (components path).dropLast

/-- The last name of a path, unless the path ends in `..` or has no name. -/
def fileName? (path : String) : Option String :=
  match (components path).getLast? with
  | some (.name name) => some name
  | _ => none

/-- What stands before the last dot of a file name. A dot in front does not count. -/
def stem (name : List Char) : List Char :=
  if name = ['.', '.'] then name
  else match name.reverse.splitOn '.' with
    | last :: _ :: _ =>
      let before := name.take (name.length - last.length - 1)
      if before = [] then name else before
    | _ => name

/-- The file name of a path without its extension. -/
def fileStem? (path : String) : Option String :=
  (fileName? path).map fun name => String.ofList (stem name.toList)

end SampleModels.Files
