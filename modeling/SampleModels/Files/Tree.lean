import SampleModels.Association
import SampleModels.Bytes
import SampleModels.Files.Path
import SampleModels.IoError

/-!
# File trees

A directory with all that is below it, and what can be done to it: reading a file, writing a file,
making directories. A path is walked from there, part by part, and may lead out of the directory.
What fails changes nothing, except that directories made on the way to one that cannot be made stay.
-/

namespace SampleModels.Files

/-- What a name in a directory stands for. -/
inductive Entry where
  | file (content : Bytes)
  | directory
deriving DecidableEq

/-- The entries below a directory, by the names that lead to them. The names of what lies outside
begin with `..` for every directory upwards, or with a slash for the top of all directories. -/
structure Tree where
  entries : List (List String × Entry)
deriving DecidableEq

def maxNameSize : Nat := 255

def maxPathSize : Nat := 4095

def upName : String := ".."

def topName : String := "/"

def leadsOut (name : String) : Bool := name = upName || name = topName

/-- The names of the directory above. There is none above the top. -/
def up (here : List String) : List String :=
  if here = [topName] then here
  else if here.all leadsOut then here ++ [upName]
  else here.dropLast

namespace Tree

def empty : Tree := ⟨[]⟩

/-- The entry that the names lead to. No name leads to the directory itself, which is there with
all directories above it. -/
def get? (t : Tree) (names : List String) : Option Entry :=
  if names.all leadsOut then some .directory else t.entries.lookup names

/-- Puts an entry in the place that the names lead to. -/
def set (t : Tree) (names : List String) (entry : Entry) : Tree :=
  ⟨Association.set t.entries names entry⟩

/-- The entry of that name in a directory, if there is one. -/
def find? (t : Tree) (here : List String) (name : String) : Except IoError (Option Entry) :=
  if maxNameSize < name.utf8ByteSize then .error .nameTooLong else .ok (t.get? (here ++ [name]))

/-- Walks from a directory along parts of a path, each of which must lead to a directory. -/
def walk (t : Tree) : List String → List Component → Except IoError (List String)
  | here, [] => .ok here
  | _, .root :: rest => t.walk [topName] rest
  | here, .current :: rest => t.walk here rest
  | here, .parent :: rest => t.walk (up here) rest
  | here, .name name :: rest => do
    match ← t.find? here name with
    | some .directory => t.walk (here ++ [name]) rest
    | some (.file _) => .error .notADirectory
    | none => .error .notFound

/-- What a path leads to. -/
inductive Target where
  /-- A directory by a path that ends without a name. -/
  | directory
  /-- A name in a directory. -/
  | child (directory : List String) (name : String)

/-- What the path leads to; all parts but the last must be directories. -/
def locate (t : Tree) (path : List Component) : Except IoError Target := do
  let directory ← t.walk [] path.dropLast
  match path.getLast? with
  | some (.name name) => return .child directory name
  | _ => return .directory

def checkPath (path : String) : Except IoError Unit :=
  if path.toList.contains '\x00' then .error .nulInPath
  else if path = "" then .error .notFound
  else if maxPathSize < path.utf8ByteSize then .error .nameTooLong
  else .ok ()

def read (t : Tree) (path : String) : Except IoError Bytes := do
  checkPath path
  match ← t.locate (parts path) with
  | .directory => .error .isADirectory
  | .child directory name =>
    match ← t.find? directory name with
    | some (.file content) => .ok content
    | some .directory => .error .isADirectory
    | none => .error .notFound

def readText (t : Tree) (path : String) : Except IoError String := do
  let content ← t.read path
  match content.toText? with
  | some text => .ok text
  | none => .error .notText

/-- Writes a file, whether it was there or not. A path that ends in a slash cannot be written. -/
def write (t : Tree) (path : String) (content : Bytes) : Except IoError Tree := do
  checkPath path
  let chars := (path.toList.reverse.dropWhile (· == '/')).reverse
  match ← t.locate (parts (String.ofList chars)) with
  | .directory => .error .isADirectory
  | .child directory name =>
    if chars.length < path.length then .error .isADirectory
    else match ← t.find? directory name with
      | some .directory => .error .isADirectory
      | _ => .ok (t.set (directory ++ [name]) (.file content))

def isDirectory (t : Tree) (path : List Component) : Bool :=
  (do checkPath (textOf path); t.walk [] path : Except IoError (List String)).isOk

def makeDirectory (t : Tree) (path : List Component) : Except IoError Tree := do
  checkPath (textOf path)
  match ← t.locate path with
  | .directory => .error .alreadyExists
  | .child directory name =>
    match ← t.find? directory name with
    | some _ => .error .alreadyExists
    | none => .ok (t.set (directory ++ [name]) .directory)

/-- Makes a directory and those above it that are missing. The path is given backwards. -/
def makeDirectories (t : Tree) : List Component → Tree × Except IoError Unit
  | [] => (t, .ok ())
  | last :: above =>
    let path := (last :: above).reverse
    match t.makeDirectory path with
    | .ok t => (t, .ok ())
    | .error .notFound =>
      match t.makeDirectories above with
      | (t, .error error) => (t, .error error)
      | (t, .ok ()) =>
        match t.makeDirectory path with
        | .ok t => (t, .ok ())
        | .error error => (t, if t.isDirectory path then .ok () else .error error)
    | .error error => (t, if t.isDirectory path then .ok () else .error error)

/-- Writes a file and makes the directories above it that are missing. -/
def writeDeep (t : Tree) (path : String) (content : Bytes) : Tree × Except IoError Unit :=
  match t.makeDirectories (components path).dropLast.reverse with
  | (t, .error error) => (t, .error error)
  | (t, .ok ()) =>
    match t.write path content with
    | .ok t => (t, .ok ())
    | .error error => (t, .error error)

theorem get?_set_self (t : Tree) {names : List String} (entry : Entry)
    (h : names.all leadsOut = false) : (t.set names entry).get? names = some entry := by
  rw [get?, if_neg (by rw [h]; decide)]
  exact Association.lookup_set_self t.entries names entry

theorem get?_set_of_ne (t : Tree) {names other : List String} (entry : Entry)
    (h : other ≠ names) : (t.set names entry).get? other = t.get? other := by
  unfold get?
  split
  · rfl
  · exact Association.lookup_set_of_ne t.entries entry h

end Tree

end SampleModels.Files
