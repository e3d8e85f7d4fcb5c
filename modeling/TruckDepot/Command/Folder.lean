import TruckDepot.Text.Cut

/-!
# Folders

A tree of files that is only a value. Paths are written with slashes; a path that does not begin
with one starts in a folder of its own, the home folder. A folder is there if it is on the way to
the home folder or to a file. Reasons why a file cannot be had are worded as the operating system
words them. -/

namespace TruckDepot.Command

/-- Why a file cannot be had. -/
inductive FileError where
  /-- Nothing has the name, or nothing has the name of a folder on the way. -/
  | missing
  /-- A folder has the name. -/
  | isFolder
  /-- A file has the name of a folder on the way. -/
  | notFolder
  /-- The path, or a name in it, is too long. -/
  | nameTooLong
  deriving DecidableEq, Repr

/-- The wording of an error, with its number. -/
def FileError.message : FileError → String
  | .missing => "No such file or directory (os error 2)"
  | .isFolder => "Is a directory (os error 21)"
  | .notFolder => "Not a directory (os error 20)"
  | .nameTooLong => "File name too long (os error 36)"

/-- The names on the way to a file or a folder, outermost first. -/
abbrev Location := List String

/-- A tree of files. -/
structure Folder where
  /-- The files with their texts. -/
  files : List (Location × String)
  deriving DecidableEq, Repr

/-- What a location holds. -/
inductive Entry where
  /-- A file with a text. -/
  | file (text : String)
  /-- A folder. -/
  | folder
  /-- Nothing. -/
  | nothing
  deriving DecidableEq, Repr

namespace Folder

/-- No files. -/
def empty : Folder :=
  ⟨[]⟩

/-- The folder where a path starts. -/
def home : Location :=
  ["home"]

/-- What a location holds. -/
def entry (f : Folder) (location : Location) : Entry :=
  match f.files.lookup location with
  | some text => .file text
  | none =>
    if location.isPrefixOf home || f.files.any fun file => location.isPrefixOf file.1 then .folder
    else .nothing

/-- Puts a text into a file, which may be new. -/
def put (f : Folder) (location : Location) (text : String) : Folder :=
  ⟨(location, text) :: f.files.filter fun file => file.1 != location⟩

/-! ### Paths -/

/-- Most bytes in a name. -/
def longestName : Nat := 255

/-- Most bytes in a path. -/
def longestPath : Nat := 4095

/-- The names in a path. -/
def names (path : String) : List String :=
  (Text.cutAt (· == '/') path.toList).map String.ofList

/-- Follows names from a location. An empty name and a single point stay, two points go back. -/
def follow (f : Folder) : Location → List String → Except FileError Location
  | location, [] => .ok location
  | location, name :: rest =>
    match f.entry location with
    | .file _ => .error .notFolder
    | .nothing => .error .missing
    | .folder =>
      if name = "" ∨ name = "." then f.follow location rest
      else if name = ".." then f.follow location.dropLast rest
      else if longestName < name.utf8ByteSize then .error .nameTooLong
      else f.follow (location ++ [name]) rest

/-- The location that some names of a path lead to. -/
def locate (f : Folder) (path : String) (names : List String) : Except FileError Location :=
  if path = "" then .error .missing
  else if longestPath < path.utf8ByteSize then .error .nameTooLong
  else f.follow (if path.toList.head? = some '/' then [] else home) names

/-- The text of a file. -/
def read (f : Folder) (path : String) : Except FileError String := do
  match f.entry (← f.locate path (names path)) with
  | .file text => .ok text
  | .folder => .error .isFolder
  | .nothing => .error .missing

/-- Makes a file with a text, in place of an old one. A path that ends with a slash names a folder,
whether there is one or not. -/
def write (f : Folder) (path text : String) : Except FileError Folder := do
  let names := names path
  let location ← f.locate path (if names.getLast? = some "" then names.dropLast else names)
  if names.getLast? = some "" || f.entry location = .folder then .error .isFolder
  else .ok (f.put location text)

end Folder

end TruckDepot.Command
