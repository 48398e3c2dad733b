import AmberTools.Files.Path
import AmberTools.Text.Quoted
import AmberTools.Text.Utf8

/-!
# File sets

A file set is what a program can see: files with their bytes, and directories, of which every
file's own exist. A path is followed name by name; two dots lead back to the directory before.
Of the directories above the one a program runs in nothing is known but that they are there.
-/

namespace AmberTools

/-- A file with its bytes, or a directory. -/
inductive FileEntry where
  | file (bytes : List UInt8)
  | directory
  deriving DecidableEq, Repr

/-- Files and directories by the paths that lead to them without going back. -/
structure FileSet where
  entries : List (Path × FileEntry) := []
  deriving DecidableEq, Repr

/-- Why a path cannot be read or started. -/
inductive FileFault where
  | missing
  | denied
  | notDirectory
  | isDirectory
  | nameTooLong
  deriving DecidableEq, Repr

namespace FileFault

/-- The number of a fault. -/
def number : FileFault → Nat
  | missing => 2
  | denied => 13
  | notDirectory => 20
  | isDirectory => 21
  | nameTooLong => 36

/-- The words for a fault. -/
def words : FileFault → String
  | missing => "No such file or directory"
  | denied => "Permission denied"
  | notDirectory => "Not a directory"
  | isDirectory => "Is a directory"
  | nameTooLong => "File name too long"

/-- The wording of a fault at a place with a wide name. -/
def messageAt (fault : FileFault) (name : WideText) : String :=
  s!"[Errno {fault.number}] {fault.words}: {String.ofList (Quoted.encodeWide name)}"

/-- The wording of a fault at a path. -/
def message (fault : FileFault) (path : Text) : String := fault.messageAt path.wide

end FileFault

namespace FileSet

/-- The set of files and directories given by texts; one with a slash at its end is a
directory. -/
def ofList (given : List (Text × List UInt8)) : FileSet :=
  ⟨given.map fun (name, bytes) =>
    (Path.ofText name, if name.getLast? = some '/' then .directory else .file bytes)⟩

/-- Whether a path leads to a directory on the way to another. -/
def leadsTo (path longer : Path) : Bool :=
  path.root == longer.root && path.names.isPrefixOf longer.names

/-- What is at the end of a path that does not go back: an entry of the set, or a directory that
leads to one. -/
def entry? (files : FileSet) (path : Path) : Option FileEntry :=
  if path.names.isEmpty then some .directory
  else match files.entries.find? fun e => e.1 == path with
    | some e => some e.2
    | none => if files.entries.any fun e => leadsTo path e.1 then some .directory else none

/-- The greatest number of bytes in a name. -/
def longestName : Nat := 255

/-- The greatest number of bytes in a path. -/
def longestPath : Nat := 4095

/-- A place that has been reached: a path that does not go back, or a directory above the one a
program runs in. -/
inductive Place where
  | within (path : Path)
  | above
  deriving DecidableEq, Repr

namespace Place

/-- The directory before a place. Nothing is before the root. -/
def back : Place → Place
  | above => above
  | within path =>
    if path.names.isEmpty then if path.root = .relative then above else within path
    else within { path with names := path.names.dropLast }

/-- The place a name leads to. Names in directories above are not known. -/
def enter (name : Text) (place : Place) : Except FileFault Place :=
  if longestName < (Utf8.encode name).length then .error .nameTooLong
  else match place with
    | above => .error .missing
    | within path => .ok (within { path with names := path.names ++ [name] })

end Place

/-- What is at a place. -/
def at? (files : FileSet) : Place → Option FileEntry
  | .above => some .directory
  | .within path => files.entry? path

/-- The place that names lead to from another; only directories lead further. -/
def follow (files : FileSet) (place : Place) : List Text → Except FileFault Place
  | [] => .ok place
  | name :: names =>
    match files.at? place with
    | none => .error .missing
    | some (.file _) => .error .notDirectory
    | some .directory =>
      if name = "..".toList then follow files place.back names
      else match place.enter name with
        | .ok next => follow files next names
        | .error fault => .error fault

/-- What is at the end of a path, and the place there. -/
def find (files : FileSet) (path : Path) : Except FileFault (Place × FileEntry) :=
  if longestPath < (Utf8.encode path.text).length then .error .nameTooLong
  else match files.follow (.within ⟨path.root, []⟩) path.names with
    | .error fault => .error fault
    | .ok place =>
      match files.at? place with
      | some entry => .ok (place, entry)
      | none => .error .missing

/-- The bytes of the file at a path. -/
def read (files : FileSet) (path : Path) : Except FileFault (List UInt8) :=
  match files.find path with
  | .ok (_, .file bytes) => .ok bytes
  | .ok (_, .directory) => .error .isDirectory
  | .error fault => .error fault

/-- The set with other bytes in the file at a path, if there is one. -/
def write (files : FileSet) (path : Path) (bytes : List UInt8) : FileSet :=
  match files.find path with
  | .ok (.within found, .file _) =>
    ⟨files.entries.map fun e => if e.1 = found then (e.1, .file bytes) else e⟩
  | _ => files

end FileSet
end AmberTools
