import LogSearch.Corpus.Loading

/-!
# Folders

The files below a working folder, and what reading a path gives.

* A path is a list of names separated by `/`. Empty names and `.` stay where they are, and `..`
  leads to the folder above.
* Nothing is known of what lies outside the working folder, except that it consists of folders.
-/

namespace LogSearch

/-- A working folder: the files in it and below it, each with the names that lead to it. -/
structure Folder where
  files : List (List String × List UInt8)
deriving DecidableEq, Repr

namespace Folder

/-- A place that a path leads to. -/
inductive Place where
  /-- A folder above the working folder, or not on the way to it. -/
  | outside
  /-- The folder at the end of these names, counted from the working folder. -/
  | folder (names : List String)
  | file (bytes : List UInt8)
deriving DecidableEq, Repr

/-- The place that one name leads to. -/
def step (folder : Folder) : Place → String → Except ReadFault Place
  | .file _, _ => .error .notDirectory
  | place, "" | place, "." => .ok place
  | .outside, ".." => .ok .outside
  | .outside, _ => .error .notFound
  | .folder [], ".." => .ok .outside
  | .folder names, ".." => .ok (.folder names.dropLast)
  | .folder names, name =>
    let names := names ++ [name]
    match folder.files.lookup names with
    | some bytes => .ok (.file bytes)
    | none =>
      if folder.files.any fun (path, _) => names.isPrefixOf path then .ok (.folder names)
      else .error .notFound

/-- The names of a path. -/
def names (path : String) : List String :=
  (path.toList.splitOn '/').map String.ofList

/-- The bytes of the file at a path. A path that starts with `/` starts outside the folder. -/
def read (folder : Folder) (path : String) : Except ReadFault (List UInt8) := do
  if path.isEmpty then throw .notFound
  if path.toList.contains '\x00' then throw .refused
  let start := if path.toList.head? = some '/' then Place.outside else .folder []
  match ← (names path).foldlM folder.step start with
  | .file bytes => return bytes
  | _ => throw .isDirectory

/-- The folder with these files, each given by its path. -/
def ofList (files : List (String × List UInt8)) : Folder :=
  ⟨files.map fun (path, bytes) => ((names path).filter fun name => name ≠ "" ∧ name ≠ ".", bytes)⟩

end Folder

end LogSearch
