import SealedKey.Bytes
import SealedKey.FileTree.Error

/-!
# File trees

A file tree holds directories and files below a root, and one of its directories is the
working directory, where relative paths start.  It is a finite map from locations to
entries; the root is a directory even though no entry says so.

A path is a text.  Its names are followed one after the other:

* every name but the last has to lead to a directory;
* an empty name and `.` stay, `..` goes back, and the root is its own parent;
* a path that ends in a slash, `.` or `..` leads to a directory.

`FileTree.read` and `FileTree.write` work on files, and `write` makes a file that does not
exist if its directory does.  `FileTree.makeDirectories` and `FileTree.remove` are there to
set a tree up.  `FileTree.listing` is what the working directory holds.
-/

namespace SealedKey

/-- The names on the way from the root to a place, the last one first. -/
abbrev Location := List String

/-- What a location holds. -/
inductive FileTree.Entry where
  | file (contents : Bytes)
  | directory
deriving DecidableEq, Repr

/-- A tree of directories and files with a working directory. -/
structure FileTree where
  entries : List (Location × FileTree.Entry)
  workingDirectory : Location
deriving DecidableEq, Repr

namespace FileTree

/-! ## Entries -/

/-- What a location holds, if anything. -/
def get? (tree : FileTree) (place : Location) : Option Entry :=
  if place = [] then some .directory else tree.entries.lookup place

/-- Takes the entry of a location away. -/
def erase (tree : FileTree) (place : Location) : FileTree :=
  { tree with entries := tree.entries.filter (·.1 ≠ place) }

/-- Gives a location an entry, instead of the one that it may have. -/
def put (tree : FileTree) (place : Location) (entry : Entry) : FileTree :=
  { tree with entries := (place, entry) :: (tree.erase place).entries }

theorem lookup_filter_ne {entries : List (Location × Entry)} {place other : Location}
    (h : other ≠ place) :
    (entries.filter (·.1 ≠ place)).lookup other = entries.lookup other := by
  induction entries with
  | nil => rfl
  | cons head entries ih =>
    obtain ⟨key, value⟩ := head
    by_cases hkey : key = place
    · subst hkey
      simpa [List.lookup_cons, beq_false_of_ne h] using ih
    · by_cases hother : other = key
      · simp [hkey, hother]
      · simpa [hkey, List.lookup_cons, beq_false_of_ne hother] using ih

theorem get?_put_self {tree : FileTree} {place : Location} {entry : Entry} (h : place ≠ []) :
    (tree.put place entry).get? place = some entry := by
  simp [get?, put, h]

theorem get?_put_of_ne {tree : FileTree} {place other : Location} {entry : Entry}
    (h : other ≠ place) : (tree.put place entry).get? other = tree.get? other := by
  have hbeq : (other == place) = false := by simpa using h
  by_cases hroot : other = []
  · simp [get?, hroot]
  · simp only [get?, hroot, if_false, put, erase, List.lookup_cons, hbeq]
    exact lookup_filter_ne h

/-! ## Following a path -/

/-- The greatest number of bytes of a path. -/
def maxPathSize : Nat := 4095

/-- The greatest number of bytes of a name. -/
def maxNameSize : Nat := 255

/-- What a name means in a directory, if anything. -/
def find (tree : FileTree) (folder : Location) (name : String) :
    Except FileError (Option Entry) :=
  if maxNameSize < name.utf8ByteSize then throw .nameTooLong
  else return tree.get? (name :: folder)

/-- The directory to which a name leads from a directory. -/
def enter (tree : FileTree) (folder : Location) (name : String) :
    Except FileError Location := do
  if name = "" ∨ name = "." then return folder
  else if name = ".." then return folder.tail
  else
    match ← tree.find folder name with
    | some .directory => return name :: folder
    | some (.file _) => throw .notDirectory
    | none => throw .missing

/-- The end of a path. -/
inductive Target where
  /-- A directory that the path names by dots, or the root. -/
  | folder (place : Location)
  /-- A name in a directory.  A slash after it says that it should be a directory, too. -/
  | named (folder : Location) (name : String) (slash : Bool)
deriving DecidableEq, Repr

/-- The names of a path from the last to the first, and whether slashes follow the last. -/
def reversedNames (path : String) : List String × Bool :=
  let names := (path.splitOn "/").reverse
  let kept := names.dropWhile (· = "")
  (kept, kept.length < names.length)

/-- Where a path leads, up to its last name. -/
def locate (tree : FileTree) (path : String) : Except FileError Target := do
  if path.contains '\x00' then throw .nulInPath
  if path = "" then throw .missing
  if maxPathSize < path.utf8ByteSize then throw .nameTooLong
  let start := if path.startsWith "/" then [] else tree.workingDirectory
  match reversedNames path with
  | ([], _) => return .folder start
  | (last :: before, slash) =>
    let folder ← before.reverse.foldlM tree.enter start
    if last = "." ∨ last = ".." then return .folder (← tree.enter folder last)
    else return .named folder last slash

/-! ## Files -/

/-- The contents of a file. -/
def read (tree : FileTree) (path : String) : Except FileError Bytes := do
  match ← tree.locate path with
  | .folder _ => throw .isDirectory
  | .named folder name slash =>
    match ← tree.find folder name with
    | some (.file contents) => if slash then throw .notDirectory else return contents
    | some .directory => throw .isDirectory
    | none => throw .missing

/-- Gives a file its contents, and makes it if there is none. -/
def write (tree : FileTree) (path : String) (contents : Bytes) : Except FileError FileTree := do
  match ← tree.locate path with
  | .folder _ | .named _ _ true => throw .isDirectory
  | .named folder name false =>
    match ← tree.find folder name with
    | some .directory => throw .isDirectory
    | some (.file _) | none => return tree.put (name :: folder) (.file contents)

/-- Takes a file away. -/
def remove (tree : FileTree) (path : String) : Except FileError FileTree := do
  let _ ← tree.read path
  match ← tree.locate path with
  | .folder _ => throw .isDirectory
  | .named folder name _ => return tree.erase (name :: folder)

/-! ## Directories -/

/-- The directory to which a name leads, which is made if there is nothing. -/
def enterOrMake (state : FileTree × Location) (name : String) :
    Except FileError (FileTree × Location) :=
  match state.1.enter state.2 name with
  | .ok folder => return (state.1, folder)
  | .error cause =>
    if cause = .missing then return (state.1.put (name :: state.2) .directory, name :: state.2)
    else throw cause

/-- Makes the directory that a path names, and all directories on the way. -/
def makeDirectories (tree : FileTree) (path : String) : Except FileError FileTree := do
  if path.contains '\x00' then throw .nulInPath
  let start := if path.startsWith "/" then [] else tree.workingDirectory
  return (← (path.splitOn "/").foldlM enterOrMake (tree, start)).1

/-- The directory part of a path: what stands before its last slash. -/
def parent (path : String) : String :=
  "/".intercalate (path.splitOn "/").dropLast

/-! ## Listings -/

/-- A location below a directory as a path from there, with a slash after a directory. -/
def relativePath (place : Location) (entry : Entry) : String :=
  "/".intercalate place.reverse ++
    match entry with
    | .file _ => ""
    | .directory => "/"

/-- A location without the way to a directory that it is below. -/
def below? (folder place : Location) : Option Location :=
  if folder.length < place.length ∧ place.drop (place.length - folder.length) = folder then
    some (place.take (place.length - folder.length))
  else none

/-- What is below the working directory, by path, in the order of the bytes of the paths. -/
def listing (tree : FileTree) : List (String × Entry) :=
  let found := tree.entries.filterMap fun (place, entry) =>
    (below? tree.workingDirectory place).map fun place => (relativePath place entry, entry)
  found.mergeSort fun a b => (a.1 ≤ b.1 : Bool)

/-- A tree with nothing in its working directory. -/
def empty : FileTree := ⟨[(["work"], .directory)], ["work"]⟩

end FileTree

end SealedKey
