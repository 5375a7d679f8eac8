/-
# File trees

A tree of directories and files, as a map from locations to nodes.  A path is
resolved name by name, the way a file system does it: each name is looked up in
a directory that must be there, so `a/../b` needs `a`, and the fault met first
is the one reported.  Only the last name may be missing.

A location is given by the names that lead to it from the working directory.
The directories above that are reached by `..`; a location below the root starts
with the name `/`, which no entry can have.  All of these are always there.

There are no links and no permissions, and a file that has been opened can be read
and written to its end.
-/

import CommandShell.Path
import CommandShell.Text.Quoted

namespace CommandShell

/-- The faults that a file system reports. -/
inductive SystemError
  | notFound
  | alreadyExists
  | notDirectory
  | isDirectory
  | nameTooLong
  deriving DecidableEq, Repr

namespace SystemError

/-- The number of a fault. -/
def number : SystemError → Nat
  | .notFound => 2
  | .alreadyExists => 17
  | .notDirectory => 20
  | .isDirectory => 21
  | .nameTooLong => 36

/-- The words for a fault. -/
def reason : SystemError → String
  | .notFound => "No such file or directory"
  | .alreadyExists => "File exists"
  | .notDirectory => "Not a directory"
  | .isDirectory => "Is a directory"
  | .nameTooLong => "File name too long"

end SystemError

/-- Why a file operation is refused. -/
inductive Refusal
  /-- The path holds U+0000; the file system is not asked. -/
  | nulInPath
  /-- The file system reports a fault at a path. -/
  | system (error : SystemError) (path : Path)
  deriving DecidableEq, Repr

/-- The report of a refusal. -/
def Refusal.message : Refusal → String
  | .nulInPath => "embedded null byte"
  | .system error path =>
    "[Errno " ++ toString error.number ++ "] " ++ error.reason ++ ": " ++ Text.quoted path.text

/-- A place in a tree: the names that lead to it. -/
abbrev Location := List String

/-- What stands at a location. -/
inductive Node
  | file (bytes : List UInt8)
  | directory
  deriving DecidableEq, Repr

structure FileTree where
  nodes : List (Location × Node) := []
  deriving DecidableEq, Repr

namespace FileTree

/-- The location of the root directory. -/
def rootLocation : Location := ["/"]

/-- The working directory, a directory above it, or the root directory. -/
def isBase (location : Location) : Bool :=
  location.all (· == "..") || location == rootLocation

/-- What stands at a location; the bases are always directories. -/
def get? (tree : FileTree) (location : Location) : Option Node :=
  if isBase location then some .directory else tree.nodes.lookup location

/-- The tree with a node put at a location. -/
def put (tree : FileTree) (location : Location) (node : Node) : FileTree :=
  ⟨(location, node) :: tree.nodes.filter fun entry => entry.1 != location⟩

/-- Putting a node is seen at its own location. -/
theorem get?_put_self (tree : FileTree) {location : Location} (node : Node)
    (h : isBase location = false) : (tree.put location node).get? location = some node := by
  simp [get?, put, h]

/-- Dropping one key is not seen at another. -/
theorem lookup_filter_of_ne {location other : Location} (h : other ≠ location)
    (nodes : List (Location × Node)) :
    (nodes.filter fun entry => entry.1 != location).lookup other = nodes.lookup other := by
  induction nodes with
  | nil => rfl
  | cons entry rest ih =>
    obtain ⟨key, node⟩ := entry
    by_cases he : key = location
    · have hne : (other == key) = false := beq_eq_false_iff_ne.mpr (he ▸ h)
      rw [List.filter_cons_of_neg (by simp [he]), ih, List.lookup_cons, hne]
    · rw [List.filter_cons_of_pos (by simpa using he), List.lookup_cons, List.lookup_cons, ih]

/-- Putting a node is seen at no other location. -/
theorem get?_put_of_ne (tree : FileTree) {location other : Location} (node : Node)
    (h : other ≠ location) : (tree.put location node).get? other = tree.get? other := by
  have hne : (other == location) = false := beq_eq_false_iff_ne.mpr h
  simp only [get?, put, List.lookup_cons, hne, lookup_filter_of_ne h]

/-- The directory above a location; the root has none above it. -/
def above (location : Location) : Location :=
  if location = rootLocation then location
  else if isBase location then location ++ [".."]
  else location.dropLast

/-- The longest name, in bytes. -/
def nameLimit : Nat := 255

/-- A path of this many bytes is too long to be looked up. -/
def pathLimit : Nat := 4096

/-- Follows names from a location.  Every name is looked up in a directory; the
last one need not be there. -/
def walk (tree : FileTree) : Location → List String → Except SystemError Location
  | location, [] => .ok location
  | location, name :: rest =>
    match tree.get? location with
    | none => .error .notFound
    | some (.file _) => .error .notDirectory
    | some .directory =>
      if name = ".." then tree.walk (above location) rest
      else if name.utf8ByteSize > nameLimit then .error .nameTooLong
      else tree.walk (location ++ [name]) rest

/-- The base that a path starts from. -/
def base (path : Path) : Location :=
  match path.root with
  | .relative => []
  | _ => rootLocation

/-- The location that a path names, whether or not something stands there. -/
def resolve (tree : FileTree) (path : Path) : Except Refusal Location :=
  if path.hasNul then .error .nulInPath
  else if path.text.utf8ByteSize ≥ pathLimit then .error (.system .nameTooLong path)
  else match tree.walk (base path) path.names with
    | .ok location => .ok location
    | .error error => .error (.system error path)

/-- What stands at a path. -/
def lookup (tree : FileTree) (path : Path) : Except Refusal Node := do
  let location ← tree.resolve path
  match tree.get? location with
  | some node => return node
  | none => throw (.system .notFound path)

/-- The contents of a file. -/
def read (tree : FileTree) (path : Path) : Except Refusal (List UInt8) := do
  match ← tree.lookup path with
  | .file bytes => return bytes
  | .directory => throw (.system .isDirectory path)

/-- Asks a question about a path.  A path that leads nowhere has the answer no;
a name that is too long is a fault, not an answer. -/
def ask (tree : FileTree) (path : Path) (question : Node → Bool) : Except Refusal Bool :=
  match tree.lookup path with
  | .ok node => .ok (question node)
  | .error (.system .nameTooLong path) => .error (.system .nameTooLong path)
  | .error _ => .ok false

/-- Something stands at a path. -/
def isThere (tree : FileTree) (path : Path) : Except Refusal Bool :=
  tree.ask path fun _ => true

/-- A file stands at a path. -/
def isFile (tree : FileTree) (path : Path) : Except Refusal Bool :=
  tree.ask path fun
    | .file _ => true
    | .directory => false

/-- A directory stands at a path. -/
def isDirectory (tree : FileTree) (path : Path) : Except Refusal Bool :=
  tree.ask path (· == .directory)

/-- Opens a file for writing, which makes it if it is missing, and replaces its
contents. -/
def update (tree : FileTree) (path : Path) (change : List UInt8 → List UInt8) :
    Except Refusal FileTree := do
  let location ← tree.resolve path
  match tree.get? location with
  | some .directory => throw (.system .isDirectory path)
  | some (.file bytes) => return tree.put location (.file (change bytes))
  | none => return tree.put location (.file (change []))

/-- Gives a file new contents. -/
def write (tree : FileTree) (path : Path) (bytes : List UInt8) : Except Refusal FileTree :=
  tree.update path fun _ => bytes

/-- Adds to the end of a file. -/
def append (tree : FileTree) (path : Path) (bytes : List UInt8) : Except Refusal FileTree :=
  tree.update path (· ++ bytes)

/-- Makes a directory in one that is there. -/
def makeDirectory (tree : FileTree) (path : Path) : Except Refusal FileTree := do
  let location ← tree.resolve path
  match tree.get? location with
  | some _ => throw (.system .alreadyExists path)
  | none => return tree.put location .directory

/-- A directory that could not be made is no failure if it is there already. -/
def settle (tree : FileTree) (path : Path) (refusal : Refusal) : Except Refusal Unit :=
  match refusal with
  | .nulInPath => .error refusal
  | .system _ _ => do
    if ← tree.isDirectory path then return else throw refusal

/-- Makes a directory and those above it, for a path given by its root and its
names in reverse.  Directories made before a refusal stay. -/
def makeDirectoriesFrom (tree : FileTree) (root : Path.Root) :
    List String → Except Refusal Unit × FileTree
  | [] =>
    match tree.makeDirectory ⟨root, []⟩ with
    | .ok made => (.ok (), made)
    | .error refusal => (tree.settle ⟨root, []⟩ refusal, tree)
  | last :: front =>
    let path : Path := ⟨root, (last :: front).reverse⟩
    match tree.makeDirectory path with
    | .ok made => (.ok (), made)
    | .error (.system .notFound _) =>
      match tree.makeDirectoriesFrom root front with
      | (.error refusal, above) => (.error refusal, above)
      | (.ok (), above) =>
        match above.makeDirectory path with
        | .ok made => (.ok (), made)
        | .error refusal => (above.settle path refusal, above)
    | .error refusal => (tree.settle path refusal, tree)

/-- Makes a directory and those above it that are missing. -/
def makeDirectories (tree : FileTree) (path : Path) : Except Refusal Unit × FileTree :=
  tree.makeDirectoriesFrom path.root path.names.reverse

/-- All nodes below the working directory with their paths, sorted by path. -/
def listing (tree : FileTree) : List (String × Node) :=
  let below := tree.nodes.filter fun entry =>
    entry.1.head? != some "/" && entry.1.head? != some ".."
  let named := below.map fun entry => ("/".intercalate entry.1, entry.2)
  named.mergeSort fun a b => a.1 ≤ b.1

end FileTree

end CommandShell
