/-
# Paths

A path is a root and a list of names.  Reading a path drops empty names and the
name `.`, so repeated and trailing slashes vanish; `..` is kept, because its
meaning depends on the tree.  Exactly two leading slashes are a root of their
own, one or more than two are the plain root.
-/

import CommandShell.Text.Split

namespace CommandShell

/-- Where a path starts. -/
inductive Path.Root
  | relative
  | slash
  | doubleSlash
  deriving DecidableEq, Repr

/-- How a root is written. -/
def Path.Root.text : Path.Root → String
  | .relative => ""
  | .slash => "/"
  | .doubleSlash => "//"

structure Path where
  root : Path.Root
  names : List String
  deriving DecidableEq, Repr

namespace Path

/-- The names in a text: what stands between its slashes, without empty names
and dots. -/
def namesIn (text : List Char) : List String :=
  ((Text.splitAt '/' text).map String.ofList).filter fun name => name != "" && name != "."

/-- The root that a text begins with. -/
def rootOf : List Char → Root
  | '/' :: '/' :: '/' :: _ => .slash
  | '/' :: '/' :: _ => .doubleSlash
  | '/' :: _ => .slash
  | _ => .relative

/-- Reads a path. -/
def ofString (text : String) : Path :=
  ⟨rootOf text.toList, namesIn text.toList⟩

/-- Writes a path; the empty relative path is a dot. -/
def text (path : Path) : String :=
  match path.root, path.names with
  | .relative, [] => "."
  | root, names => root.text ++ "/".intercalate names

/-- A path continued by another, which replaces it if it has a root. -/
def join (base next : Path) : Path :=
  match next.root with
  | .relative => ⟨base.root, base.names ++ next.names⟩
  | _ => next

/-- A path with further names. -/
def child (base : Path) (names : List String) : Path :=
  ⟨base.root, base.names ++ names⟩

/-- The path without its last name. -/
def parent (path : Path) : Path :=
  ⟨path.root, path.names.dropLast⟩

@[simp] theorem names_parent (path : Path) : path.parent.names = path.names.dropLast := rfl

/-- The path holds the character that no file name can hold. -/
def hasNul (path : Path) : Bool :=
  path.names.any fun name => name.toList.any (· == '\x00')

end Path

end CommandShell
