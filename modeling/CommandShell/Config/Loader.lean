/-
# Loaders of documents

Configuration documents are read by a program that is not part of the shell.  The
shell relies on little of it: a document comes to a value, a value counts as true or
not and is a mapping or not, and only a mapping without entries counts as false.
-/

import CommandShell.Failure

namespace CommandShell.Config

structure Loader where
  /-- What documents come to. -/
  Loaded : Type
  /-- Reads the document in a file of the given name. -/
  load : (name : String) → List UInt8 → Except Failure Loaded
  /-- The value counts as true. -/
  truth : Loaded → Bool
  isMapping : Loaded → Bool
  /-- The value of a document with nothing in it. -/
  null : Loaded
  /-- The mapping without entries. -/
  empty : Loaded
  truth_null : truth null = false
  isMapping_empty : isMapping empty = true
  eq_empty_of_isMapping {value : Loaded} : isMapping value = true → truth value = false →
    value = empty

end CommandShell.Config
