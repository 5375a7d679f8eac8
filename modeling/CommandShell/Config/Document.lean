/-
# Configuration documents

A loader for documents in flow style: quoted texts, plain words and numbers, lists
in brackets and mappings in braces, with comments between them.  A document with
nothing in it holds nothing, which is a value too.  Other notations are refused.

What is known of loaders in general does not depend on this one.
-/

import CommandShell.Config.Document.Node
import CommandShell.Config.Document.Scalar
import CommandShell.Config.Loader

namespace CommandShell.Config.Document

namespace Node

/-- What a node holds, in order: items, or each key before its value. -/
def children : Node → List Node
  | .sequence items => items
  | .mapping entries => entries.flatMap fun entry => [entry.1, entry.2]
  | _ => []

/-- The number of digits of a whole number that has too many. -/
def tooLong? : Node → Option Nat
  | .plain text =>
    match wholeDigits? text.toList with
    | some (_, digits) =>
      if digits.length > Failure.digitLimit then some digits.length else none
    | none => none
  | _ => none

/-- The first number with too many digits.  Nodes are looked at level by level,
from the outermost one inwards. -/
def firstTooLong? : (levels : Nat) → List Node → Option Nat
  | 0, _ => none
  | levels + 1, nodes =>
    if nodes.isEmpty then none
    else (nodes.findSome? tooLong?).or (firstTooLong? levels (nodes.flatMap children))

/-- The text that a node is as a key. -/
def keyText : Node → String
  | .quoted text => text
  | .plain text => (plainValue text).text
  | _ => ""

/-- The value of a node. -/
def value : Node → Value
  | .plain text => plainValue text
  | .quoted text => .string text
  | .sequence items => .list (values items)
  | .mapping entries => .mapping (entryValues [] entries)
where
  /-- The values of items. -/
  values : List Node → List Value
    | [] => []
    | item :: rest => value item :: values rest
  /-- The entries of a mapping.  A key that comes again takes the new value. -/
  entryValues (before : Mapping) : List (Node × Node) → Mapping
    | [] => before
    | (key, item) :: rest => entryValues (Mapping.set before key.keyText (value item)) rest

end Node

/-- The value of a named document. -/
def read (name : String) (bytes : List UInt8) : Except Failure Value := do
  match ← (Scanner.readDocument.perform { source := .ofBytes name bytes }).1 with
  | none => return .null
  | some node =>
    match Node.firstTooLong? (bytes.length + 1) [node] with
    | some digits => throw (.longNumeral digits)
    | none => return node.value

/-- The loader for documents in flow style. -/
def loader : Loader where
  Loaded := Value
  load := read
  truth := Value.truth
  isMapping value := value.entries?.isSome
  null := .null
  empty := .mapping []
  truth_null := rfl
  isMapping_empty := rfl
  eq_empty_of_isMapping {value} mapping untrue := by
    cases value with
    | mapping entries =>
      obtain rfl : entries = [] := by simpa [Value.truth] using untrue
      rfl
    | _ => cases mapping

end CommandShell.Config.Document
