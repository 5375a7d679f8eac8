/-
# Configuration values

The values of a configuration document: nothing, truth values, numbers, texts,
lists and mappings.  A mapping keeps its entries in order and has each key once.
-/

import CommandShell.Decimal.Shortest
import CommandShell.Text.Quoted

namespace CommandShell.Config

inductive Value
  | null
  | bool (value : Bool)
  | int (value : Int)
  | float (value : Decimal.Binary64)
  | string (value : String)
  | list (items : List Value)
  | mapping (entries : List (String × Value))
  deriving Repr, Inhabited

/-- The entries of a mapping. -/
abbrev Mapping := List (String × Value)

namespace Value

/-- A value counts as true unless it is nothing, false, zero or empty. -/
def truth : Value → Bool
  | .null => false
  | .bool value => value
  | .int value => value != 0
  | .float value => !value.isZero
  | .string value => value != ""
  | .list items => !items.isEmpty
  | .mapping entries => !entries.isEmpty

/-- The entries of a value that is a mapping. -/
def entries? : Value → Option Mapping
  | .mapping entries => some entries
  | _ => none

/-- A value as it is written inside a list or a mapping, where texts are
quoted. -/
def written : Value → String
  | .null => "None"
  | .bool true => "True"
  | .bool false => "False"
  | .int value => toString value
  | .float value => value.text
  | .string value => Text.quoted value
  | .list items => "[" ++ ", ".intercalate (writtenItems items) ++ "]"
  | .mapping entries => "\x7b" ++ ", ".intercalate (writtenEntries entries) ++ "\x7d"
where
  /-- The items of a list. -/
  writtenItems : List Value → List String
    | [] => []
    | item :: rest => written item :: writtenItems rest
  /-- The entries of a mapping, each with its key. -/
  writtenEntries : List (String × Value) → List String
    | [] => []
    | (key, value) :: rest => (Text.quoted key ++ ": " ++ written value) :: writtenEntries rest

/-- The text of a value: a text is itself, everything else is as it is
written. -/
def text : Value → String
  | .string value => value
  | value => value.written

end Value

/-- A mapping with a key set: in place if it is there, else at the end. -/
def Mapping.set (mapping : Mapping) (key : String) (value : Value) : Mapping :=
  if mapping.any (·.1 == key) then
    mapping.map fun entry => if entry.1 = key then (key, value) else entry
  else mapping ++ [(key, value)]

end CommandShell.Config
