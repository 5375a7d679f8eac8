/-
# Nodes of a document

The structure of a document before its plain texts are read as numbers or words.
-/

import CommandShell.Config.Document.Token

namespace CommandShell.Config.Document

inductive Node
  | plain (text : String)
  | quoted (text : String)
  | sequence (items : List Node)
  | mapping (entries : List (Node × Node))
  deriving Repr, Inhabited

namespace Node

/-- What stands where nothing is written. -/
def empty : Node := .plain ""

end Node

namespace Scanner

/-- Refuses a token inside an enclosure. -/
def notSeparated {α : Type} (enclosure : Enclosure) (start : Mark) (token : Token) :
    Act Scanner α :=
  fail (.notSeparated enclosure token.kind.label start token.start)

/-- Passes the comma in front of a further part of an enclosure. -/
def passComma (enclosure : Enclosure) (start : Mark) (first : Bool) : Act Scanner Unit := do
  unless first do
    let token ← next
    if token.kind = .comma then discard take else notSeparated enclosure start token

mutual

/-- A value.  `steps` bounds the tokens that are looked at. -/
def readNode : (steps : Nat) → (top : Bool) → Act Scanner Node
  | 0, _ => do fail (.otherNotation (← place))
  | steps + 1, top => do
    let token ← next
    match token.kind with
    | .plain text => do
      discard take
      return .plain text
    | .quoted text => do
      discard take
      return .quoted text
    | .openSequence => do
      discard take
      return .sequence (← readItems steps token.start true)
    | .openMapping => do
      discard take
      return .mapping (← readEntries steps token.start true)
    | kind => fail (.noValue top kind.label token.start)

/-- The items of a sequence that begins at a place. -/
def readItems : (steps : Nat) → (start : Mark) → (first : Bool) → Act Scanner (List Node)
  | 0, _, _ => do fail (.otherNotation (← place))
  | steps + 1, start, first => do
    if (← next).kind = .closeSequence then
      discard take
      return []
    passComma .sequence start first
    match (← next).kind with
    | .closeSequence =>
      discard take
      return []
    | .key => fail (.otherNotation (← next).start)
    | _ =>
      let item ← readNode steps false
      return item :: (← readItems steps start false)

/-- The entries of a mapping that begins at a place. -/
def readEntries : (steps : Nat) → (start : Mark) → (first : Bool) →
    Act Scanner (List (Node × Node))
  | 0, _, _ => do fail (.otherNotation (← place))
  | steps + 1, start, first => do
    if (← next).kind = .closeMapping then
      discard take
      return []
    passComma .mapping start first
    match (← next).kind with
    | .closeMapping =>
      discard take
      return []
    | .key =>
      discard take
      let key ← if (← next).kind = .colon then pure Node.empty else readNode steps false
      let value ← readEntryValue steps
      return (key, value) :: (← readEntries steps start false)
    | _ =>
      let key ← readNode steps false
      return (key, .empty) :: (← readEntries steps start false)

/-- The value of an entry, behind its key. -/
def readEntryValue : (steps : Nat) → Act Scanner Node
  | 0 => do fail (.otherNotation (← place))
  | steps + 1 => do
    if (← next).kind ≠ .colon then return .empty
    discard take
    match (← next).kind with
    | .comma => return .empty
    | .closeMapping => return .empty
    | _ => readNode steps false

end

/-- The value of a document, if it has one, and nothing else. -/
def readDocument : Act Scanner (Option Node) := do
  let first ← next
  if first.kind = .finish then return none
  let node ← readNode (4 * (← get).source.rest.length + 4 * (← get).ahead.length + 4) true
  let last ← next
  if last.kind = .finish then return some node
  else fail (.afterValue last.kind.label last.start)

end Scanner

end CommandShell.Config.Document
