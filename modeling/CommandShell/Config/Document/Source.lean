/-
# The text of a document

A document is read in blocks.  A block may hold bytes that are not UTF-8 or a
character that no document may hold; that is met when the first character of the
block is asked for, not before.  So a text is a run of characters that can be
read without trouble, and what is met at its end: the end of the document, or
the trouble with the next block.
-/

import CommandShell.Act
import CommandShell.Config.Document.Trouble
import CommandShell.Text.Lines

namespace CommandShell.Config.Document

open CommandShell.Text

/-- What is left to read of a named document. -/
structure Source where
  name : String
  rest : List Char
  mark : Mark := {}
  /-- The trouble behind the rest; none if the document ends there. -/
  trouble : Option Trouble := none
  deriving Repr

/-- A character that a document may hold. -/
def isAcceptable (c : Char) : Bool :=
  let n := c.toNat
  n == 0x09 || n == 0x0a || n == 0x0d || (0x20 ≤ n && n ≤ 0x7e) || n == 0x85 ||
    (0xa0 ≤ n && n ≤ 0xd7ff) || (0xe000 ≤ n && n ≤ 0xfffd) || 0x10000 ≤ n

/-- A character that ends a line. -/
def isBreak (c : Char) : Bool :=
  c == '\n' || c == '\x85' || c == '\u2028' || c == '\u2029'

/-- The byte order mark, which takes no room on a line. -/
def byteOrderMark : Char := '\ufeff'

/-- The place behind a character. -/
def Mark.pass (mark : Mark) (c : Char) : Mark :=
  if isBreak c then ⟨mark.index + 1, mark.line + 1, 0⟩
  else if c = byteOrderMark then ⟨mark.index + 1, mark.line, mark.column⟩
  else ⟨mark.index + 1, mark.line, mark.column + 1⟩

namespace Source

/-- The number of bytes that are decoded at a time. -/
def byteBlock : Nat := 8192

/-- The number of characters in a block. -/
def block : Nat := 4096

/-- The characters before the block of a position.  The first two blocks are
read together. -/
def blockStart (position : Nat) : Nat :=
  if position < 2 * block then 0 else position / block * block

/-- The position from which bytes are decoded together with those that show a
fault: the bytes of a block, and those before it that began a character. -/
def decodingStart (bytes : List UInt8) (fault : Utf8.Fault) : Nat :=
  match fault.reason with
  | .unexpectedEnd => fault.start
  | .invalidStart => before (fault.start / byteBlock * byteBlock)
  | .invalidContinuation => before ((fault.start + fault.bytes.length) / byteBlock * byteBlock)
where
  /-- The end of the whole characters in front of a position. -/
  before (position : Nat) : Nat :=
    match Utf8.decode (bytes.take position) with
    | .ok _ => position
    | .error fault => fault.start

/-- A text with unified line endings, except that a carriage return at its end
is held back, as a line feed may follow. -/
def settled (text : List Char) : List Char :=
  unifyNewlines (if text.getLast? = some '\r' then text.dropLast else text)

/-- The characters of a byte sequence up to the block with the first fault, and
the fault with its position in what is decoded together. -/
def decoded (bytes : List UInt8) : List Char × Option Trouble :=
  match Utf8.decode bytes with
  | .ok text => (unifyNewlines text, none)
  | .error fault =>
    let start := decodingStart bytes fault
    let text := settled (Utf8.decodeLossy (bytes.take start))
    (text.take (blockStart text.length),
      some (.undecodable { fault with start := fault.start - start }))

/-- A text up to the block with the first character that it may not hold. -/
def accepted (text : List Char) (trouble : Option Trouble) : List Char × Option Trouble :=
  let front := text.takeWhile isAcceptable
  match text[front.length]? with
  | none => (text, trouble)
  | some c => (text.take (blockStart front.length), some (.unacceptable c front.length))

/-- The text of a document. -/
def ofBytes (name : String) (bytes : List UInt8) : Source :=
  let (text, trouble) := decoded bytes
  let (rest, trouble) := accepted text trouble
  { name, rest, trouble }

/-- Reports a trouble. -/
def fail {α : Type} (trouble : Trouble) : Act Source α := do
  throw (trouble.failure (← get).name)

/-- Meets what is behind the rest, which need not be trouble. -/
def meetEnd : Act Source Unit := do
  match (← get).trouble with
  | some trouble => fail trouble
  | none => return

/-- A character ahead; none if the document ends before it. -/
def peek (ahead : Nat) : Act Source (Option Char) := do
  match (← get).rest[ahead]? with
  | some c => return c
  | none =>
    meetEnd
    return none

/-- Passes a number of characters.  The next one is asked for at once. -/
def pass (count : Nat) : Act Source Unit := do
  modify fun source =>
    { source with
      mark := (source.rest.take count).foldl Mark.pass source.mark
      rest := source.rest.drop count }
  discard (peek 0)

/-- Takes the characters up to the first that does not belong. -/
def takeRun (belongs : Char → Bool) : Act Source (List Char) := do
  let run := (← get).rest.takeWhile belongs
  discard (peek run.length)
  pass run.length
  return run

end Source

end CommandShell.Config.Document
