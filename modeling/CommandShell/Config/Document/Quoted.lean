/-
# Quoted texts in a document

A text in double quotes is read character by character.  White space is held
back until it is known what follows: in front of a line ending it is dropped,
and a single line ending becomes a space, while of several the first is dropped.
Line endings of the two Unicode kinds are kept.
-/

import CommandShell.Config.Document.Source

namespace CommandShell.Config.Document

/-- White space inside a line. -/
def isSpaceOrTab (c : Char) : Bool :=
  c == ' ' || c == '\t'

/-- What a line ending stands for. -/
def lineEnding (c : Char) : Char :=
  if c = '\x85' then '\n' else c

/-- What is held back inside a quoted text. -/
inductive Held
  /-- White space since the last character. -/
  | spaces (run : List Char)
  /-- Line endings.  The first is missing if it was escaped; `opened` tells that
  nothing of the last line has been read. -/
  | endings (first : Option Char) (later : List Char) (opened : Bool)
  deriving DecidableEq, Repr

/-- What is held back stands for, once another character follows. -/
def Held.text : Held → List Char
  | .spaces run => run
  | .endings none later _ => later
  | .endings (some first) later _ =>
    if first ≠ '\n' then first :: later else if later.isEmpty then [' '] else later

/-- How far the reading of a quoted text has come. -/
inductive QuotedState
  | text (held : Held)
  /-- Behind a backslash. -/
  | escape
  /-- Inside the digits of an escape; `digits` begins with the first of them. -/
  | code (width missing value : Nat) (digits : List Char)
  deriving Repr

/-- Why the reading of a quoted text stops. -/
inductive QuotedStop
  | closed
  | ranOut
  | separator
  | unknownEscape (c : Char)
  | shortEscape (width : Nat) (c : Char)
  deriving DecidableEq, Repr

/-- What was read of a quoted text: code points, among which there may be the two
halves of one character, why reading stopped, and the characters from there on. -/
structure QuotedPart where
  codes : List Nat
  stop : QuotedStop
  rest : List Char
  deriving Repr

/-- Characters in front of what was read. -/
def QuotedPart.follow (text : List Char) (part : QuotedPart) : QuotedPart :=
  { part with codes := text.map Char.toNat ++ part.codes }

/-- A line that is the border between two documents: three dashes or dots, and
then white space or the end. -/
def isSeparator (text : List Char) : Bool :=
  (text.take 3 == ['-', '-', '-'] || text.take 3 == ['.', '.', '.']) &&
    match text[3]? with
    | none => true
    | some c => isSpaceOrTab c || isBreak c

/-- The character that a one-letter escape stands for. -/
def simpleEscape : Char → Option Char
  | '0' => some '\x00'
  | 'a' => some '\x07'
  | 'b' => some '\x08'
  | 't' => some '\t'
  | '\t' => some '\t'
  | 'n' => some '\n'
  | 'v' => some '\x0b'
  | 'f' => some '\x0c'
  | 'r' => some '\r'
  | 'e' => some '\x1b'
  | ' ' => some ' '
  | '"' => some '"'
  | '\\' => some '\\'
  | '/' => some '/'
  | 'N' => some '\x85'
  | '_' => some '\xa0'
  | 'L' => some '\u2028'
  | 'P' => some '\u2029'
  | _ => none

/-- The number of hexadecimal digits behind the letter of an escape. -/
def codeWidth : Char → Option Nat
  | 'x' => some 2
  | 'u' => some 4
  | 'U' => some 8
  | _ => none

/-- The value of a hexadecimal digit. -/
def hexValue (c : Char) : Option Nat :=
  if '0' ≤ c ∧ c ≤ '9' then some (c.toNat - 0x30)
  else if 'a' ≤ c ∧ c ≤ 'f' then some (c.toNat - 0x57)
  else if 'A' ≤ c ∧ c ≤ 'F' then some (c.toNat - 0x37)
  else none

/-- Reads a quoted text up to its closing quote. -/
def readQuoted : QuotedState → List Char → QuotedPart
  | .text _, [] => ⟨[], .ranOut, []⟩
  | .escape, [] => ⟨[], .unknownEscape '\x00', []⟩
  | .code width _ _ digits, [] => ⟨[], .shortEscape width '\x00', digits⟩
  | .text held, c :: rest =>
    if isSpaceOrTab c then
      match held with
      | .spaces run => readQuoted (.text (.spaces (run ++ [c]))) rest
      | .endings first later opened =>
        if opened && isSeparator (c :: rest) then ⟨[], .separator, c :: rest⟩
        else readQuoted (.text (.endings first later false)) rest
    else if isBreak c then
      match held with
      | .spaces _ => readQuoted (.text (.endings (lineEnding c) [] true)) rest
      | .endings first later _ =>
        readQuoted (.text (.endings first (later ++ [lineEnding c]) true)) rest
    else if held matches .endings _ _ true && isSeparator (c :: rest) then
      ⟨[], .separator, c :: rest⟩
    else if c = '"' then QuotedPart.follow held.text ⟨[], .closed, rest⟩
    else if c = '\\' then (readQuoted .escape rest).follow held.text
    else (readQuoted (.text (.spaces [])) rest).follow (held.text ++ [c])
  | .escape, c :: rest =>
    match simpleEscape c, codeWidth c with
    | some meant, _ => (readQuoted (.text (.spaces [])) rest).follow [meant]
    | none, some width => readQuoted (.code width width 0 rest) rest
    | none, none =>
      if isBreak c then readQuoted (.text (.endings none [] true)) rest
      else ⟨[], .unknownEscape c, c :: rest⟩
  | .code width missing value digits, c :: rest =>
    match hexValue c with
    | none => ⟨[], .shortEscape width c, digits⟩
    | some digit =>
      let value := value * 16 + digit
      if missing ≤ 1 then
        let part := readQuoted (.text (.spaces [])) rest
        { part with codes := value :: part.codes }
      else readQuoted (.code width (missing - 1) value digits) rest

/-- The characters of a list of code points; two halves of one character are
joined. -/
def joinHalves : List Nat → List Char
  | [] => []
  | high :: low :: rest =>
    if 0xd800 ≤ high ∧ high < 0xdc00 ∧ 0xdc00 ≤ low ∧ low < 0xe000 then
      Char.ofNat (0x10000 + (high - 0xd800) * 0x400 + (low - 0xdc00)) :: joinHalves rest
    else Char.ofNat high :: joinHalves (low :: rest)
  | [code] => [Char.ofNat code]

/-- The text of what was read. -/
def QuotedPart.text (part : QuotedPart) : String :=
  String.ofList (joinHalves part.codes)

namespace Source

/-- Takes a quoted text, from its opening quote on. -/
def takeQuoted : Act Source String := do
  let source ← get
  let start := source.mark
  let body := source.rest.drop 1
  let part := readQuoted (.text (.spaces [])) body
  let read := 1 + (body.length - part.rest.length)
  let place := (source.rest.take read).foldl Mark.pass start
  match part.stop with
  | .closed => pass read
  | .ranOut =>
    meetEnd
    fail (.unclosedText start place)
  | .separator => fail (.separatorInText start place)
  | .unknownEscape c =>
    if part.rest.isEmpty then meetEnd
    fail (.unknownEscape c start place)
  | .shortEscape width c =>
    if c = '\x00' then meetEnd
    fail (.shortEscape width c start place)
  return part.text

end Source

end CommandShell.Config.Document
