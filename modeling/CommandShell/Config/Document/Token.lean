/-
# Tokens of a document

A document is cut into tokens.  A text is a key if a colon follows it on its own
line and not too far away; so a token that may turn out to begin a key is held
until that is decided, and tokens are read ahead meanwhile.  What is found wrong
while reading ahead is reported before the tokens in front of it are looked at.
-/

import CommandShell.Config.Document.Quoted

namespace CommandShell.Config.Document

inductive TokenKind
  | openSequence
  | closeSequence
  | openMapping
  | closeMapping
  | comma
  /-- Announces that a key follows. -/
  | key
  | colon
  | plain (text : String)
  | quoted (text : String)
  | finish
  deriving DecidableEq, Repr

/-- How reports name a token. -/
def TokenKind.label : TokenKind → String
  | .openSequence => "["
  | .closeSequence => "]"
  | .openMapping => "\x7b"
  | .closeMapping => "\x7d"
  | .comma => ","
  | .key => "?"
  | .colon => ":"
  | .plain _ => "<scalar>"
  | .quoted _ => "<scalar>"
  | .finish => "<stream end>"

/-- A token and where it begins. -/
structure Token where
  kind : TokenKind
  start : Mark
  deriving DecidableEq, Repr

/-- A token that may begin a key: its number, the nesting around it, and where
it begins. -/
structure Candidate where
  number : Nat
  nesting : Nat
  start : Mark
  deriving DecidableEq, Repr

/-- The greatest distance from the beginning of a key to its colon. -/
def keyLimit : Nat := 1024

/-- The place is near enough for the colon of a key. -/
def Candidate.isLive (candidate : Candidate) (place : Mark) : Bool :=
  candidate.start.line == place.line && place.index - candidate.start.index ≤ keyLimit

structure Scanner where
  source : Source
  /-- Tokens read and not yet taken. -/
  ahead : List Token := []
  /-- The number of tokens taken. -/
  taken : Nat := 0
  nesting : Nat := 0
  /-- The next token may begin a key. -/
  keyAllowed : Bool := true
  /-- At most one candidate for each nesting. -/
  candidates : List Candidate := []
  /-- The end of the document has been read. -/
  finished : Bool := false
  deriving Repr

namespace Scanner

/-- Reads from the source. -/
def onSource {α : Type} (act : Act Source α) : Act Scanner α :=
  Act.zoom (·.source) (fun source scanner => { scanner with source }) act

/-- Reports a trouble. -/
def fail {α : Type} (trouble : Trouble) : Act Scanner α :=
  onSource (Source.fail trouble)

/-- The place that reading has come to. -/
def place : Act Scanner Mark :=
  return (← get).source.mark

/-- Adds a token. -/
def push (kind : TokenKind) (start : Mark) : Act Scanner Unit :=
  modify fun scanner => { scanner with ahead := scanner.ahead ++ [⟨kind, start⟩] }

/-- Forgets the candidates that are too far away by now. -/
def forgetStale : Act Scanner Unit :=
  modify fun scanner =>
    { scanner with candidates := scanner.candidates.filter (·.isLive scanner.source.mark) }

/-- Forgets the candidate of the present nesting. -/
def forgetCandidate : Act Scanner Unit :=
  modify fun scanner =>
    { scanner with candidates := scanner.candidates.filter (·.nesting != scanner.nesting) }

/-- Makes the next token a candidate, if it may begin a key. -/
def noteCandidate : Act Scanner Unit := do
  if (← get).keyAllowed then
    forgetCandidate
    modify fun scanner =>
      { scanner with
        candidates :=
          ⟨scanner.taken + scanner.ahead.length, scanner.nesting, scanner.source.mark⟩ ::
            scanner.candidates }

/-- Says whether the next token may begin a key. -/
def allowKey (allowed : Bool) : Act Scanner Unit :=
  modify fun scanner => { scanner with keyAllowed := allowed }

/-- The white space, line endings and comments at the front of a text, and
whether a line ends in them. -/
def gap : (inComment : Bool) → List Char → Nat × Bool
  | _, [] => (0, false)
  | inComment, c :: rest =>
    if isBreak c then ((gap false rest).1 + 1, true)
    else if inComment || c == ' ' then ((gap inComment rest).1 + 1, (gap inComment rest).2)
    else if c == '#' then ((gap true rest).1 + 1, (gap true rest).2)
    else (0, false)

/-- Passes what stands between two tokens. -/
def passGap : Act Scanner Unit := do
  let start := (← get).source
  if start.mark.index = 0 ∧ start.rest.head? = some byteOrderMark then onSource (Source.pass 1)
  let (length, broken) := gap false (← get).source.rest
  onSource (Source.pass length)
  if broken && (← get).nesting = 0 then allowKey true

/-- Reads one of the characters that are tokens of their own. -/
def readSign (kind : TokenKind) : Act Scanner Unit := do
  let start ← place
  onSource (Source.pass 1)
  push kind start

/-- Reads the beginning of an enclosure. -/
def readOpening (kind : TokenKind) : Act Scanner Unit := do
  noteCandidate
  modify fun scanner => { scanner with nesting := scanner.nesting + 1, keyAllowed := true }
  readSign kind

/-- Reads the end of an enclosure. -/
def readClosing (kind : TokenKind) : Act Scanner Unit := do
  forgetCandidate
  modify fun scanner => { scanner with nesting := scanner.nesting - 1, keyAllowed := false }
  readSign kind

/-- Reads a comma. -/
def readComma : Act Scanner Unit := do
  allowKey true
  forgetCandidate
  readSign .comma

/-- Reads a colon.  If there is a candidate, a key begins there. -/
def readColon : Act Scanner Unit := do
  let scanner ← get
  match scanner.candidates.find? (·.nesting == scanner.nesting) with
  | some candidate =>
    modify fun scanner =>
      { scanner with
        ahead := scanner.ahead.insertIdx (candidate.number - scanner.taken)
          ⟨.key, candidate.start⟩
        keyAllowed := false }
  | none => allowKey false
  forgetCandidate
  readSign .colon

/-- Reads a quoted text. -/
def readText : Act Scanner Unit := do
  noteCandidate
  allowKey false
  let start ← place
  let text ← onSource Source.takeQuoted
  push (.quoted text) start

/-- A character that may stand in a plain text before the rest of it.  Brackets
and commas end it inside an enclosure, and so does a colon in front of them or
of white space. -/
def continuesPlain (nested : Bool) (c : Char) (next : Option Char) : Bool :=
  let ends (c : Char) : Bool :=
    isSpaceOrTab c || isBreak c || (nested && [',', '[', ']', '\x7b', '\x7d'].contains c)
  !(ends c || (nested && c == '?') || (c == ':' && next.all ends))

/-- The number of characters of a plain text at the front of a text. -/
def plainLength (nested : Bool) : List Char → Nat
  | [] => 0
  | c :: rest => if continuesPlain nested c rest.head? then plainLength nested rest + 1 else 0

/-- Reads a plain text, which is one word.  A line that ends behind it makes room
for a key. -/
def readPlain : Act Scanner Unit := do
  noteCandidate
  allowKey false
  let start ← place
  let scanner ← get
  let length := plainLength (scanner.nesting != 0) scanner.source.rest
  discard (onSource (Source.peek length))
  let text := scanner.source.rest.take length
  onSource (Source.pass length)
  discard (onSource (Source.takeRun (· == ' ')))
  if ((← get).source.rest.head?).any isBreak then allowKey true
  push (.plain (String.ofList text)) start

/-- Reads the end of the document. -/
def readEnd : Act Scanner Unit := do
  push .finish (← place)
  modify fun scanner =>
    { scanner with keyAllowed := false, candidates := [], finished := true }

/-- The characters that begin no plain text. -/
def signs : List Char :=
  ['-', '?', ':', ',', '[', ']', '\x7b', '\x7d', '#', '&', '*', '!', '|', '>', '\'', '"', '%',
    '@', '\x60']

/-- A character begins a plain text.  A dash does if no white space follows it. -/
def beginsPlain (c : Char) (next : Option Char) : Bool :=
  !(signs.contains c || isSpaceOrTab c || isBreak c) ||
    (c == '-' && next.any fun next => !(isSpaceOrTab next || isBreak next))

/-- A character begins a notation that these documents do not use. -/
def beginsOther (c : Char) (nesting : Nat) (start : Mark) : Bool :=
  ['-', '?', ':', '&', '*', '!', '\''].contains c || (nesting == 0 && (c == '|' || c == '>')) ||
    (start.column == 0 && c == '%')

/-- Reads on by at least one token. -/
def readOn : Act Scanner Unit := do
  passGap
  forgetStale
  let scanner ← get
  let start ← place
  match ← onSource (Source.peek 0) with
  | none => readEnd
  | some c =>
    if start.column = 0 && isSeparator scanner.source.rest then fail (.otherNotation start)
    else match c with
    | '[' => readOpening .openSequence
    | '\x7b' => readOpening .openMapping
    | ']' => readClosing .closeSequence
    | '\x7d' => readClosing .closeMapping
    | ',' => readComma
    | '"' => readText
    | c =>
      if c = ':' ∧ scanner.nesting ≠ 0 then readColon
      else if beginsPlain c (← onSource (Source.peek 1)) then readPlain
      else if beginsOther c scanner.nesting start then fail (.otherNotation start)
      else fail (.strayCharacter c start)

/-- The next token may yet turn out to begin a key, or there is none. -/
def needsMore (scanner : Scanner) : Bool :=
  !scanner.finished &&
    (scanner.ahead.isEmpty || scanner.candidates.any (·.number == scanner.taken))

/-- Reads on until the next token is settled. -/
def settle : (steps : Nat) → Act Scanner Unit
  | 0 => return
  | steps + 1 => do
    forgetStale
    if (← get).needsMore then
      readOn
      settle steps

/-- The token behind which there is nothing. -/
def lastToken (scanner : Scanner) : Token :=
  ⟨.finish, scanner.source.mark⟩

/-- The next token. -/
def next : Act Scanner Token := do
  settle ((← get).source.rest.length + 2)
  let scanner ← get
  return scanner.ahead.headD scanner.lastToken

/-- Takes the next token. -/
def take : Act Scanner Token := do
  let token ← next
  modify fun scanner => { scanner with ahead := scanner.ahead.drop 1, taken := scanner.taken + 1 }
  return token

end Scanner

end CommandShell.Config.Document
