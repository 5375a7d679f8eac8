/-
# UTF-8

Encoding of characters as bytes, and the reading of bytes that may be damaged.

A byte sequence is read into *pieces*: each piece is either one character or one
maximal ill-formed run of bytes.  The strict reader refuses at the first
ill-formed piece and says where it stands and why; the lenient reader puts one
replacement character in its place.  Both are views of the same list of pieces,
so neither can disagree with the other about what is well-formed.

The reader keeps only the multi-byte sequence that is open (`Open`), with the
range its next byte must lie in.  The range is narrower than a continuation byte
exactly after the lead bytes `e0`, `ed`, `f0` and `f4`; that excludes overlong
forms, surrogates and values beyond the last code point without a later check.
-/

namespace CommandShell.Text.Utf8

/-- The bytes of a character: one to four, by the size of its code point. -/
def encodeChar (c : Char) : List UInt8 :=
  let n := c.toNat
  if n < 0x80 then [n.toUInt8]
  else if n < 0x800 then [(0xc0 + n / 0x40).toUInt8, (0x80 + n % 0x40).toUInt8]
  else if n < 0x10000 then
    [(0xe0 + n / 0x1000).toUInt8, (0x80 + n / 0x40 % 0x40).toUInt8, (0x80 + n % 0x40).toUInt8]
  else
    [(0xf0 + n / 0x40000).toUInt8, (0x80 + n / 0x1000 % 0x40).toUInt8,
      (0x80 + n / 0x40 % 0x40).toUInt8, (0x80 + n % 0x40).toUInt8]

/-- The bytes of a text. -/
def encode (text : List Char) : List UInt8 :=
  text.flatMap encodeChar

@[simp] theorem encode_cons (c : Char) (text : List Char) :
    encode (c :: text) = encodeChar c ++ encode text := rfl

@[simp] theorem encode_append (s t : List Char) : encode (s ++ t) = encode s ++ encode t :=
  List.flatMap_append

/-- Why a run of bytes is not well-formed. -/
inductive Reason
  /-- No character begins with this byte. -/
  | invalidStart
  /-- The sequence is broken off by a byte that cannot continue it. -/
  | invalidContinuation
  /-- The input ends inside a sequence. -/
  | unexpectedEnd
  deriving DecidableEq, Repr

/-- The words for a reason. -/
def Reason.message : Reason → String
  | .invalidStart => "invalid start byte"
  | .invalidContinuation => "invalid continuation byte"
  | .unexpectedEnd => "unexpected end of data"

/-- A multi-byte sequence that is not finished: the bytes read, the value they
give so far, how many bytes are missing, and the range of the next one. -/
structure Open where
  bytes : List UInt8
  value : Nat
  missing : Nat
  low : Nat
  high : Nat
  deriving DecidableEq, Repr

/-- One step of reading: a character, or a maximal ill-formed run. -/
inductive Piece
  | char (c : Char)
  | illFormed (bytes : List UInt8) (reason : Reason)
  deriving DecidableEq, Repr

/-- The bytes a piece was read from. -/
def Piece.bytes : Piece → List UInt8
  | .char c => encodeChar c
  | .illFormed bytes _ => bytes

/-- Reads a byte where no sequence is open. -/
def lead (b : UInt8) : List Piece × Option Open :=
  let n := b.toNat
  if n < 0x80 then ([.char (Char.ofNat n)], none)
  else if n < 0xc2 then ([.illFormed [b] .invalidStart], none)
  else if n < 0xe0 then ([], some ⟨[b], n - 0xc0, 1, 0x80, 0xbf⟩)
  else if n < 0xf0 then
    ([], some ⟨[b], n - 0xe0, 2, if n = 0xe0 then 0xa0 else 0x80, if n = 0xed then 0x9f else 0xbf⟩)
  else if n < 0xf5 then
    ([], some ⟨[b], n - 0xf0, 3, if n = 0xf0 then 0x90 else 0x80, if n = 0xf4 then 0x8f else 0xbf⟩)
  else ([.illFormed [b] .invalidStart], none)

/-- Reads a byte inside an open sequence.  A byte out of range closes the
sequence as ill-formed and is read again as a beginning. -/
def Open.extend (o : Open) (b : UInt8) : List Piece × Option Open :=
  if o.low ≤ b.toNat ∧ b.toNat ≤ o.high then
    let value := o.value * 0x40 + (b.toNat - 0x80)
    if o.missing ≤ 1 then ([.char (Char.ofNat value)], none)
    else ([], some ⟨o.bytes ++ [b], value, o.missing - 1, 0x80, 0xbf⟩)
  else
    let (pieces, next) := lead b
    (.illFormed o.bytes .invalidContinuation :: pieces, next)

/-- Reads one byte: the pieces it completes and the sequence it leaves open. -/
def advance : Option Open → UInt8 → List Piece × Option Open
  | none, b => lead b
  | some o, b => o.extend b

/-- The pieces of the bytes that follow an open sequence. -/
def piecesFrom (opened : Option Open) : List UInt8 → List Piece
  | [] => match opened with
    | none => []
    | some o => [.illFormed o.bytes .unexpectedEnd]
  | b :: rest => (advance opened b).1 ++ piecesFrom (advance opened b).2 rest

/-- The pieces of a byte sequence. -/
def pieces (bytes : List UInt8) : List Piece :=
  piecesFrom none bytes

/-- Stands for an ill-formed run. -/
def replacement : Char := '\ufffd'

/-- The character that the lenient reader gives for a piece. -/
def Piece.replaced : Piece → Char
  | .char c => c
  | .illFormed _ _ => replacement

/-- Lenient reading: one replacement character for each maximal ill-formed run. -/
def decodeLossy (bytes : List UInt8) : List Char :=
  (pieces bytes).map Piece.replaced

/-- The first ill-formed run of a byte sequence: the number of bytes before it,
its own bytes, and what is wrong with them. -/
structure Fault where
  start : Nat
  bytes : List UInt8
  reason : Reason
  deriving DecidableEq, Repr

/-- The characters of a list of pieces that begins `start` bytes into the
input, or its first fault. -/
def Piece.collect (start : Nat) : List Piece → Except Fault (List Char)
  | [] => .ok []
  | .char c :: rest =>
    match Piece.collect (start + (encodeChar c).length) rest with
    | .ok text => .ok (c :: text)
    | .error fault => .error fault
  | .illFormed bytes reason :: _ => .error ⟨start, bytes, reason⟩

/-- Strict reading. -/
def decode (bytes : List UInt8) : Except Fault (List Char) :=
  Piece.collect 0 (pieces bytes)

/-- The lower-case hexadecimal digit of a number below sixteen. -/
def hexDigit (n : Nat) : Char :=
  if n < 10 then Char.ofNat (0x30 + n) else Char.ofNat (0x57 + n)

/-- A byte as two hexadecimal digits. -/
def hexByte (b : UInt8) : String :=
  String.ofList [hexDigit (b.toNat / 16), hexDigit (b.toNat % 16)]

/-- The report of a fault: one byte is shown, a longer run is given by its
first and last position. -/
def Fault.message (fault : Fault) : String :=
  let what := match fault.bytes with
    | [b] => "byte 0x" ++ hexByte b ++ " in position " ++ toString fault.start
    | bytes => "bytes in position " ++ toString fault.start ++ "-" ++
        toString (fault.start + bytes.length - 1)
  "'utf-8' codec can't decode " ++ what ++ ": " ++ fault.reason.message

end CommandShell.Text.Utf8
