/-
# Script payloads

A script travels inside the program as a list of fragments.  Each fragment is a
run of three-digit byte codes, `035033` for the two bytes of `#!`; digits
survive every text format without quoting.

Reading is strict.  The total length is looked at first; then each fragment in
turn, its length before its windows, and in a window the digits before the
range.  A character may be split between two fragments, a window may not.
-/

import CommandShell.Decimal.Digits
import CommandShell.Text.Quoted

namespace CommandShell.Payload

open CommandShell.Text

/-- The number of digits in a byte code. -/
def codeWidth : Nat := 3

/-- The usual number of bytes in a fragment. -/
def fragmentBytes : Nat := 24

/-- What can be wrong with a payload, in the order in which it is noticed. -/
inductive Defect
  /-- The length of all fragments together is no multiple of the code width. -/
  | totalLength (length : Nat)
  /-- The length of one fragment is no multiple of the code width. -/
  | fragmentLength (fragment length : Nat)
  /-- A window holds something else than three digits. -/
  | notDigits (fragment offset : Nat) (window : String)
  /-- A window holds a number beyond the last byte. -/
  | outOfRange (fragment offset code : Nat)
  /-- The bytes are not UTF-8. -/
  | notUtf8 (fault : Utf8.Fault)
  deriving DecidableEq, Repr

/-- The report of a defect. -/
def Defect.message : Defect → String
  | .totalLength length =>
    "encoded length " ++ toString length ++ " is not a multiple of " ++ toString codeWidth
  | .fragmentLength fragment length =>
    "fragment " ++ toString fragment ++ " has length " ++ toString length ++
      ", not a multiple of " ++ toString codeWidth
  | .notDigits fragment offset window =>
    "fragment " ++ toString fragment ++ " offset " ++ toString offset ++ ": " ++
      quoted window ++ " is not a decimal byte code"
  | .outOfRange fragment offset code =>
    "fragment " ++ toString fragment ++ " offset " ++ toString offset ++ ": " ++
      toString code ++ " is out of byte range"
  | .notUtf8 fault => "payload is not UTF-8: " ++ fault.message

/-- The byte that a window denotes. -/
def readWindow (fragment offset : Nat) (window : List Char) : Except Defect UInt8 :=
  if !Decimal.isNumeral window then .error (.notDigits fragment offset (String.ofList window))
  else
    let code := Decimal.value window
    if code > 255 then .error (.outOfRange fragment offset code) else .ok code.toUInt8

/-- The bytes of a fragment from an offset on, window by window.  A last window
that is too short is refused as a whole. -/
def readWindows (fragment offset : Nat) : List Char → Except Defect (List UInt8)
  | [] => .ok []
  | a :: b :: c :: rest => do
    let byte ← readWindow fragment offset [a, b, c]
    let bytes ← readWindows fragment (offset + codeWidth) rest
    return byte :: bytes
  | short => .error (.notDigits fragment offset (String.ofList short))

/-- The bytes of one fragment. -/
def readFragment (fragment : Nat) (text : List Char) : Except Defect (List UInt8) :=
  if text.length % codeWidth ≠ 0 then .error (.fragmentLength fragment text.length)
  else readWindows fragment 0 text

/-- The bytes of the fragments whose first one has number `fragment`. -/
def readFragments (fragment : Nat) : List String → Except Defect (List UInt8)
  | [] => .ok []
  | text :: rest => do
    let front ← readFragment fragment text.toList
    let back ← readFragments (fragment + 1) rest
    return front ++ back

/-- The number of characters in all fragments. -/
def totalLength : (fragments : List String) → Nat
  | [] => 0
  | fragment :: rest => fragment.length + totalLength rest

/-- The bytes of a payload. -/
def readBytes (fragments : List String) : Except Defect (List UInt8) :=
  if totalLength fragments % codeWidth ≠ 0 then .error (.totalLength (totalLength fragments))
  else readFragments 0 fragments

/-- The script in a payload. -/
def decode (fragments : List String) : Except Defect String := do
  let bytes ← readBytes fragments
  match Utf8.decode bytes with
  | .ok text => return String.ofList text
  | .error fault => throw (.notUtf8 fault)

/-- A byte as three digits. -/
def writeByte (b : UInt8) : List Char :=
  [Decimal.digit (b.toNat / 100), Decimal.digit (b.toNat / 10 % 10), Decimal.digit (b.toNat % 10)]

@[simp] theorem length_writeByte (b : UInt8) : (writeByte b).length = codeWidth := rfl

/-- Cuts bytes into runs of `width`, of which only the last may be shorter.
`opened` is the run being filled, in order. -/
def runsFrom (width : Nat) (opened : List UInt8) : List UInt8 → List (List UInt8)
  | [] => if opened.isEmpty then [] else [opened]
  | b :: rest =>
    if opened.length + 1 = width then (opened ++ [b]) :: runsFrom width [] rest
    else runsFrom width (opened ++ [b]) rest

/-- Bytes in runs of `width`. -/
def runs (width : Nat) (bytes : List UInt8) : List (List UInt8) :=
  runsFrom width [] bytes

theorem flatten_runsFrom (width : Nat) (opened bytes : List UInt8) :
    (runsFrom width opened bytes).flatten = opened ++ bytes := by
  induction bytes generalizing opened with
  | nil => cases opened <;> simp [runsFrom]
  | cons b rest ih => by_cases h : opened.length + 1 = width <;> simp [runsFrom, h, ih]

/-- Cutting loses no byte. -/
@[simp] theorem flatten_runs (width : Nat) (bytes : List UInt8) :
    (runs width bytes).flatten = bytes :=
  flatten_runsFrom width [] bytes

/-- The fragments of a script, `width` bytes each. -/
def encode (width : Nat) (text : String) : List String :=
  (runs width (Utf8.encode text.toList)).map fun run => String.ofList (run.flatMap writeByte)

/-- The source text of a module that holds the fragments, with the name of the
script they were made from. -/
def renderModule (fragments : List String) (sourceName : String) : String :=
  let head :=
    ["\"\"\"Encoded bootstrap script generated from " ++ sourceName ++ ".",
      "",
      "Do not edit: regenerate with scripts/encode_tcl_inits.py.",
      "\"\"\"",
      "",
      "TCL_INITS = ("]
  let body := fragments.map fun fragment => "    \"" ++ fragment ++ "\","
  "\n".intercalate (head ++ body ++ [")"]) ++ "\n"

end CommandShell.Payload
