/-
# Plain texts as values

A plain text is a word for a value, a whole number, a number with a point, or
else itself.  A whole number has no leading zeros.  A number with a point may
have an exponent, which has a sign; without a point or without that sign it is a
text like any other.
-/

import CommandShell.Config.Value
import CommandShell.Decimal.Digits

namespace CommandShell.Config.Document

/-- The words for nothing. -/
def nullWords : List String := ["", "~", "null", "Null", "NULL"]

/-- The words for a truth value. -/
def trueWords : List String :=
  ["true", "True", "TRUE", "yes", "Yes", "YES", "on", "On", "ON"]

/-- The words for the other truth value. -/
def falseWords : List String :=
  ["false", "False", "FALSE", "no", "No", "NO", "off", "Off", "OFF"]

/-- A sign, which may be missing, and what follows it. -/
def splitSign : List Char → Bool × List Char
  | '-' :: rest => (true, rest)
  | '+' :: rest => (false, rest)
  | text => (false, text)

/-- The digits of a whole number without leading zeros. -/
def wholeDigits? (text : List Char) : Option (Bool × List Char) :=
  let (negative, digits) := splitSign text
  if Decimal.isNumeral digits && (digits.length == 1 || digits.head? != some '0') then
    some (negative, digits)
  else none

/-- A signed exponent, or none at all, up to the end of a text. -/
def exponent? : List Char → Option Int
  | [] => some 0
  | e :: sign :: digits =>
    if (e = 'e' ∨ e = 'E') ∧ (sign = '+' ∨ sign = '-') ∧ Decimal.isNumeral digits then
      some (if sign = '-' then -Decimal.value digits else Decimal.value digits)
    else none
  | _ => none

/-- A number with a point. -/
def pointNumber? (text : List Char) : Option Decimal.Binary64 :=
  let (negative, text) := splitSign text
  let whole := text.takeWhile Decimal.isDigit
  match text.dropWhile Decimal.isDigit with
  | '.' :: rest =>
    if whole.isEmpty then none
    else
      let fraction := rest.takeWhile Decimal.isDigit
      (exponent? (rest.dropWhile Decimal.isDigit)).map fun exponent =>
        .ofDecimal negative (Decimal.value (whole ++ fraction)) (exponent - fraction.length)
  | _ => none

/-- The value of a plain text. -/
def plainValue (text : String) : Value :=
  if nullWords.contains text then .null
  else if trueWords.contains text then .bool true
  else if falseWords.contains text then .bool false
  else match wholeDigits? text.toList, pointNumber? text.toList with
    | some (negative, digits), _ =>
      .int (if negative then -Decimal.value digits else Decimal.value digits)
    | none, some number => .float number
    | none, none => .string text

end CommandShell.Config.Document
