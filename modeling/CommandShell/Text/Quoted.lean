/-
# Quoted texts

A text shown between quotes, with escapes for what cannot be seen.  The quote is
an apostrophe unless the text holds an apostrophe and no double quote.
-/

import CommandShell.Text
import CommandShell.Text.Printable
import CommandShell.Text.Utf8

namespace CommandShell.Text

/-- The quote that a text is shown in. -/
def quoteFor (text : List Char) : Char :=
  if '\'' ∈ text ∧ '"' ∉ text then '"' else '\''

/-- A number as exactly `width` hexadecimal digits. -/
def hexDigits : (width : Nat) → Nat → List Char
  | 0, _ => []
  | width + 1, n => hexDigits width (n / 16) ++ [Utf8.hexDigit (n % 16)]

/-- An unprintable character as an escape of the shortest of three widths. -/
def escapeCode (c : Char) : List Char :=
  let n := c.toNat
  if n < 0x100 then '\\' :: 'x' :: hexDigits 2 n
  else if n < 0x10000 then '\\' :: 'u' :: hexDigits 4 n
  else '\\' :: 'U' :: hexDigits 8 n

/-- A character as it stands inside quotes. -/
def escapeChar (quote c : Char) : List Char :=
  if c = quote ∨ c = '\\' then ['\\', c]
  else if c = '\n' then ['\\', 'n']
  else if c = '\r' then ['\\', 'r']
  else if c = '\t' then ['\\', 't']
  else if isPrintable c then [c]
  else escapeCode c

/-- A surrogate as an escape. -/
def escapeSurrogate (surrogate : Surrogate) : List Char :=
  '\\' :: 'u' :: hexDigits 4 (Surrogate.code surrogate)

/-- What stands inside quotes for a text. -/
def escaped (quote : Char) : Text → List Char
  | plain characters => characters.toList.flatMap (escapeChar quote)
  | broken before surrogate behind =>
    before.toList.flatMap (escapeChar quote) ++ escapeSurrogate surrogate ++ behind.escaped quote

/-- A text between quotes. -/
def quoted (text : Text) : String :=
  let quote := quoteFor text.characters
  String.ofList (quote :: text.escaped quote ++ [quote])

end CommandShell.Text
