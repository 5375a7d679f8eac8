/-
# Blank characters

Which characters count as white space, and how a text is stripped of them.  The
class is wider than the ASCII blanks: it has the separators of the C0 and C1
blocks and every Unicode space.  The same class decides where a command line's
first word ends and which lines of a script are empty.
-/

namespace CommandShell.Text

/-- White space: tab to carriage return, the four information separators, the
next-line control and the Unicode spaces and line separators. -/
def isBlank (c : Char) : Bool :=
  let n := c.toNat
  (0x09 ≤ n && n ≤ 0x0d) || (0x1c ≤ n && n ≤ 0x20) || n == 0x85 || n == 0xa0 ||
    n == 0x1680 || (0x2000 ≤ n && n ≤ 0x200a) || n == 0x2028 || n == 0x2029 ||
    n == 0x202f || n == 0x205f || n == 0x3000

/-- A text without its leading white space. -/
def stripLeft (text : List Char) : List Char :=
  text.dropWhile isBlank

/-- A text without the white space at its two ends. -/
def strip (text : List Char) : List Char :=
  (stripLeft (stripLeft text).reverse).reverse

/-- Only white space is stripped. -/
theorem takeWhile_append_stripLeft (text : List Char) :
    text.takeWhile isBlank ++ stripLeft text = text :=
  List.takeWhile_append_dropWhile

end CommandShell.Text
