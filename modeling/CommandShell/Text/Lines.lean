/-
# Lines of a text

A text is cut into lines in two ways, and the two must not be confused.

* A text *file* is read with unified newlines: a carriage return, alone or
  before a line feed, becomes a line feed.  Its records are then what stands
  between line feeds (`unifyNewlines`, `records`).
* A *script* is cut at every line boundary of Unicode (`lines`), so a form feed
  or a paragraph separator also ends a line.
-/

namespace CommandShell.Text

/-- Every line ending becomes one line feed: a carriage return, and the line
feed that directly follows it, count as one ending. -/
def unifyNewlines : List Char → List Char
  | [] => []
  | '\r' :: '\n' :: rest => '\n' :: unifyNewlines rest
  | c :: rest => (if c = '\r' then '\n' else c) :: unifyNewlines rest

/-- No carriage return survives. -/
theorem not_mem_unifyNewlines (text : List Char) : '\r' ∉ unifyNewlines text := by
  fun_induction unifyNewlines text with
  | case1 => simp
  | case2 rest ih => simpa using ih
  | case3 c rest _ ih =>
    by_cases h : c = '\r'
    · simpa [h] using ih
    · simpa [h, Ne.symm h] using ih

/-- A text without carriage returns is left alone. -/
theorem unifyNewlines_of_not_mem {text : List Char} (h : '\r' ∉ text) :
    unifyNewlines text = text := by
  fun_induction unifyNewlines text with
  | case1 => rfl
  | case2 rest ih => simp at h
  | case3 c rest _ ih =>
    rw [List.mem_cons, not_or] at h
    rw [if_neg (Ne.symm h.1), ih h.2]

/-- A character put in front of the first piece of a text that has been cut. -/
def extendFirst (c : Char) : List (List Char) → List (List Char)
  | [] => [[c]]
  | first :: rest => (c :: first) :: rest

/-- The records of a text: what stands between its line feeds.  A final line
feed ends the last record and opens no other. -/
def records : List Char → List (List Char)
  | [] => []
  | c :: rest => if c = '\n' then [] :: records rest else extendFirst c (records rest)

@[simp] theorem records_nil : records [] = [] := rfl

/-- A record that is ended by a line feed is read back as it is. -/
theorem records_append_lineFeed {record : List Char} (h : '\n' ∉ record) (text : List Char) :
    records (record ++ '\n' :: text) = record :: records text := by
  induction record with
  | nil => rfl
  | cons c record ih =>
    rw [List.mem_cons, not_or] at h
    rw [List.cons_append, records, if_neg (Ne.symm h.1), ih h.2, extendFirst]

/-- The characters that end a line of a script. -/
def isBoundary (c : Char) : Bool :=
  let n := c.toNat
  (0x0a ≤ n && n ≤ 0x0d) || (0x1c ≤ n && n ≤ 0x1e) || n == 0x85 || n == 0x2028 || n == 0x2029

/-- The lines of a script, without their endings.  A carriage return and the
line feed behind it are one ending. -/
def lines : List Char → List (List Char)
  | [] => []
  | '\r' :: '\n' :: rest => [] :: lines rest
  | c :: rest => if isBoundary c then [] :: lines rest else extendFirst c (lines rest)

@[simp] theorem lines_nil : lines [] = [] := rfl

end CommandShell.Text
