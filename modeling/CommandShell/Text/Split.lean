/-
# Splitting at a separator

A text is cut at every occurrence of a separator.  There is always one piece
more than there are separators, so the pieces may be empty and joining them
gives the text back.
-/

namespace CommandShell.Text

/-- The pieces between the separators of a text. -/
def splitAt (separator : Char) : List Char → List (List Char)
  | [] => [[]]
  | c :: rest =>
    if c = separator then [] :: splitAt separator rest
    else match splitAt separator rest with
      | [] => [[c]]
      | first :: others => (c :: first) :: others

theorem splitAt_ne_nil (separator : Char) (text : List Char) : splitAt separator text ≠ [] := by
  cases text with
  | nil => simp [splitAt]
  | cons c rest =>
    by_cases h : c = separator
    · simp [splitAt, h]
    · simp only [splitAt, h, if_false]
      split <;> simp

/-- Texts with a separator between them are cut each for itself. -/
theorem splitAt_append (separator : Char) (front back : List Char) :
    splitAt separator (front ++ separator :: back) =
      splitAt separator front ++ splitAt separator back := by
  induction front with
  | nil => simp [splitAt]
  | cons c rest ih =>
    by_cases h : c = separator
    · simp [splitAt, h, ih]
    · cases hs : splitAt separator rest with
      | nil => exact absurd hs (splitAt_ne_nil separator rest)
      | cons first others => simp [splitAt, h, ih, hs]

/-- A text without separators is one piece. -/
theorem splitAt_of_not_mem {separator : Char} {text : List Char} (h : separator ∉ text) :
    splitAt separator text = [text] := by
  induction text with
  | nil => rfl
  | cons c rest ih =>
    rw [List.mem_cons, not_or] at h
    rw [splitAt, if_neg (Ne.symm h.1), ih h.2]

/-- No piece has a separator in it. -/
theorem not_mem_of_mem_splitAt {separator : Char} {text : List Char} :
    ∀ piece ∈ splitAt separator text, separator ∉ piece := by
  induction text with
  | nil => simp [splitAt]
  | cons c rest ih =>
    by_cases h : c = separator
    · simpa [splitAt, h] using ih
    · cases hs : splitAt separator rest with
      | nil => exact absurd hs (splitAt_ne_nil separator rest)
      | cons first others =>
        rw [hs, List.forall_mem_cons] at ih
        rw [splitAt, if_neg h, hs, List.forall_mem_cons, List.mem_cons, not_or]
        exact ⟨⟨Ne.symm h, ih.1⟩, ih.2⟩

/-- The pieces with separators between them are the text. -/
theorem intercalate_splitAt (separator : Char) (text : List Char) :
    [separator].intercalate (splitAt separator text) = text := by
  induction text with
  | nil => rfl
  | cons c rest ih =>
    cases hs : splitAt separator rest with
    | nil => exact absurd hs (splitAt_ne_nil separator rest)
    | cons first others =>
      rw [hs] at ih
      by_cases h : c = separator
      · simp [splitAt, h, hs, List.intercalate_cons_cons, ih]
      · cases others with
        | nil => simpa [splitAt, h, hs] using ih
        | cons second others =>
          rw [List.intercalate_cons_cons] at ih
          rw [splitAt, if_neg h, hs, List.intercalate_cons_cons, List.cons_append,
            List.cons_append, ih]

/-- Pieces without separators are found again in their text. -/
theorem splitAt_intercalate {separator : Char} {pieces : List (List Char)}
    (some_piece : pieces ≠ []) (whole : ∀ piece ∈ pieces, separator ∉ piece) :
    splitAt separator ([separator].intercalate pieces) = pieces := by
  induction pieces with
  | nil => exact absurd rfl some_piece
  | cons first rest ih =>
    obtain ⟨wholeFirst, wholeRest⟩ := List.forall_mem_cons.mp whole
    cases rest with
    | nil => simpa using splitAt_of_not_mem wholeFirst
    | cons second others =>
      rw [List.intercalate_cons_cons, List.append_assoc, List.singleton_append, splitAt_append,
        splitAt_of_not_mem wholeFirst, ih (List.cons_ne_nil _ _) wholeRest, List.singleton_append]

end CommandShell.Text
