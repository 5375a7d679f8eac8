/-
# The characters of a script

Cutting a script into commands cuts it at every line boundary first and puts the lines
of a command together with line feeds.  So the commands of a script, with a line feed
between them, are the script with each boundary read as a line feed, less the last one.
No other character is touched.  A script comes through as it is if line feeds are the
only boundaries in it, and not otherwise: a boundary of another kind is replaced inside
a command, or ends a command that has not come to its end.
-/

import CommandShell.Script.Segment
import CommandShell.TextFile

namespace CommandShell

namespace Text

/-- Pieces, each with a line feed behind it. -/
def terminated (pieces : List (List Char)) : List Char :=
  pieces.flatMap (· ++ ['\n'])

/-- A text without its final line feed, if it has one. -/
def dropFinalLineFeed (text : List Char) : List Char :=
  if text.getLast? = some '\n' then text.dropLast else text

/-- A line boundary read as a line feed. -/
def toLineFeed (c : Char) : Char :=
  if isBoundary c then '\n' else c

@[simp] theorem terminated_nil : terminated [] = [] := rfl

@[simp] theorem terminated_cons (first : List Char) (rest : List (List Char)) :
    terminated (first :: rest) = first ++ '\n' :: terminated rest := by
  simp [terminated]

/-- Pieces without line feeds are the records of the text that ends each with one. -/
theorem records_terminated {pieces : List (List Char)} (h : ∀ piece ∈ pieces, '\n' ∉ piece) :
    records (terminated pieces) = pieces := by
  induction pieces with
  | nil => rfl
  | cons first rest ih =>
      rw [terminated_cons, records_append_lineFeed (h first List.mem_cons_self),
        ih fun piece member => h piece (List.mem_cons_of_mem _ member)]

/-- Between pieces there is one line feed less than behind them. -/
theorem intercalate_eq_dropLast_terminated (pieces : List (List Char)) :
    ['\n'].intercalate pieces = (terminated pieces).dropLast := by
  induction pieces with
  | nil => rfl
  | cons first rest ih =>
      cases rest with
      | nil => simp
      | cons second others =>
          have more : terminated (second :: others) ≠ [] := by simp
          rw [List.intercalate_cons_cons, ih, terminated_cons first,
            List.dropLast_append_of_ne_nil (List.cons_ne_nil _ _),
            List.dropLast_cons_of_ne_nil more, List.append_assoc, List.singleton_append]

theorem dropFinalLineFeed_concat (front : List Char) (c : Char) :
    dropFinalLineFeed (front ++ [c]) = if c = '\n' then front else front ++ [c] := by
  simp [dropFinalLineFeed]

/-! ## Lines -/

theorem terminated_extendFirst (c : Char) {pieces : List (List Char)} (h : pieces ≠ []) :
    terminated (extendFirst c pieces) = c :: terminated pieces := by
  cases pieces with
  | nil => exact absurd rfl h
  | cons first rest => simp [extendFirst]

theorem lines_ne_nil {text : List Char} (h : text ≠ []) : lines text ≠ [] := by
  fun_cases lines text with
  | case1 => exact absurd rfl h
  | case2 rest => exact List.cons_ne_nil _ _
  | case3 c rest _ ends => exact List.cons_ne_nil _ _
  | case4 c rest _ goesOn =>
      cases lines rest <;> exact List.cons_ne_nil _ _

/-- The lines of a text are the text with its boundaries read as line feeds; the last
line has none of its own, unless the text ends with one. -/
theorem terminated_lines {text : List Char} (noReturn : '\r' ∉ text) :
    terminated (lines text) =
      text.map toLineFeed ++ if text.getLast?.all isBoundary then [] else ['\n'] := by
  fun_induction lines text with
  | case1 => rfl
  | case2 rest ih => simp at noReturn
  | case3 c rest _ ends ih =>
      have later : '\r' ∉ rest := fun member => noReturn (List.mem_cons_of_mem _ member)
      rw [terminated_cons, ih later, List.map_cons, toLineFeed, if_pos ends]
      cases rest with
      | nil => simp [ends]
      | cons next others => simp
  | case4 c rest _ goesOn ih =>
      have later : '\r' ∉ rest := fun member => noReturn (List.mem_cons_of_mem _ member)
      rw [List.map_cons, toLineFeed, if_neg goesOn]
      cases rest with
      | nil => simp [extendFirst, goesOn]
      | cons next others =>
          rw [terminated_extendFirst c (lines_ne_nil (List.cons_ne_nil _ _)), ih later]
          simp

/-! ## Texts that have no other boundary -/

theorem map_toLineFeed_eq_self_iff (text : List Char) :
    text.map toLineFeed = text ↔ ∀ c ∈ text, isBoundary c = true → c = '\n' := by
  induction text with
  | nil => simp
  | cons c rest ih =>
      have first : toLineFeed c = c ↔ (isBoundary c = true → c = '\n') := by
        rw [toLineFeed]
        split
        next ends => simp [ends, eq_comm]
        next goesOn => simp [goesOn]
      rw [List.map_cons, List.cons.injEq, ih, first, List.forall_mem_cons]

theorem dropFinalLineFeed_map_concat (front : List Char) (c : Char) :
    dropFinalLineFeed ((front ++ [c]).map toLineFeed) =
      if isBoundary c then front.map toLineFeed else front.map toLineFeed ++ [c] := by
  rw [List.map_append, List.map_singleton, dropFinalLineFeed_concat, toLineFeed]
  split
  next ends => rw [if_pos rfl]
  next goesOn =>
    have noFeed : c ≠ '\n' := by
      rintro rfl
      exact goesOn (by decide)
    rw [if_neg noFeed]

/-- A final boundary that is no line feed tells a text from what is left of it, since
reading it as a line feed makes the text shorter by one. -/
theorem dropFinalLineFeed_map_eq_iff (text : List Char) :
    dropFinalLineFeed (text.map toLineFeed) = dropFinalLineFeed text ↔
      ∀ c ∈ text, isBoundary c = true → c = '\n' := by
  rcases List.eq_nil_or_concat text with rfl | ⟨front, c, rfl⟩
  · simp [dropFinalLineFeed]
  rw [List.concat_eq_append, dropFinalLineFeed_map_concat, dropFinalLineFeed_concat,
    List.forall_mem_append, List.forall_mem_singleton, ← map_toLineFeed_eq_self_iff]
  by_cases feed : c = '\n'
  · subst feed
    simp [show isBoundary '\n' = true by decide]
  by_cases ends : isBoundary c = true
  · have shorter : front.map toLineFeed ≠ front ++ [c] := by
      intro same
      have lengths := congrArg List.length same
      simp at lengths
    simp [ends, feed, shorter]
  · simp [ends, feed]

/-- All but the boundaries come through, in order. -/
theorem filter_dropFinalLineFeed_map (text : List Char) :
    (dropFinalLineFeed (text.map toLineFeed)).filter (!isBoundary ·) =
      text.filter (!isBoundary ·) := by
  have mapped (text : List Char) :
      (text.map toLineFeed).filter (!isBoundary ·) = text.filter (!isBoundary ·) := by
    induction text with
    | nil => rfl
    | cons c rest ih =>
        rw [List.map_cons, toLineFeed]
        split
        next ends => simpa [ends, show isBoundary '\n' = true by decide] using ih
        next goesOn => simpa [goesOn] using ih
  rcases List.eq_nil_or_concat text with rfl | ⟨front, c, rfl⟩
  · rfl
  rw [List.concat_eq_append, dropFinalLineFeed_map_concat]
  split
  next ends => simp [mapped, ends]
  next goesOn => simp [mapped, goesOn]

end Text

namespace Script

open Text

/-- Gathering lines loses none of them.  An empty text must be complete, for a text that
waits for more is told from no text by not being empty. -/
theorem terminated_segmentFrom {complete : List Char → Bool} (empty : complete [] = true)
    (pending : List Char) (rest : List (List Char)) :
    terminated (segmentFrom complete pending rest) =
      (if pending.isEmpty then [] else pending ++ ['\n']) ++ terminated rest := by
  induction rest generalizing pending with
  | nil => cases pending <;> simp [segmentFrom]
  | cons line rest ih =>
      have gathered : gather pending line ++ ['\n'] =
          (if pending.isEmpty then [] else pending ++ ['\n']) ++ (line ++ ['\n']) := by
        cases pending <;> simp [gather]
      rw [segmentFrom]
      split
      · rw [terminated_cons, ih, terminated_cons, List.append_cons, gathered]
        simp
      next waits =>
        have some_text : (gather pending line).isEmpty = false := by
          rw [List.isEmpty_eq_false_iff]
          intro none
          exact waits (none ▸ empty)
        rw [ih, some_text, terminated_cons, if_neg Bool.false_ne_true, gathered]
        simp

/-- The commands of a text, with a line feed between them. -/
theorem intercalate_segment {complete : List Char → Bool} (empty : complete [] = true)
    {text : List Char} (noReturn : '\r' ∉ text) :
    ['\n'].intercalate (segment complete text) = dropFinalLineFeed (text.map toLineFeed) := by
  rw [intercalate_eq_dropLast_terminated, segment, terminated_segmentFrom empty,
    terminated_lines noReturn]
  rcases List.eq_nil_or_concat text with rfl | ⟨front, c, rfl⟩
  · rfl
  rw [List.concat_eq_append, dropFinalLineFeed_map_concat]
  by_cases ends : isBoundary c = true
  · simp [ends, toLineFeed]
  · simp [ends, toLineFeed]

theorem toList_intercalate_commands (complete : Completeness) {script : String}
    (noReturn : '\r' ∉ script.toList) :
    ("\n".intercalate (commands complete script)).toList =
      dropFinalLineFeed (script.toList.map toLineFeed) := by
  rw [String.toList_intercalate, commands, List.map_map,
    ← intercalate_segment complete.holds_nil noReturn]
  congr 1
  exact List.map_id'' (fun _ => String.toList_ofList) _

theorem not_mem_of_decode {bytes : List UInt8} {script : String}
    (h : TextFile.decode bytes = .ok script) : '\r' ∉ script.toList := by
  rw [TextFile.decode] at h
  split at h
  · cases h
    rw [String.toList_ofList]
    exact not_mem_unifyNewlines _
  · cases h

/-- **A script keeps its characters but for its boundaries.**  Whatever texts are complete
commands, the commands of a script file, with a line feed between them, are its text with
every line boundary replaced by a line feed, and without the last one if the text ends
with it.  All other characters come through, in order.  The text itself comes through,
less a final line feed, if and only if it has no other boundary than line feeds. -/
theorem commands_keep_characters_iff (complete : Completeness) {bytes : List UInt8}
    {script : String} (decoded : TextFile.decode bytes = .ok script) :
    let joined := ("\n".intercalate (commands complete script)).toList
    joined = dropFinalLineFeed (script.toList.map toLineFeed) ∧
      joined.filter (!isBoundary ·) = script.toList.filter (!isBoundary ·) ∧
      (joined = dropFinalLineFeed script.toList ↔
        ∀ c ∈ script.toList, isBoundary c = true → c = '\n') := by
  intro joined
  have same : joined = dropFinalLineFeed (script.toList.map toLineFeed) :=
    toList_intercalate_commands complete (not_mem_of_decode decoded)
  refine ⟨same, ?_, ?_⟩
  · rw [same]
    exact filter_dropFinalLineFeed_map _
  · rw [same]
    exact dropFinalLineFeed_map_eq_iff _

/-- A line separator within a text in braces, and a form feed within a comment. -/
def separated : String :=
  "set s \x7ba\u2028b\x7d\n# off\x0cputs on"

theorem commands_keep_characters_iff_separated :
    let joined := ("\n".intercalate (commands .braces separated)).toList
    TextFile.decode (TextFile.encode separated) = .ok separated ∧
      joined = dropFinalLineFeed (separated.toList.map toLineFeed) ∧
      joined ≠ dropFinalLineFeed separated.toList := by
  have decoded : TextFile.decode (TextFile.encode separated) = .ok separated := by rfl
  obtain ⟨same, _, kept_iff⟩ := commands_keep_characters_iff .braces decoded
  refine ⟨decoded, same, ?_⟩
  intro kept
  have feed := kept_iff.mp kept '\u2028' (by decide +kernel) (by decide)
  exact absurd feed (by decide)

/-- A line separator is replaced within a command, and what stands behind a form feed
in a comment becomes a command of its own. -/
theorem separators_end_lines :
    (TextFile.decode (TextFile.encode separated)).toOption = some separated ∧
      commands .braces separated = ["set s \x7ba\nb\x7d", "# off", "puts on"] ∧
      isIdle "# off\x0cputs on" = true ∧ isIdle "puts on" = false ∧
      ("\n".intercalate (commands .braces separated)).toList ≠ dropFinalLineFeed separated.toList ∧
      "\n".intercalate (commands .braces separated) ≠ separated := by
  decide +kernel

end Script

end CommandShell
