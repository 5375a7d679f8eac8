/-
# Where a script is cut

The lines of a script are gathered into runs, and each run becomes a command.  A run is
closed by the first line that makes it complete, so every run is complete but perhaps
the last one, and none of them could have been closed earlier.  There is only one way to
cut lines like that.  All that is asked of completeness is that an empty text is
complete: then a text that waits for more is never empty, which is how the gathering
tells it from no text, and a blank line that nothing waits for is a command.
-/

import CommandShell.Evaluator
import CommandShell.Proofs.History
import CommandShell.Proofs.Moves

namespace CommandShell

namespace Text

/-! ## Lines put together -/

theorem not_mem_of_mem_lines {text : List Char} : ∀ line ∈ lines text, '\n' ∉ line := by
  fun_induction lines text with
  | case1 => simp
  | case2 rest ih => simpa using ih
  | case3 c rest _ ends ih => simpa using ih
  | case4 c rest _ goesOn ih =>
      have noFeed : c ≠ '\n' := by
        rintro rfl
        exact goesOn (by decide)
      exact not_mem_of_mem_extendFirst noFeed ih

end Text

namespace Script

open Text

/-- The text of a run: its lines with a line feed between them. -/
def joined (run : List (List Char)) : List Char :=
  ['\n'].intercalate run

@[simp] theorem joined_nil : joined [] = [] := rfl

@[simp] theorem joined_singleton (line : List Char) : joined [line] = line := by
  simp [joined]

theorem joined_cons_cons (first second : List Char) (rest : List (List Char)) :
    joined (first :: second :: rest) = first ++ '\n' :: joined (second :: rest) := by
  rw [joined, List.intercalate_cons_cons, List.append_assoc, List.singleton_append, joined]

/-- The lines of a run are found again in its text. -/
theorem splitAt_joined {run : List (List Char)} (some_line : run ≠ [])
    (noFeed : ∀ line ∈ run, '\n' ∉ line) : splitAt '\n' (joined run) = run :=
  splitAt_intercalate some_line noFeed

/-- A run takes one more line. -/
theorem joined_concat {run : List (List Char)} (some_line : run ≠ []) (line : List Char) :
    joined (run ++ [line]) = joined run ++ '\n' :: line := by
  induction run with
  | nil => exact absurd rfl some_line
  | cons first rest ih =>
      cases rest with
      | nil => rw [List.singleton_append, joined_cons_cons, joined_singleton, joined_singleton]
      | cons second others =>
          rw [List.cons_append, List.cons_append, joined_cons_cons, joined_cons_cons,
            ← List.cons_append, ih (List.cons_ne_nil _ _), List.append_assoc, List.cons_append]

/-! ## Cuts -/

/-- Lines are cut into runs, each closed as soon as it is complete. -/
structure IsMinimalCut (complete : List Char → Bool) (lines : List (List Char))
    (runs : List (List (List Char))) : Prop where
  /-- Every line is in one run, in order. -/
  flatten : runs.flatten = lines
  /-- A run has a line. -/
  ne_nil : ∀ run ∈ runs, run ≠ []
  /-- The last run alone may be incomplete. -/
  closed : ∀ run ∈ runs.dropLast, complete (joined run) = true
  /-- No run could have been closed earlier. -/
  waits : ∀ run ∈ runs, ∀ front, front <+: run → front ≠ [] → front ≠ run →
    complete (joined front) = false

section Cuts

variable {complete : List Char → Bool} {lines run other : List (List Char)}
  {runs others : List (List (List Char))}

theorem isMinimalCut_nil : IsMinimalCut complete [] [] where
  flatten := rfl
  ne_nil := by simp
  closed := by simp
  waits := by simp

/-- What is left at the end may wait for more. -/
theorem isMinimalCut_singleton (some_line : run ≠ [])
    (waits : ∀ front, front <+: run → front ≠ [] → front ≠ run → complete (joined front) = false) :
    IsMinimalCut complete run [run] where
  flatten := by simp
  ne_nil := by simpa using some_line
  closed := by simp
  waits := by simpa using waits

theorem IsMinimalCut.cons (rest : IsMinimalCut complete lines runs) (some_line : run ≠ [])
    (closed : complete (joined run) = true)
    (waits : ∀ front, front <+: run → front ≠ [] → front ≠ run → complete (joined front) = false) :
    IsMinimalCut complete (run ++ lines) (run :: runs) where
  flatten := by rw [List.flatten_cons, rest.flatten]
  ne_nil := List.forall_mem_cons.mpr ⟨some_line, rest.ne_nil⟩
  closed := by
    cases runs with
    | nil => simp
    | cons next later =>
        rw [List.dropLast_cons_cons]
        exact List.forall_mem_cons.mpr ⟨closed, rest.closed⟩
  waits := List.forall_mem_cons.mpr ⟨waits, rest.waits⟩

theorem IsMinimalCut.tail (cut : IsMinimalCut complete lines (run :: runs)) :
    IsMinimalCut complete runs.flatten runs where
  flatten := rfl
  ne_nil := (List.forall_mem_cons.mp cut.ne_nil).2
  closed := by
    have all := cut.closed
    cases runs with
    | nil => simp
    | cons next later =>
        rw [List.dropLast_cons_cons] at all
        exact (List.forall_mem_cons.mp all).2
  waits := (List.forall_mem_cons.mp cut.waits).2

theorem IsMinimalCut.eq_nil (cut : IsMinimalCut complete [] runs) : runs = [] := by
  cases runs with
  | nil => rfl
  | cons run runs =>
      have none_left : run ++ runs.flatten = [] := cut.flatten
      exact absurd (List.append_eq_nil_iff.mp none_left).1 (cut.ne_nil run List.mem_cons_self)

/-- A run is no mere part of the one that another cut begins with: it would have closed
that one, unless it is the last, and then there is nothing behind it. -/
theorem IsMinimalCut.eq_of_prefix (cut : IsMinimalCut complete lines (run :: runs))
    (cut' : IsMinimalCut complete lines (other :: others)) (h : run <+: other) : run = other := by
  by_cases same : run = other
  · exact same
  have open_there : complete (joined run) = false :=
    cut'.waits other List.mem_cons_self run h (cut.ne_nil run List.mem_cons_self) same
  cases runs with
  | nil =>
      have whole : other ++ others.flatten = run := by
        rw [← List.flatten_cons, cut'.flatten, ← cut.flatten, List.flatten_singleton]
      exact h.eq_of_length_le (by rw [← whole, List.length_append]; omega)
  | cons next later =>
      have closed := cut.closed run (by simp)
      rw [open_there] at closed
      cases closed

/-- Lines are cut in one way at most. -/
theorem IsMinimalCut.eq (cut : IsMinimalCut complete lines runs)
    (cut' : IsMinimalCut complete lines others) : runs = others := by
  induction runs generalizing lines others with
  | nil =>
      obtain rfl : [] = lines := cut.flatten
      exact cut'.eq_nil.symm
  | cons run runs ih =>
      cases others with
      | nil =>
          obtain rfl : [] = lines := cut'.flatten
          exact cut.eq_nil
      | cons other others =>
          have same : run ++ runs.flatten = other ++ others.flatten :=
            cut.flatten.trans cut'.flatten.symm
          have begins : run <+: other ++ others.flatten := ⟨runs.flatten, same⟩
          have first : run = other := by
            rcases List.prefix_or_prefix_of_prefix begins (List.prefix_append other _) with h | h
            · exact cut.eq_of_prefix cut' h
            · exact (cut'.eq_of_prefix cut h).symm
          subst first
          have rest : runs.flatten = others.flatten := List.append_cancel_left same
          have tail' : IsMinimalCut complete runs.flatten others := rest ▸ cut'.tail
          rw [ih cut.tail tail']

end Cuts

/-! ## Gathering -/

section Gathering

variable {complete : List Char → Bool} (empty : complete [] = true)

include empty

/-- Lines that wait to be closed are told from no lines by their text. -/
theorem isEmpty_joined {pending : List (List Char)}
    (waits : pending ≠ [] → complete (joined pending) = false) :
    (joined pending).isEmpty = pending.isEmpty := by
  cases pending with
  | nil => rfl
  | cons line lines =>
      have open_still := waits (List.cons_ne_nil _ _)
      rw [List.isEmpty_cons, List.isEmpty_eq_false_iff]
      intro none
      rw [none, empty] at open_still
      cases open_still

theorem gather_joined {pending : List (List Char)}
    (waits : pending ≠ [] → complete (joined pending) = false) (line : List Char) :
    gather (joined pending) line = joined (pending ++ [line]) := by
  rw [gather, isEmpty_joined empty waits]
  cases pending with
  | nil => exact (joined_singleton line).symm
  | cons first others => exact (joined_concat (List.cons_ne_nil _ _) line).symm

/-- Gathering cuts as early as it can.  What carries the induction is that the lines
which wait to be closed could not have been closed before. -/
theorem exists_isMinimalCut_segmentFrom (pending rest : List (List Char))
    (waits : ∀ front, front <+: pending → front ≠ [] → complete (joined front) = false) :
    ∃ runs, IsMinimalCut complete (pending ++ rest) runs ∧
      segmentFrom complete (joined pending) rest = runs.map joined := by
  have waitsNow := waits pending (List.prefix_refl pending)
  induction rest generalizing pending with
  | nil =>
      rw [segmentFrom, isEmpty_joined empty waitsNow, List.append_nil]
      cases pending with
      | nil => exact ⟨[], isMinimalCut_nil, rfl⟩
      | cons line lines =>
          have cut : IsMinimalCut complete (line :: lines) [line :: lines] :=
            isMinimalCut_singleton (List.cons_ne_nil _ _)
              fun front isFront some_line _ => waits front isFront some_line
          exact ⟨_, cut, rfl⟩
  | cons line rest ih =>
      have earlier : ∀ front, front <+: pending ++ [line] → front ≠ [] →
          front ≠ pending ++ [line] → complete (joined front) = false := by
        intro front isFront some_line differs
        exact waits front ((List.prefix_concat_iff.mp isFront).resolve_left differs) some_line
      rw [segmentFrom, gather_joined empty waitsNow, List.append_cons]
      cases closed : complete (joined (pending ++ [line])) with
      | true =>
          obtain ⟨runs, cut, same⟩ := ih [] (by simp) (by simp)
          refine ⟨(pending ++ [line]) :: runs, cut.cons (by simp) closed earlier, ?_⟩
          rw [if_pos rfl, List.map_cons, ← same, joined_nil]
      | false =>
          have waitsStill : ∀ front, front <+: pending ++ [line] → front ≠ [] →
              complete (joined front) = false := by
            intro front isFront some_line
            by_cases whole : front = pending ++ [line]
            · rw [whole, closed]
            · exact earlier front isFront some_line whole
          exact ih (pending ++ [line]) waitsStill fun _ => closed

/-- There is one minimal cut of the lines of a text, and its runs are the commands. -/
theorem exists_isMinimalCut_iff (text : List Char) :
    ∃ runs, (∀ cut, IsMinimalCut complete (lines text) cut ↔ cut = runs) ∧
      segment complete text = runs.map joined := by
  obtain ⟨runs, minimal, same⟩ := exists_isMinimalCut_segmentFrom empty [] (lines text) (by simp)
  refine ⟨runs, fun cut => ⟨fun other => other.eq minimal, ?_⟩, same⟩
  rintro rfl
  exact minimal

end Gathering

end Script

namespace Evaluator

open Act

variable {host : Host} {interpreter : Interpreter}

/-- An interpreter that is held says of every text whether it is complete. -/
theorem perform_isComplete (held : host.interpreter = some interpreter) (text : String) :
    (isComplete text).perform host =
      (.ok (interpreter.table.complete.holds text.toList), host) := by
  simp [isComplete, Host.perform_interpreterNow held]

end Evaluator

namespace Script

open Text Act

/-- **A script is cut in the only way that closes every command as early as it can.**
For whatever counts as complete, if an empty text does, the lines of a text have exactly
one minimal cut, and the commands are the texts of its runs.  So the lines of the
commands are the lines of the text, blank ones too, in order and each once, and the last
command alone can be incomplete.  The commands that an evaluator has from a script are
these, with what its interpreter counts as complete; the empty text always is. -/
theorem commands_of_minimal_cut {complete : List Char → Bool} (empty : complete [] = true)
    (text : List Char) :
    (∃ runs, (∀ cut, IsMinimalCut complete (lines text) cut ↔ cut = runs) ∧
      segment complete text = runs.map joined) ∧
    (segment complete text).flatMap (splitAt '\n') = lines text ∧
    (∀ command ∈ (segment complete text).dropLast, complete command = true) ∧
    ∀ (script : String) (host : Host) (interpreter : Interpreter),
      host.interpreter = some interpreter →
      let closes := interpreter.table.complete.holds
      closes [] = true ∧
      (Evaluator.isComplete script).perform host = (.ok (closes script.toList), host) ∧
      (Evaluator.commandsIn script).perform host =
        (.ok ((segment closes script.toList).map String.ofList), host) := by
  obtain ⟨runs, unique, same⟩ := exists_isMinimalCut_iff empty text
  have minimal : IsMinimalCut complete (lines text) runs := (unique runs).mpr rfl
  refine ⟨⟨runs, unique, same⟩, ?_, ?_, ?_⟩
  · have found : ∀ run ∈ runs, splitAt '\n' (joined run) = run := by
      intro run isRun
      refine splitAt_joined (minimal.ne_nil run isRun) fun line isLine => ?_
      apply not_mem_of_mem_lines
      rw [← minimal.flatten]
      exact List.mem_flatten.mpr ⟨run, isRun, isLine⟩
    rw [same, List.flatMap_map, List.flatMap_def, List.map_congr_left found, List.map_id',
      minimal.flatten]
  · intro command isCommand
    rw [same, ← List.map_dropLast] at isCommand
    obtain ⟨run, isRun, rfl⟩ := List.mem_map.mp isCommand
    exact minimal.closed run isRun
  · intro script host interpreter held closes
    exact ⟨interpreter.table.complete.holds_nil, Evaluator.perform_isComplete held script,
      Evaluator.perform_commandsIn held script⟩

/-- A command with a blank line in it, two blank lines, and a command that does not come
to its end. -/
def unfinished : List Char :=
  "proc f \x7b\n\n\x7d\n\n\nb \x7b\nc".toList

theorem commands_of_minimal_cut_unfinished :
    Completeness.braces.holds [] = true ∧
      (∃ runs,
        (∀ cut, IsMinimalCut Completeness.braces.holds (lines unfinished) cut ↔ cut = runs) ∧
        ["proc f \x7b\n\n\x7d".toList, [], [], "b \x7b\nc".toList] = runs.map joined) ∧
      (lines unfinished).length = 7 := by
  have empty : Completeness.braces.holds [] = true := Completeness.braces.holds_nil
  obtain ⟨⟨runs, unique, same⟩, _⟩ := commands_of_minimal_cut empty unfinished
  have cut : segment Completeness.braces.holds unfinished =
      ["proc f \x7b\n\n\x7d".toList, [], [], "b \x7b\nc".toList] := by
    decide +kernel
  exact ⟨empty, ⟨runs, unique, cut ▸ same⟩, by decide +kernel⟩

end Script

end CommandShell
