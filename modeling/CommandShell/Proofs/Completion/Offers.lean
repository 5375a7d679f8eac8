/-
# Completing what was typed

Beyond the first word nothing is offered, and the hook is not even asked.  Before that an
offer replaces the word as far as it was typed, which is counted back from the cursor in
characters; the blanks in front of the word are no part of it.  So a name that begins with
what was typed can only extend the text, and the text that it leaves is once more a first
word, for which the name is still on offer.  All of this looks at the text before the cursor
only.
-/

import Mathlib.Data.List.TakeWhile
import CommandShell.Completion.Completer
import CommandShell.Proofs.Completion.Delivery

namespace CommandShell

namespace Text

variable {blanks word : List Char}

/-- All blanks in front of a word are stripped, and nothing else. -/
theorem stripLeft_append (blank : ∀ c ∈ blanks, isBlank c = true)
    (solid : ∀ c ∈ word, isBlank c = false) : stripLeft (blanks ++ word) = word := by
  rw [stripLeft, List.dropWhile_append_of_pos blank]
  cases word with
  | nil => rfl
  | cons c rest => exact List.dropWhile_cons_of_neg (by simp [solid c])

end Text

namespace Completion

open Text

/-! ## A cursor asked to its end -/

namespace Cursor

/-- A cursor that finds a name has passed it, and is still in its table. -/
theorem position_of_found {cursor moved : Cursor} {names : List String} {name : String}
    (found : cursor.next names = (some name, moved)) :
    cursor.position < moved.position ∧ moved.position ≤ names.length := by
  have passed := seek_le_length cursor.typed (names.drop cursor.position)
  rw [List.length_drop] at passed
  obtain ⟨hit, rfl⟩ := Prod.mk.inj found
  have some_passed : 0 < (seek cursor.typed (names.drop cursor.position)).2 := by
    cases ahead : names.drop cursor.position with
    | nil =>
        rw [ahead] at hit
        cases hit
    | cons first rest =>
        rw [seek]
        split <;> exact Nat.succ_pos _
  change _ < cursor.position + _ ∧ cursor.position + _ ≤ _
  omega

/-- What a cursor delivers when it is asked for one name after another until it finds
none. -/
def deliveries (cursor : Cursor) (names : List String) : List String :=
  match _found : cursor.next names with
  | (none, _) => []
  | (some name, moved) => name :: deliveries moved names
termination_by names.length - cursor.position
decreasing_by
  have := position_of_found _found
  omega

/-- A cursor delivers the names that are ahead of it. -/
theorem deliveries_eq_ahead (cursor : Cursor) (names : List String) :
    cursor.deliveries names = cursor.ahead names := by
  fun_induction deliveries cursor names with
  | case1 cursor moved found =>
      have nothing : (cursor.ahead names).head? = none := by
        rw [← next_eq_head?, found]
      rw [List.head?_eq_none_iff.mp nothing]
  | case2 cursor name moved found ih =>
      have account : cursor.ahead names = _ := ahead_eq_next
      rw [ih, account, found]
      rfl

end Cursor

/-- The built-in hook gives what a new cursor of the command names delivers. -/
theorem builtin_eq_deliveries (typed : String) :
    builtin typed = Cursor.deliveries ⟨typed, 0⟩ commandNames := by
  rw [Cursor.deliveries_eq_ahead]
  rfl

/-- The built-in hook gives the command names that begin with what was typed. -/
theorem builtin_ofList (typed : List Char) :
    builtin (String.ofList typed) =
      commandNames.filter fun name => typed.isPrefixOf name.toList := by
  have same : matchesStart (String.ofList typed) = fun name => typed.isPrefixOf name.toList := by
    funext name
    rw [matchesStart, String.toList_ofList]
  rw [builtin, candidates, same]

/-! ## The hook and what it is asked -/

/-- A hook that notes what it is asked. -/
def noting (hook : Hook) (typed : String) : StateM (List String) (List String) := do
  modify (· ++ [typed])
  return hook typed

theorem run_offersBy_noting (hook : Hook) (before : List Char) (asked : List String) :
    (offersBy (noting hook) before).run asked =
      (offers hook before, asked ++ (firstWord before).toList) := by
  rw [offers, offersBy, offersBy]
  cases firstWord before with
  | none =>
      rw [Option.toList_none, List.append_nil]
      rfl
  | some word => rfl

/-! ## The first word -/

section Word

variable {before : List Char}

theorem firstWord_of_blank (beyond : ∃ c ∈ stripLeft before, isBlank c = true) :
    firstWord before = none :=
  if_pos (List.any_eq_true.mpr beyond)

theorem firstWord_of_solid (within : ∀ c ∈ stripLeft before, isBlank c = false) :
    firstWord before = some (String.ofList (stripLeft before)) := by
  refine if_neg fun blank => ?_
  obtain ⟨c, member, isBlank⟩ := List.any_eq_true.mp blank
  exact Bool.noConfusion ((within c member).symm.trans isBlank)

theorem offers_of_firstWord (hook : Hook) {word : String} (first : firstWord before = some word) :
    offers hook before = (hook word).map fun name => ⟨name, -(word.length : Int), "command"⟩ := by
  rw [offers, offersBy, first]
  rfl

end Word

/-! ## Taking an offer -/

/-- The text before the cursor once an offer is taken: its name replaces what stands from its
start to the cursor. -/
def Offer.taken (offer : Offer) (before : List Char) : List Char :=
  before.take (before.length + offer.start).toNat ++ offer.name.toList

/-- An offer that starts behind the blanks leaves these and nothing else. -/
theorem Offer.taken_eq {offer : Offer} {before : List Char}
    (start : offer.start = -((stripLeft before).length : Int)) :
    offer.taken before = before.takeWhile isBlank ++ offer.name.toList := by
  have split := congrArg List.length (takeWhile_append_stripLeft before)
  rw [List.length_append] at split
  have kept : (before.length + offer.start).toNat = (before.takeWhile isBlank).length := by
    omega
  rw [taken, kept, ← List.prefix_iff_eq_take.mp (List.takeWhile_prefix isBlank)]

/-- Command names are words. -/
theorem solid_of_mem_commandNames :
    ∀ name ∈ commandNames, ∀ c ∈ name.toList, isBlank c = false := by
  have solid : (commandNames.all fun name => name.toList.all fun c => !isBlank c) = true := by
    decide +kernel
  simpa only [List.all_eq_true, Bool.not_eq_true'] using solid

/-- A hook that offers the names of a table of words offers a name again once it has been
taken. -/
theorem offered_again {names : List String}
    (solid : ∀ name ∈ names, ∀ c ∈ name.toList, isBlank c = false) {name : String}
    (there : name ∈ names) {blanks : List Char} (blank : ∀ c ∈ blanks, isBlank c = true) :
    ∃ offer ∈ offers (candidates names) (blanks ++ name.toList), offer.name = name := by
  have stripped := stripLeft_append blank (solid name there)
  have first : firstWord (blanks ++ name.toList) = some (String.ofList name.toList) := by
    rw [firstWord_of_solid (by rw [stripped]; exact solid name there), stripped]
  have offered : name ∈ candidates names (String.ofList name.toList) :=
    List.mem_filter.mpr ⟨there, by simp [matchesStart]⟩
  rw [offers_of_firstWord _ first]
  exact ⟨_, List.mem_map_of_mem offered, rfl⟩

/-- **Taking an offer only extends what was typed.**  If white space stands before the cursor
and behind the first word, nothing is offered, by no hook, and no hook is asked.  Otherwise the
hook is asked once, for the word as far as it stands there.  The built-in one then offers the
command names that begin with it, in the order of the table, and these are the names that a new
cursor of the table delivers until it finds no more.  An offer starts within the text before
the cursor; the text that it leaves there is made of the blanks in front of the word and of the
name, begins with the text that was there before, and has the same name on offer.  What stands
behind the cursor has no part in this. -/
theorem offers_extend_typed (before after : List Char) :
    let completions := CommandCompleter.completions ⟨builtin⟩
    let blanks := before.takeWhile isBlank
    let word := stripLeft before
    (∀ other, completions ⟨before, other⟩ = completions ⟨before, after⟩) ∧
    ((∃ c ∈ word, isBlank c = true) →
      completions ⟨before, after⟩ = [] ∧
      ∀ hook asked, (offersBy (noting hook) before).run asked = ([], asked)) ∧
    ((∀ c ∈ word, isBlank c = false) →
      (∀ hook asked, (offersBy (noting hook) before).run asked =
        (CommandCompleter.completions ⟨hook⟩ ⟨before, after⟩, asked ++ [String.ofList word])) ∧
      builtin (String.ofList word) =
        Cursor.deliveries ⟨String.ofList word, 0⟩ commandNames ∧
      completions ⟨before, after⟩ =
        (commandNames.filter fun name => word.isPrefixOf name.toList).map
          (fun name => ⟨name, -(word.length : Int), "command"⟩) ∧
      ∀ offer ∈ completions ⟨before, after⟩,
        offer.start ≤ 0 ∧ 0 ≤ before.length + offer.start ∧
        offer.taken before = blanks ++ offer.name.toList ∧
        before <+: offer.taken before ∧
        ∃ again ∈ completions ⟨offer.taken before, after⟩, again.name = offer.name) := by
  intro completions blanks word
  have whole : blanks ++ word = before := takeWhile_append_stripLeft before
  refine ⟨fun _ => rfl, ?_, ?_⟩
  · intro beyond
    have none_left (hook : Hook) : offers hook before = [] := by
      rw [offers, offersBy, firstWord_of_blank beyond]
      rfl
    refine ⟨none_left builtin, fun hook asked => ?_⟩
    rw [run_offersBy_noting, none_left, firstWord_of_blank beyond, Option.toList_none,
      List.append_nil]
  · intro within
    have first : firstWord before = some (String.ofList word) := firstWord_of_solid within
    have found : completions ⟨before, after⟩ =
        (commandNames.filter fun name => word.isPrefixOf name.toList).map fun name =>
          ⟨name, -(word.length : Int), "command"⟩ := by
      change offers builtin before = _
      rw [offers_of_firstWord builtin first, String.length_ofList, builtin_ofList]
    refine ⟨fun hook asked => ?_, builtin_eq_deliveries _, found, ?_⟩
    · rw [run_offersBy_noting, first, Option.toList_some]
      rfl
    intro offer isOffered
    rw [found] at isOffered
    obtain ⟨name, matching, rfl⟩ := List.mem_map.mp isOffered
    obtain ⟨there, begins⟩ := List.mem_filter.mp matching
    have left : Offer.taken ⟨name, -(word.length : Int), "command"⟩ before =
        blanks ++ name.toList := Offer.taken_eq rfl
    have lengths := congrArg List.length whole
    rw [List.length_append] at lengths
    refine ⟨by simp, ?_, left, ?_, ?_⟩
    · change 0 ≤ (before.length : Int) + -word.length
      omega
    · rw [left, ← whole]
      exact (List.prefix_append_right_inj blanks).mpr (List.isPrefixOf_iff_prefix.mp begins)
    · rw [left]
      exact offered_again solid_of_mem_commandNames there fun _ => List.mem_takeWhile_imp

/-- A name is taken in the middle of a line: the blanks in front of it stay. -/
theorem offers_extend_typed_nets :
    let before := "\t get_n".toList
    let after := " -of x".toList
    let offer : Offer := ⟨"get_nets", -5, "command"⟩
    (∀ c ∈ stripLeft before, isBlank c = false) ∧
      offer ∈ CommandCompleter.completions ⟨builtin⟩ ⟨before, after⟩ ∧
      offer.taken before = "\t get_nets".toList ∧ before <+: offer.taken before := by
  intro before after offer
  have solid : ((stripLeft before).all fun c => !isBlank c) = true := by decide +kernel
  have within : ∀ c ∈ stripLeft before, isBlank c = false := by
    simpa only [List.all_eq_true, Bool.not_eq_true'] using solid
  have found :
      (CommandCompleter.completions ⟨builtin⟩ ⟨before, after⟩).contains offer = true := by
    decide +kernel
  have isOffered := List.contains_iff_mem.mp found
  obtain ⟨-, -, inWord⟩ := offers_extend_typed before after
  obtain ⟨-, -, taken, begins, -⟩ := (inWord within).2.2.2 offer isOffered
  refine ⟨within, isOffered, ?_, begins⟩
  rw [taken]
  decide +kernel

end Completion

end CommandShell
