/-
# The first match among launch arguments

A name is looked for behind the program's name, and its first place decides: what stands
right behind it is its value, and a name that comes last has none, whatever stood at its
later places.  An argument list that is taken apart at the first place of a name tells
everything at once, also what becomes of it when more words are put behind it: nothing can
come between a name and its value, so a value that is found stays, and a name without one
gets one only if it was the last word.
-/

import CommandShell.LaunchArgs

namespace CommandShell.LaunchArgs

/-- The first place behind the program's name at which a word stands. -/
structure IsFirstAt (name : String) (words : List String) (place : Nat) : Prop where
  behind : 1 ≤ place
  found : words[place]? = some name
  first : ∀ earlier, 1 ≤ earlier → earlier < place → words[earlier]? ≠ some name

/-- The argument list with more words behind it. -/
def extend (args : LaunchArgs) (more : List String) : LaunchArgs :=
  ⟨args.words ++ more⟩

variable {args : LaunchArgs} {name program : String} {front back : List String}

/-! ## Taken apart at the first place -/

/-- The value of a name is the word behind it, if there is one. -/
theorem valueIn_append_cons (absent : name ∉ front) (back : List String) :
    valueIn name (front ++ name :: back) = back.head? := by
  induction front with
  | nil => rw [List.nil_append, valueIn, if_pos rfl]
  | cons word rest ih =>
      rw [List.mem_cons, not_or] at absent
      rw [List.cons_append, valueIn, if_neg (Ne.symm absent.1), ih absent.2]

/-- The place of a name behind words that are others is its first. -/
theorem isFirstAt_iff (absent : name ∉ front) (back : List String) (place : Nat) :
    IsFirstAt name (program :: (front ++ name :: back)) place ↔ place = front.length + 1 := by
  have here : (program :: (front ++ name :: back))[front.length + 1]? = some name := by simp
  have notEarlier : ∀ earlier, 1 ≤ earlier → earlier < front.length + 1 →
      (program :: (front ++ name :: back))[earlier]? ≠ some name := by
    intro earlier behind before found
    obtain ⟨index, rfl⟩ := Nat.exists_eq_add_of_le' behind
    rw [List.getElem?_cons_succ, List.getElem?_append_left (by omega)] at found
    exact absent (List.mem_of_getElem? found)
  constructor
  · rintro ⟨behind, found, first⟩
    -- No place before this one holds the name, and this one forbids any place behind it.
    rcases Nat.lt_trichotomy place (front.length + 1) with before | same | after
    · exact absurd found (notEarlier place behind before)
    · exact same
    · exact absurd here (first _ (by omega) after)
  · rintro rfl
    exact ⟨by omega, here, notEarlier⟩

theorem mem_arguments_iff :
    name ∈ args.arguments ↔ ∃ place, 1 ≤ place ∧ args.words[place]? = some name := by
  rw [arguments, List.mem_iff_getElem?]
  constructor
  · rintro ⟨index, found⟩
    exact ⟨1 + index, by omega, by rwa [List.getElem?_drop] at found⟩
  · rintro ⟨place, behind, found⟩
    obtain ⟨index, rfl⟩ := Nat.exists_eq_add_of_le behind
    exact ⟨index, by rwa [List.getElem?_drop]⟩

/-- An argument list without a word has no first place of it. -/
theorem not_isFirstAt_of_not_mem {place : Nat} (absent : name ∉ args.arguments) :
    ¬ IsFirstAt name args.words place :=
  fun isFirst => absent (mem_arguments_iff.mpr ⟨place, isFirst.behind, isFirst.found⟩)

/-- A word among the arguments has a first place there. -/
theorem exists_words_eq (present : name ∈ args.arguments) :
    ∃ program front back, args.words = program :: (front ++ name :: back) ∧ name ∉ front := by
  obtain ⟨front, back, apart, absent⟩ := List.eq_append_cons_of_mem present
  cases split : args.words with
  | nil => simp [arguments, split] at apart
  | cons program words =>
      obtain rfl : words = front ++ name :: back := by simpa [arguments, split] using apart
      exact ⟨program, front, back, rfl, absent⟩

theorem value?_of_words_eq (words : args.words = program :: (front ++ name :: back))
    (absent : name ∉ front) : args.value? name = back.head? := by
  have apart : args.arguments = front ++ name :: back := by simp [arguments, words]
  rw [value?, apart, valueIn_append_cons absent]

theorem hasFlag_of_words_eq (words : args.words = program :: (front ++ name :: back)) :
    args.hasFlag name = true := by
  rw [hasFlag_iff, arguments, words]
  simp

theorem extend_words_eq (words : args.words = program :: (front ++ name :: back))
    (more : List String) :
    (args.extend more).words = program :: (front ++ name :: (back ++ more)) := by
  simp [extend, words]

/-- A word that has a value is there. -/
theorem mem_of_value? {value : String} (found : args.value? name = some value) :
    name ∈ args.arguments := by
  refine Decidable.byContradiction fun absent => ?_
  rw [value?, valueIn_eq_none_of_not_mem absent] at found
  cases found

/-! ## The first place decides -/

theorem value?_eq_some_iff {value : String} :
    args.value? name = some value ↔
      ∃ place, IsFirstAt name args.words place ∧ args.words[place + 1]? = some value := by
  by_cases present : name ∈ args.arguments
  · obtain ⟨program, front, back, words, absent⟩ := exists_words_eq present
    have next : args.words[front.length + 1 + 1]? = back.head? := by
      rw [words, List.getElem?_cons_succ, List.getElem?_append_right (by omega),
        List.head?_eq_getElem?]
      simp
    simp only [value?_of_words_eq words absent, words, isFirstAt_iff absent, exists_eq_left]
    rw [← words, next]
  · constructor
    · intro found
      exact absurd (mem_of_value? found) present
    · rintro ⟨place, isFirst, -⟩
      exact absurd isFirst (not_isFirstAt_of_not_mem present)

/-- There is no value exactly if no word follows a first place. -/
theorem value?_eq_none_iff :
    args.value? name = none ↔
      ∀ place, IsFirstAt name args.words place → args.words.length ≤ place + 1 := by
  rw [Option.eq_none_iff_forall_ne_some]
  simp only [ne_eq, value?_eq_some_iff, not_exists, not_and]
  constructor
  · intro nothing place isFirst
    rw [← List.getElem?_eq_none_iff, Option.eq_none_iff_forall_ne_some]
    exact fun value => nothing value place isFirst
  · intro short value place isFirst found
    rw [List.getElem?_eq_none (short place isFirst)] at found
    cases found

/-- Only what stands behind the program's name counts. -/
theorem arguments_eq_tail (args : LaunchArgs) : args.arguments = args.words.tail :=
  List.drop_one

/-! ## More words -/

theorem value?_extend {value : String} (found : args.value? name = some value)
    (more : List String) : (args.extend more).value? name = some value := by
  obtain ⟨program, front, back, words, absent⟩ := exists_words_eq (mem_of_value? found)
  rw [value?_of_words_eq words absent] at found
  rw [value?_of_words_eq (extend_words_eq words more) absent, List.head?_append, found,
    Option.some_or]

theorem hasFlag_extend (present : args.hasFlag name = true) (more : List String) :
    (args.extend more).hasFlag name = true := by
  obtain ⟨program, front, back, words, -⟩ := exists_words_eq ((hasFlag_iff args name).mp present)
  exact hasFlag_of_words_eq (extend_words_eq words more)

/-- A name that is there without a value is the last word. -/
theorem exists_words_eq_concat (present : args.hasFlag name = true)
    (nothing : args.value? name = none) :
    ∃ program front, args.words = program :: (front ++ [name]) ∧ name ∉ front := by
  obtain ⟨program, front, back, words, absent⟩ :=
    exists_words_eq ((hasFlag_iff args name).mp present)
  rw [value?_of_words_eq words absent, List.head?_eq_none_iff] at nothing
  subst nothing
  exact ⟨program, front, words, absent⟩

theorem getLast?_words (present : args.hasFlag name = true) (nothing : args.value? name = none) :
    args.words.getLast? = some name := by
  obtain ⟨program, front, words, -⟩ := exists_words_eq_concat present nothing
  rw [words, ← List.cons_append, List.getLast?_concat]

/-- The next word is the value that the name lacked. -/
theorem value?_extend_of_eq_none (present : args.hasFlag name = true)
    (nothing : args.value? name = none) (more : List String) :
    (args.extend more).value? name = more.head? := by
  obtain ⟨program, front, words, absent⟩ := exists_words_eq_concat present nothing
  exact value?_of_words_eq (extend_words_eq words more) absent

/-- **The first match decides.**  The value of a name is the word behind its first place
behind the program's name, and there is none if the name is not there or comes last; a flag
is set if its name is at some such place.  The program's name never matters.  More words
change no value that is there and unset no flag, and they give a value to a name without
one only if it was the last word. -/
theorem first_match_decides (args : LaunchArgs) (name : String) :
    (∀ value, args.value? name = some value ↔
      ∃ place, IsFirstAt name args.words place ∧ args.words[place + 1]? = some value) ∧
    (args.value? name = none ↔
      ∀ place, IsFirstAt name args.words place → args.words.length ≤ place + 1) ∧
    (args.hasFlag name = true ↔ ∃ place, 1 ≤ place ∧ args.words[place]? = some name) ∧
    (∀ other : LaunchArgs, other.words.tail = args.words.tail →
      other.value? name = args.value? name ∧ other.hasFlag name = args.hasFlag name) ∧
    ∀ more,
      (∀ value, args.value? name = some value →
        (args.extend more).value? name = some value) ∧
      (args.hasFlag name = true → (args.extend more).hasFlag name = true) ∧
      (args.hasFlag name = true → args.value? name = none →
        args.words.getLast? = some name ∧ (args.extend more).value? name = more.head?) := by
  refine ⟨fun value => value?_eq_some_iff, value?_eq_none_iff,
    (hasFlag_iff args name).trans mem_arguments_iff, ?_, ?_⟩
  · intro other same
    have sameArguments : other.arguments = args.arguments := by
      rw [arguments_eq_tail, arguments_eq_tail, same]
    rw [value?, value?, hasFlag, hasFlag, sameArguments]
    exact ⟨rfl, rfl⟩
  · intro more
    refine ⟨fun value found => value?_extend found more,
      fun present => hasFlag_extend present more, fun present nothing => ?_⟩
    exact ⟨getLast?_words present nothing, value?_extend_of_eq_none present nothing more⟩

/-- Here `-x` is the program's name and the last word, so it has no value until a word is put
behind the list; `-f` keeps the value at its first place. -/
theorem first_match_decides_sample :
    let args : LaunchArgs := ⟨["-x", "-f", "a.tcl", "-f", "b.tcl", "-x"]⟩
    args.value? "-f" = some "a.tcl" ∧
      (args.extend ["-f", "c.tcl"]).value? "-f" = some "a.tcl" ∧
      args.hasFlag "-x" = true ∧ args.value? "-x" = none ∧
      args.words.getLast? = some "-x" ∧ (args.extend ["-x"]).value? "-x" = some "-x" ∧
      (args.extend ["-x"]).hasFlag "-x" = true ∧
      (⟨["sta", "-f", "a.tcl", "-f", "b.tcl", "-x"]⟩ : LaunchArgs).value? "-x" = none := by
  intro args
  obtain ⟨-, -, -, -, fileExtended⟩ := first_match_decides args "-f"
  obtain ⟨-, -, -, renamed, extended⟩ := first_match_decides args "-x"
  have file : args.value? "-f" = some "a.tcl" := by decide
  have present : args.hasFlag "-x" = true := by decide
  have nothing : args.value? "-x" = none := by decide
  refine ⟨file, (fileExtended ["-f", "c.tcl"]).1 _ file, present, nothing, ?_, ?_, ?_, ?_⟩
  · exact ((extended ["-x"]).2.2 present nothing).1
  · exact ((extended ["-x"]).2.2 present nothing).2
  · exact (extended ["-x"]).2.1 present
  · exact ((renamed ⟨["sta", "-f", "a.tcl", "-f", "b.tcl", "-x"]⟩ rfl).1).trans nothing

end CommandShell.LaunchArgs
