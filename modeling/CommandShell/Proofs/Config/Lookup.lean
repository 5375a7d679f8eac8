/-
# Where a dotted path leads

A path is made of keys with dots between them, and there is only one way to take it apart.
Following it is a walk through nested mappings, one key a step.  Either the walk comes to
a value, and that value is the answer whatever it is, or some step meets what is no mapping
or a mapping without the key, and then the default is the answer.  A path that goes on
behind a dot is followed from where its first part has led.  So a section and a path
through its name answer alike, also if the section is not there or is not a mapping.
-/

import CommandShell.Config.Lookup

namespace CommandShell.Config

/-! ## The keys of a path -/

/-- A path is made of words: there is one at least, none has a dot in it, and with dots
between them they are the path. -/
structure IsMadeOf (path : String) (words : List String) : Prop where
  ne_nil : words ≠ []
  noDot : ∀ word ∈ words, '.' ∉ word.toList
  joined : ".".intercalate words = path

theorem map_toList_keys (path : String) :
    (keys path).map String.toList = Text.splitAt '.' path.toList := by
  simp [keys, Function.comp_def]

theorem keys_ne_nil (path : String) : keys path ≠ [] := by
  simp [keys, Text.splitAt_ne_nil]

theorem keys_of_noDot {key : String} (noDot : '.' ∉ key.toList) : keys key = [key] := by
  simp [keys, Text.splitAt_of_not_mem noDot]

theorem keys_append_dot (path rest : String) :
    keys (path ++ "." ++ rest) = keys path ++ keys rest := by
  have characters :
      (path ++ "." ++ rest).toList = path.toList ++ '.' :: rest.toList := by simp
  simp only [keys, characters, Text.splitAt_append, List.map_append]

/-- The keys of a path are the only words that it is made of. -/
theorem isMadeOf_iff {path : String} {words : List String} :
    IsMadeOf path words ↔ words = keys path := by
  constructor
  · intro made
    have whole : ∀ piece ∈ words.map String.toList, '.' ∉ piece := by
      simpa using made.noDot
    have characters : path.toList = ['.'].intercalate (words.map String.toList) := by
      rw [← made.joined, String.toList_intercalate]
      rfl
    have pieces : Text.splitAt '.' path.toList = words.map String.toList := by
      rw [characters, Text.splitAt_intercalate (by simpa using made.ne_nil) whole]
    simp [keys, pieces, Function.comp_def]
  · rintro rfl
    refine ⟨keys_ne_nil path, ?_, ?_⟩
    · intro word isKey
      have isPiece : word.toList ∈ Text.splitAt '.' path.toList := by
        rw [← map_toList_keys]
        exact List.mem_map_of_mem isKey
      exact Text.not_mem_of_mem_splitAt _ isPiece
    · rw [← String.toList_inj, String.toList_intercalate, map_toList_keys]
      exact Text.intercalate_splitAt '.' path.toList

/-! ## Walks through nested mappings -/

/-- Keys lead from a value to another, each into the mapping that is met. -/
inductive LeadsTo : Value → List String → Value → Prop
  | here (value : Value) : LeadsTo value [] value
  | step {entries : Mapping} {key : String} {rest : List String} {inner found : Value}
      (entry : entries.lookup key = some inner) (onward : LeadsTo inner rest found) :
      LeadsTo (.mapping entries) (key :: rest) found

/-- One of the steps meets what is no mapping, or a mapping without the key. -/
def IsBlocked (value : Value) (words : List String) : Prop :=
  ∃ front key back met, words = front ++ key :: back ∧ LeadsTo value front met ∧
    ∀ entries, met = .mapping entries → key ∉ entries.map Prod.fst

theorem lookup_eq_none_iff {entries : Mapping} {key : String} :
    entries.lookup key = none ↔ key ∉ entries.map Prod.fst := by
  rw [List.lookup_eq_none_iff, List.mem_map]
  constructor
  · rintro others ⟨entry, member, rfl⟩
    simpa using others entry member
  · intro absent entry member
    rw [bne_iff_ne]
    rintro rfl
    exact absent ⟨entry, member, rfl⟩

theorem follow_eq_some_iff {value found : Value} {words : List String} :
    follow value words = some found ↔ LeadsTo value words found := by
  constructor
  · intro follows
    induction words generalizing value with
    | nil =>
        obtain rfl : value = found := Option.some.inj follows
        exact .here value
    | cons key rest ih =>
        cases value with
        | mapping entries =>
            obtain ⟨inner, entry, onward⟩ := Option.bind_eq_some_iff.mp follows
            exact .step entry (ih onward)
        | _ => cases follows
  · intro leads
    induction leads with
    | here value => rfl
    | step entry onward ih => rw [follow, entry, Option.bind_some, ih]

/-- A walk that comes to no value is blocked at one of its steps. -/
theorem follow_eq_none_iff {value : Value} {words : List String} :
    follow value words = none ↔ IsBlocked value words := by
  constructor
  · intro stuck
    -- The first step that fails is the one; those before it are the way to where it stands.
    induction words generalizing value with
    | nil => cases stuck
    | cons key rest ih =>
        cases value with
        | mapping entries =>
            cases entry : entries.lookup key with
            | none =>
                refine ⟨[], key, rest, .mapping entries, rfl, .here _, ?_⟩
                rintro _ ⟨⟩
                exact lookup_eq_none_iff.mp entry
            | some inner =>
                rw [follow, entry, Option.bind_some] at stuck
                obtain ⟨front, last, back, met, rfl, leads, refuses⟩ := ih stuck
                exact ⟨key :: front, last, back, met, rfl, .step entry leads, refuses⟩
        | _ => exact ⟨[], key, rest, _, rfl, .here _, fun _ => Value.noConfusion⟩
  · rintro ⟨front, key, back, met, rfl, leads, refuses⟩
    rw [follow_append, follow_eq_some_iff.mpr leads, Option.bind_some]
    cases met with
    | mapping entries => rw [follow, lookup_eq_none_iff.mpr (refuses entries rfl), Option.bind_none]
    | _ => rfl

/-! ## Answers -/

variable {config : Mapping} {path rest key : String}

theorem find?_of_ne_empty (some_key : path ≠ "") :
    find? config path = follow (.mapping config) (keys path) :=
  if_neg some_key

theorem append_dot_ne_empty (path rest : String) : path ++ "." ++ rest ≠ "" := by
  intro empty
  have characters : path.toList ++ '.' :: rest.toList = [] := by
    simpa using congrArg String.toList empty
  exact List.append_ne_nil_of_right_ne_nil _ (List.cons_ne_nil _ _) characters

/-- What is not a mapping leads no further. -/
theorem follow_eq_bind_entries? (value : Value) {words : List String} (some_key : words ≠ []) :
    follow value words = value.entries?.bind fun entries => follow (.mapping entries) words := by
  obtain ⟨key, others, rfl⟩ := List.exists_cons_of_ne_nil some_key
  cases value <;> rfl

/-- A path that goes on behind a dot is followed from the mapping that its first part has
led to. -/
theorem find?_append_dot (some_key : path ≠ "") (goesOn : rest ≠ "") :
    find? config (path ++ "." ++ rest) =
      ((find? config path).bind Value.entries?).bind fun inner => find? inner rest := by
  have onward : ∀ inner, find? inner rest = follow (.mapping inner) (keys rest) :=
    fun inner => find?_of_ne_empty goesOn
  rw [find?_of_ne_empty (append_dot_ne_empty path rest), keys_append_dot, follow_append,
    find?_of_ne_empty some_key, Option.bind_assoc]
  simp only [onward, ← follow_eq_bind_entries? _ (keys_ne_nil rest)]

/-- A section and the path through its name answer alike. -/
theorem find_section (name : String) (noDotName : '.' ∉ name.toList)
    (noDot : '.' ∉ key.toList) (default : Value) :
    find config (name ++ "." ++ key) default = get (topMapping config name) key default := by
  rw [find, find?_of_ne_empty (append_dot_ne_empty name key), keys_append_dot,
    keys_of_noDot noDotName, keys_of_noDot noDot, get, topMapping]
  cases held : config.lookup name with
  | none => simp [follow, held]
  | some value => cases value <;> simp [follow, held, Value.entries?]

/-- What is found is the value that the keys lead to, or the default if they are blocked. -/
theorem find_eq_iff (some_key : path ≠ "") {default value : Value} :
    find config path default = value ↔
      LeadsTo (.mapping config) (keys path) value ∨
        IsBlocked (.mapping config) (keys path) ∧ value = default := by
  rw [find, find?_of_ne_empty some_key, ← follow_eq_some_iff, ← follow_eq_none_iff]
  cases follow (.mapping config) (keys path) with
  | none => simp [eq_comm]
  | some found => simp

theorem find_eq_default_iff (some_key : path ≠ "") :
    (∀ default, find config path default = default) ↔
      IsBlocked (.mapping config) (keys path) := by
  rw [← follow_eq_none_iff, ← find?_of_ne_empty some_key]
  constructor
  · intro always
    cases found : find? config path with
    | none => rfl
    | some value =>
        have isNull : value = .null := by simpa [find, found] using always .null
        have isTrue : value = .bool true := by simpa [find, found] using always (.bool true)
        rw [isNull] at isTrue
        cases isTrue
  · intro nothing default
    rw [find, nothing, Option.getD_none]

/-- **Dotted lookup composes.**  A path that goes on behind a dot answers from the mapping
that its first part has led to, and with the default if that is no mapping.  So a path is
its keys followed from left to right: the answer is the value that they lead to, whatever
it is, and the default exactly if one of the steps is blocked.  The sections of the shell
and of the user interface answer like the paths through their names. -/
theorem dotted_lookup_composes (config : Mapping) :
    (∀ path rest default, path ≠ "" → rest ≠ "" →
      (∀ inner, find config path .null = .mapping inner →
        find config (path ++ "." ++ rest) default = find inner rest default) ∧
      ((∀ inner, find config path .null ≠ .mapping inner) →
        find config (path ++ "." ++ rest) default = default)) ∧
    (∀ path, path ≠ "" →
      (∀ words, IsMadeOf path words ↔ words = keys path) ∧
      (∀ default value, find config path default = value ↔
        LeadsTo (.mapping config) (keys path) value ∨
          IsBlocked (.mapping config) (keys path) ∧ value = default) ∧
      ((∀ default, find config path default = default) ↔
        IsBlocked (.mapping config) (keys path))) ∧
    (∀ key default, '.' ∉ key.toList →
      find config ("shell." ++ key) default = get (shell config) key default ∧
      find config ("ui." ++ key) default = get (ui config) key default) := by
  refine ⟨?_, ?_, ?_⟩
  · intro path rest default some_key goesOn
    constructor
    · intro inner led
      have found : find? config path = some (.mapping inner) := by
        cases reached : find? config path with
        | none => simp [find, reached] at led
        | some value => simpa [find, reached] using led
      rw [find, find?_append_dot some_key goesOn, found]
      rfl
    · intro noMapping
      have ends : (find? config path).bind Value.entries? = none := by
        cases reached : find? config path with
        | none => rfl
        | some value =>
            cases value with
            | mapping inner => exact absurd (by rw [find, reached]; rfl) (noMapping inner)
            | _ => rfl
      rw [find, find?_append_dot some_key goesOn, ends]
      rfl
  · intro path some_key
    exact ⟨fun words => isMadeOf_iff, fun default value => find_eq_iff some_key,
      find_eq_default_iff some_key⟩
  · intro key default noDot
    exact ⟨find_section "shell" (by decide) noDot default,
      find_section "ui" (by decide) noDot default⟩

/-- Two dots are a key without characters between them.  Nothing, and false, are answers
like any other, and the settings of a user interface that is only a text are the defaults. -/
theorem dotted_lookup_composes_sample :
    let config : Mapping :=
      [("shell", .mapping [("prompt", .null), ("", .mapping [("deep", .bool false)])]),
        ("ui", .string "none")]
    find config "shell" .null =
        .mapping [("prompt", .null), ("", .mapping [("deep", .bool false)])] ∧
      find config "shell..deep" (.int 1) = .bool false ∧
      find config "shell.prompt" (.int 1) = .null ∧
      (∀ inner, find config "ui" .null ≠ .mapping inner) ∧
      find config "ui.theme.style" (.int 1) = .int 1 ∧
      IsBlocked (.mapping config) (keys "ui.theme") ∧
      find config "ui.theme" (.int 1) = get (ui config) "theme" (.int 1) := by
  intro config
  obtain ⟨composes, walks, sections⟩ := dotted_lookup_composes config
  have led : find config "shell" .null =
      .mapping [("prompt", .null), ("", .mapping [("deep", .bool false)])] := by rfl
  have noMapping : ∀ inner, find config "ui" .null ≠ .mapping inner :=
    fun _ => Value.noConfusion
  have blocked : ∀ default, find config "ui.theme" default = default := fun _ => rfl
  refine ⟨led, ?_, ?_, noMapping, ?_, ?_, ?_⟩
  · exact (composes "shell" ".deep" (.int 1) (by decide) (by decide)).1 _ led
  · exact (composes "shell" "prompt" (.int 1) (by decide) (by decide)).1 _ led
  · exact (composes "ui" "theme.style" (.int 1) (by decide) (by decide)).2 noMapping
  · exact (walks "ui.theme" (by decide)).2.2.mp blocked
  · exact (sections "theme" (.int 1) (by decide)).2

end CommandShell.Config
