/-
# Defects of a payload

A payload can be wrong in many places at once.  What is wrong with it is said here without
a reader: of the lengths, of each window of three characters, and of the bytes that the
windows spell.  Every defect has a place in the order of reading.  A reader that goes
through the parts of a payload in this order reports the first defect there is, and
succeeds exactly if there is none; each stage of reading adds its defects behind those of
the stage before it.
-/

import CommandShell.Payload.Request
import CommandShell.Proofs.Payload.RoundTrip

namespace CommandShell.Payload

open CommandShell.Text

/-! ## What is wrong with a payload -/

/-- The windows of a text: as many characters as a code has, from every place that is a
multiple of that. -/
def windows (text : List Char) : List (List Char) :=
  (List.range ((text.length + 2) / codeWidth)).map fun index =>
    (text.drop (codeWidth * index)).take codeWidth

/-- Three ASCII digits. -/
def IsDigits (window : List Char) : Prop :=
  window.length = codeWidth ∧ ∀ c ∈ window, Decimal.isDigit c = true

/-- Three ASCII digits that denote a byte. -/
def IsByteCode (window : List Char) : Prop :=
  IsDigits window ∧ Decimal.value window ≤ 255

/-- Every fragment consists of byte codes. -/
def IsFormatted (fragments : List String) : Prop :=
  ∀ fragment ∈ fragments, fragment.length % codeWidth = 0 ∧
    ∀ window ∈ windows fragment.toList, IsByteCode window

/-- The bytes that the windows of all fragments together denote. -/
def codes (fragments : List String) : List UInt8 :=
  (fragments.flatMap fun fragment => windows fragment.toList).map fun window =>
    (Decimal.value window).toUInt8

/-- A window is no byte code. -/
inductive WindowDefect (fragment offset : Nat) (window : List Char) : Defect → Prop
  | notDigits (bad : ¬ IsDigits window) :
      WindowDefect fragment offset window (.notDigits fragment offset (String.ofList window))
  | outOfRange (digits : IsDigits window) (beyond : 255 < Decimal.value window) :
      WindowDefect fragment offset window (.outOfRange fragment offset (Decimal.value window))

/-- One of the windows from an offset on is no byte code. -/
def WindowsDefect (fragment offset : Nat) (text : List Char) (defect : Defect) : Prop :=
  ∃ index window, (windows text)[index]? = some window ∧
    WindowDefect fragment (offset + codeWidth * index) window defect

/-- A fragment has a length that no codes have, or one of its windows is no byte code. -/
inductive FragmentDefect (fragment : Nat) (text : List Char) : Defect → Prop
  | length (broken : text.length % codeWidth ≠ 0) :
      FragmentDefect fragment text (.fragmentLength fragment text.length)
  | window {defect : Defect} (bad : WindowsDefect fragment 0 text defect) :
      FragmentDefect fragment text defect

/-- One of the fragments whose first one has number `first` is defective. -/
def FragmentsDefect (first : Nat) (fragments : List String) (defect : Defect) : Prop :=
  ∃ index fragment, fragments[index]? = some fragment ∧
    FragmentDefect (first + index) fragment.toList defect

/-- Something is wrong with a payload: the length of all fragments together, one of the
fragments, or the bytes they spell. -/
inductive HasDefect (fragments : List String) : Defect → Prop
  | totalLength (broken : (String.join fragments).length % codeWidth ≠ 0) :
      HasDefect fragments (.totalLength (String.join fragments).length)
  | fragment {defect : Defect} (bad : FragmentsDefect 0 fragments defect) :
      HasDefect fragments defect
  | notUtf8 {fault : Utf8.Fault} (damaged : Utf8.decode (codes fragments) = .error fault) :
      HasDefect fragments (.notUtf8 fault)

/-! ## The order of reading -/

/-- Where a defect is noticed: before all fragments, in one of them, or behind all of them.
In a fragment its length comes first and then its windows, from left to right. -/
def Defect.place : Defect → Nat × Nat × Nat
  | .totalLength _ => (0, 0, 0)
  | .fragmentLength fragment _ => (1, fragment, 0)
  | .notDigits fragment offset _ => (1, fragment, offset + 1)
  | .outOfRange fragment offset _ => (1, fragment, offset + 1)
  | .notUtf8 _ => (2, 0, 0)

/-- A defect is noticed before another. -/
def Defect.Before (defect other : Defect) : Prop :=
  Prod.Lex (· < ·) (Prod.Lex (· < ·) (· < ·)) defect.place other.place

theorem Defect.before_iff {defect other : Defect} :
    defect.Before other ↔ defect.place.1 < other.place.1 ∨ defect.place.1 = other.place.1 ∧
      (defect.place.2.1 < other.place.2.1 ∨ defect.place.2.1 = other.place.2.1 ∧
        defect.place.2.2 < other.place.2.2) := by
  rw [Defect.Before, Prod.lex_def, Prod.lex_def]

/-- Defects of fragments are noticed from fragment to fragment, and in each from left to
right. -/
theorem Defect.before_of_place {defect other : Defect} {fragment later spot further : Nat}
    (place : defect.place = (1, fragment, spot)) (place' : other.place = (1, later, further))
    (order : fragment < later ∨ fragment = later ∧ spot < further) : defect.Before other := by
  rw [Defect.before_iff, place, place']
  exact .inr ⟨rfl, order⟩

/-- A defect of a kind that is noticed before every other one of the kind. -/
structure IsFirst (kind : Defect → Prop) (defect : Defect) : Prop where
  ofKind : kind defect
  first : ∀ other, kind other → other = defect ∨ defect.Before other

theorem IsFirst.unique {kind : Defect → Prop} {defect other : Defect}
    (h : IsFirst kind defect) (h' : IsFirst kind other) : other = defect := by
  rcases h.first other h'.ofKind with same | before
  · exact same
  rcases h'.first defect h.ofKind with same | before'
  · exact same.symm
  rw [Defect.before_iff] at before before'
  omega

/-! ## Readers -/

/-- A reader goes by the defects of a kind: it reports the first one, and succeeds only if
there is none. -/
inductive Reports {α : Type} (kind : Defect → Prop) : Except Defect α → Prop
  | sound {value : α} (none : ∀ defect, ¬ kind defect) : Reports kind (.ok value)
  | first {defect : Defect} (first : IsFirst kind defect) : Reports kind (.error defect)

section Readers

variable {α β : Type} {kind later : Defect → Prop}

theorem Reports.congr {answer : Except Defect α} (h : Reports kind answer)
    (same : ∀ defect, kind defect ↔ later defect) : Reports later answer := by
  have eq : kind = later := funext fun defect => propext (same defect)
  exact eq ▸ h

/-- Two readers in sequence, of which the second looks at what lies behind the first. -/
theorem Reports.bind {reader : Except Defect α} {next : α → Except Defect β}
    (begun : Reports kind reader) (rest : ∀ value, reader = .ok value → Reports later (next value))
    (order : ∀ defect other, kind defect → later other → defect.Before other) :
    Reports (fun defect => kind defect ∨ later defect) (reader >>= next) := by
  cases begun with
  | sound none =>
      exact (rest _ rfl).congr fun defect => (or_iff_right (none defect)).symm
  | @first defect isFirst =>
      refine .first ⟨.inl isFirst.ofKind, fun other => ?_⟩
      rintro (early | late)
      · exact isFirst.first other early
      · exact .inr (order defect other isFirst.ofKind late)

theorem Reports.map {reader : Except Defect α} (f : α → β) (h : Reports kind reader) :
    Reports kind (reader >>= fun value => pure (f value)) := by
  cases h with
  | sound none => exact .sound none
  | first isFirst => exact .first isFirst

/-- A check that comes before a reader. -/
theorem Reports.check {condition : Prop} [Decidable condition] {defect : Defect}
    {reader : Except Defect α} (rest : Reports later reader)
    (order : ∀ other, later other → defect.Before other) :
    Reports (fun other => (condition ∧ other = defect) ∨ later other)
      (if condition then .error defect else reader) := by
  split
  next holds =>
    refine .first ⟨.inl ⟨holds, rfl⟩, fun other => ?_⟩
    rintro (⟨-, same⟩ | late)
    · exact .inl same
    · exact .inr (order other late)
  next fails => exact rest.congr fun other => by simp [fails]

theorem Reports.eq_ok_iff {answer : Except Defect α} (h : Reports kind answer) :
    (∃ value, answer = .ok value) ↔ ∀ defect, ¬ kind defect := by
  cases h with
  | sound none => exact ⟨fun _ => none, fun _ => ⟨_, rfl⟩⟩
  | first isFirst =>
      constructor
      · rintro ⟨value, impossible⟩
        cases impossible
      · intro none
        exact absurd isFirst.ofKind (none _)

theorem Reports.eq_error_iff {answer : Except Defect α} (h : Reports kind answer)
    {defect : Defect} : answer = .error defect ↔ IsFirst kind defect := by
  cases h with
  | sound none =>
      constructor
      · intro impossible
        cases impossible
      · intro isFirst
        exact absurd isFirst.ofKind (none defect)
  | first isFirst =>
      constructor
      · rintro ⟨⟩
        exact isFirst
      · intro isFirst'
        rw [isFirst.unique isFirst']

end Readers

/-! ## Windows -/

theorem windows_cons (a b c : Char) (rest : List Char) :
    windows (a :: b :: c :: rest) = [a, b, c] :: windows rest := by
  have count : ((a :: b :: c :: rest).length + 2) / codeWidth =
      (rest.length + 2) / codeWidth + 1 := by
    simp only [List.length_cons, codeWidth]
    omega
  have later (index : Nat) : (a :: b :: c :: rest).drop (codeWidth * (index + 1)) =
      rest.drop (codeWidth * index) := rfl
  rw [windows, count, List.range_succ_eq_map, List.map_cons, List.map_map, windows]
  simp only [Function.comp_def, Nat.succ_eq_add_one, later]
  rfl

/-- A text that is shorter than a code is a window of its own. -/
theorem windows_of_short {text : List Char} (filled : text ≠ [])
    (short : text.length < codeWidth) : windows text = [text] := by
  have count : (text.length + 2) / codeWidth = 1 := by
    have some_left := List.length_pos_iff.mpr filled
    simp only [codeWidth] at short ⊢
    omega
  rw [windows, count, List.range_one, List.map_singleton, Nat.mul_zero, List.drop_zero,
    List.take_of_length_le (Nat.le_of_lt short)]

theorem isNumeral_iff {window : List Char} (whole : window.length = codeWidth) :
    Decimal.isNumeral window = true ↔ IsDigits window := by
  have filled : window ≠ [] := by
    rintro rfl
    cases whole
  simp [Decimal.isNumeral, IsDigits, whole, filled]

theorem place_of_windowDefect {fragment offset : Nat} {window : List Char} {defect : Defect}
    (bad : WindowDefect fragment offset window defect) :
    defect.place = (1, fragment, offset + 1) := by
  cases bad <;> rfl

theorem windowDefect_unique {fragment offset : Nat} {window : List Char} {defect other : Defect}
    (bad : WindowDefect fragment offset window defect)
    (bad' : WindowDefect fragment offset window other) : other = defect := by
  cases bad with
  | notDigits noDigits =>
      cases bad' with
      | notDigits => rfl
      | outOfRange digits => exact absurd digits noDigits
  | outOfRange digits =>
      cases bad' with
      | notDigits noDigits => exact absurd digits noDigits
      | outOfRange => rfl

/-- What is wrong with a window is the only thing that is. -/
theorem isFirst_windowDefect {fragment offset : Nat} {window : List Char} {defect : Defect}
    (bad : WindowDefect fragment offset window defect) :
    IsFirst (WindowDefect fragment offset window) defect :=
  ⟨bad, fun _ bad' => .inl (windowDefect_unique bad bad')⟩

theorem reports_readWindow (fragment offset : Nat) {window : List Char}
    (whole : window.length = codeWidth) :
    Reports (WindowDefect fragment offset window) (readWindow fragment offset window) := by
  rw [readWindow]
  split
  next noNumeral =>
    have noDigits : ¬ IsDigits window := by
      rw [← isNumeral_iff whole]
      simpa using noNumeral
    exact .first (isFirst_windowDefect (.notDigits noDigits))
  next numeral =>
    have digits : IsDigits window := by
      rw [← isNumeral_iff whole]
      simpa using numeral
    dsimp only
    split
    next beyond => exact .first (isFirst_windowDefect (.outOfRange digits beyond))
    next inRange =>
      refine .sound fun defect bad => ?_
      cases bad with
      | notDigits noDigits => exact noDigits digits
      | outOfRange _ beyond => exact inRange beyond

theorem windowsDefect_cons {fragment offset : Nat} {a b c : Char} {rest : List Char}
    {defect : Defect} :
    WindowsDefect fragment offset (a :: b :: c :: rest) defect ↔
      WindowDefect fragment offset [a, b, c] defect ∨
        WindowsDefect fragment (offset + codeWidth) rest defect := by
  have next (index : Nat) :
      offset + codeWidth * (index + 1) = offset + codeWidth + codeWidth * index := by
    rw [Nat.mul_succ]
    omega
  simp only [WindowsDefect, windows_cons]
  constructor
  · rintro ⟨index, window, there, bad⟩
    cases index with
    | zero =>
        cases there
        exact .inl bad
    | succ index => exact .inr ⟨index, window, there, next index ▸ bad⟩
  · rintro (bad | ⟨index, window, there, bad⟩)
    · exact ⟨0, _, rfl, bad⟩
    · exact ⟨index + 1, window, there, (next index).symm ▸ bad⟩

theorem place_of_windowsDefect {fragment offset : Nat} {text : List Char} {defect : Defect}
    (bad : WindowsDefect fragment offset text defect) :
    ∃ index, defect.place = (1, fragment, offset + codeWidth * index + 1) := by
  obtain ⟨index, _, _, bad⟩ := bad
  exact ⟨index, place_of_windowDefect bad⟩

theorem windowsDefect_of_short {fragment offset : Nat} {text : List Char} {defect : Defect}
    (filled : text ≠ []) (short : text.length < codeWidth) :
    WindowsDefect fragment offset text defect ↔ WindowDefect fragment offset text defect := by
  simp only [WindowsDefect, windows_of_short filled short]
  constructor
  · rintro ⟨index, window, there, bad⟩
    cases index with
    | zero =>
        cases there
        exact bad
    | succ index => cases there
  · intro bad
    exact ⟨0, _, rfl, bad⟩

theorem reports_readWindows (fragment offset : Nat) (text : List Char) :
    Reports (WindowsDefect fragment offset text) (readWindows fragment offset text) := by
  fun_induction readWindows fragment offset text with
  | case1 offset =>
      refine .sound fun defect bad => ?_
      obtain ⟨index, window, there, _⟩ := bad
      cases there
  | case2 offset a b c rest ih =>
      have first : Reports (WindowDefect fragment offset [a, b, c])
          (readWindow fragment offset [a, b, c]) := reports_readWindow fragment offset rfl
      have read := first.bind (fun byte _ => ih.map (byte :: ·)) fun defect other bad late => by
        obtain ⟨index, place⟩ := place_of_windowsDefect late
        refine Defect.before_of_place (place_of_windowDefect bad) place (.inr ⟨rfl, ?_⟩)
        simp only [codeWidth]
        omega
      exact read.congr fun defect => windowsDefect_cons.symm
  | case3 offset short filled unfinished =>
      -- What is left over is a window as well, and no code has its length.
      have isShort : short.length < codeWidth := by
        rcases short with _ | ⟨a, _ | ⟨b, _ | ⟨c, rest⟩⟩⟩
        · exact Nat.zero_lt_succ 2
        · exact Nat.succ_lt_succ (Nat.zero_lt_succ 1)
        · exact Nat.lt_succ_self 2
        · exact (unfinished a b c rest rfl).elim
      have noDigits : ¬ IsDigits short := fun digits => absurd digits.1 (Nat.ne_of_lt isShort)
      have bad : WindowDefect fragment offset short _ := .notDigits noDigits
      exact (Reports.first (isFirst_windowDefect bad)).congr fun defect =>
        (windowsDefect_of_short filled isShort).symm

/-! ## Fragments -/

theorem reports_readFragment (fragment : Nat) (text : List Char) :
    Reports (FragmentDefect fragment text) (readFragment fragment text) := by
  have read : Reports _ (readFragment fragment text) :=
    (reports_readWindows fragment 0 text).check fun other late => by
      obtain ⟨index, place⟩ := place_of_windowsDefect late
      exact Defect.before_of_place rfl place (.inr ⟨rfl, Nat.succ_pos _⟩)
  refine read.congr fun defect => ?_
  constructor
  · rintro (⟨broken, rfl⟩ | bad)
    · exact .length broken
    · exact .window bad
  · rintro (broken | bad)
    · exact .inl ⟨broken, rfl⟩
    · exact .inr bad

theorem place_of_fragmentDefect {fragment : Nat} {text : List Char} {defect : Defect}
    (bad : FragmentDefect fragment text defect) :
    ∃ spot, defect.place = (1, fragment, spot) := by
  cases bad with
  | length broken => exact ⟨0, rfl⟩
  | window bad =>
      obtain ⟨index, place⟩ := place_of_windowsDefect bad
      exact ⟨_, place⟩

theorem fragmentsDefect_cons {first : Nat} {fragment : String} {rest : List String}
    {defect : Defect} :
    FragmentsDefect first (fragment :: rest) defect ↔
      FragmentDefect first fragment.toList defect ∨ FragmentsDefect (first + 1) rest defect := by
  simp only [FragmentsDefect]
  constructor
  · rintro ⟨index, text, there, bad⟩
    cases index with
    | zero =>
        cases there
        exact .inl bad
    | succ index => exact .inr ⟨index, text, there, Nat.succ_add_eq_add_succ first index ▸ bad⟩
  · rintro (bad | ⟨index, text, there, bad⟩)
    · exact ⟨0, _, rfl, bad⟩
    · exact ⟨index + 1, text, there, Nat.succ_add_eq_add_succ first index ▸ bad⟩

theorem place_of_fragmentsDefect {first : Nat} {fragments : List String} {defect : Defect}
    (bad : FragmentsDefect first fragments defect) :
    ∃ index spot, defect.place = (1, first + index, spot) := by
  obtain ⟨index, _, _, bad⟩ := bad
  exact ⟨index, place_of_fragmentDefect bad⟩

theorem reports_readFragments (first : Nat) (fragments : List String) :
    Reports (FragmentsDefect first fragments) (readFragments first fragments) := by
  induction fragments generalizing first with
  | nil =>
      refine .sound fun defect bad => ?_
      obtain ⟨index, fragment, there, _⟩ := bad
      cases there
  | cons fragment rest ih =>
      have read := (reports_readFragment first fragment.toList).bind
        (fun front _ => (ih (first + 1)).map (front ++ ·)) fun defect other bad late => by
          obtain ⟨spot, place⟩ := place_of_fragmentDefect bad
          obtain ⟨index, further, place'⟩ := place_of_fragmentsDefect late
          exact Defect.before_of_place place place' (.inl (by omega))
      exact read.congr fun defect => fragmentsDefect_cons.symm

/-! ## Payloads -/

theorem length_join (fragments : List String) :
    (String.join fragments).length = totalLength fragments := by
  rw [← String.length_toList, String.toList_join]
  induction fragments with
  | nil => rfl
  | cons fragment rest ih =>
      rw [List.flatMap_cons, List.length_append, ih, totalLength, String.length_toList]

theorem windows_flatMap_writeByte (run : List UInt8) :
    windows (run.flatMap writeByte) = run.map writeByte := by
  induction run with
  | nil => rfl
  | cons b run ih =>
      have first : (b :: run).flatMap writeByte = writeByte b ++ run.flatMap writeByte := rfl
      rw [first, writeByte, List.cons_append, List.cons_append, List.cons_append, List.nil_append,
        windows_cons, ih]
      rfl

/-- The bytes that are read are those that the windows denote. -/
theorem codes_map_fragmentOf (runs : List (List UInt8)) :
    codes (runs.map fragmentOf) = runs.flatten := by
  have denoted (b : UInt8) : (Decimal.value (writeByte b)).toUInt8 = b := by
    rw [value_writeByte, Utf8.toUInt8_toNat]
  simp only [codes, List.flatMap_map, toList_fragmentOf, windows_flatMap_writeByte,
    List.map_flatMap, List.map_map, Function.comp_def, denoted, List.map_id']
  exact List.flatMap_id

theorem reports_readBytes (fragments : List String) :
    Reports (fun defect => (totalLength fragments % codeWidth ≠ 0 ∧
        defect = .totalLength (totalLength fragments)) ∨ FragmentsDefect 0 fragments defect)
      (readBytes fragments) :=
  (reports_readFragments 0 fragments).check fun other late => by
    obtain ⟨index, spot, place⟩ := place_of_fragmentsDefect late
    rw [Defect.before_iff, place]
    exact .inl Nat.zero_lt_one

theorem codes_of_readBytes {fragments : List String} {bytes : List UInt8}
    (h : readBytes fragments = .ok bytes) : codes fragments = bytes := by
  rw [readBytes] at h
  split at h
  · cases h
  · obtain ⟨runs, rfl, flat⟩ := readFragments_eq_ok_iff.mp h
    rw [codes_map_fragmentOf, flat]

/-- Reading a payload reports its first defect. -/
theorem reports_decode (fragments : List String) :
    Reports (HasDefect fragments) (decode fragments) := by
  let damaged (defect : Defect) : Prop :=
    ∃ fault, Utf8.decode (codes fragments) = .error fault ∧ defect = .notUtf8 fault
  -- The bytes are looked at last, so a fault in them gives way to any other defect.
  have stages (next : List UInt8 → Except Defect String)
      (decoded : ∀ bytes, readBytes fragments = .ok bytes → Reports damaged (next bytes)) :=
    (reports_readBytes fragments).bind decoded fun defect other bad late => by
      obtain ⟨fault, _, rfl⟩ := late
      rw [Defect.before_iff]
      rcases bad with ⟨_, rfl⟩ | bad
      · exact .inl Nat.two_pos
      · obtain ⟨index, spot, place⟩ := place_of_fragmentsDefect bad
        rw [place]
        exact .inl Nat.one_lt_two
  rw [decode]
  refine (stages _ fun bytes read => ?_).congr fun defect => ?_
  · rw [← codes_of_readBytes read]
    cases outcome : Utf8.decode (codes fragments) with
    | ok text =>
        refine .sound fun defect bad => ?_
        obtain ⟨fault, impossible, _⟩ := bad
        rw [outcome] at impossible
        cases impossible
    | error fault =>
        refine .first ⟨⟨fault, outcome, rfl⟩, fun other bad => .inl ?_⟩
        obtain ⟨fault', same, rfl⟩ := bad
        rw [outcome] at same
        cases same
        rfl
  · rw [← length_join]
    constructor
    · rintro ((⟨broken, rfl⟩ | bad) | ⟨fault, damaged, rfl⟩)
      · exact .totalLength broken
      · exact .fragment bad
      · exact .notUtf8 damaged
    · rintro (broken | bad | damaged)
      · exact .inl (.inl ⟨broken, rfl⟩)
      · exact .inl (.inr bad)
      · exact .inr ⟨_, damaged, rfl⟩

theorem isByteCode_of_none {fragments : List String} (none : ∀ defect, ¬ HasDefect fragments defect)
    {number index : Nat} {fragment : String} (there : fragments[number]? = some fragment)
    {window : List Char} (inside : (windows fragment.toList)[index]? = some window) :
    IsByteCode window := by
  have sound (defect : Defect)
      (bad : WindowDefect (0 + number) (0 + codeWidth * index) window defect) : False :=
    none defect (.fragment ⟨number, fragment, there, .window ⟨index, window, inside, bad⟩⟩)
  have digits : IsDigits window := Classical.byContradiction fun noDigits =>
    sound _ (.notDigits noDigits)
  refine ⟨digits, Nat.le_of_not_lt fun beyond => ?_⟩
  exact sound _ (.outOfRange digits beyond)

theorem not_fragmentsDefect {fragments : List String} (formatted : IsFormatted fragments)
    (defect : Defect) : ¬ FragmentsDefect 0 fragments defect := by
  rintro ⟨number, fragment, there, bad⟩
  obtain ⟨whole, byteCodes⟩ := formatted fragment (List.mem_of_getElem? there)
  cases bad with
  | length broken => exact broken whole
  | window bad =>
      obtain ⟨index, window, inside, bad⟩ := bad
      obtain ⟨digits, small⟩ := byteCodes window (List.mem_of_getElem? inside)
      cases bad with
      | notDigits noDigits => exact noDigits digits
      | outOfRange _ beyond => exact Nat.not_lt.mpr small beyond

theorem length_join_of_isFormatted {fragments : List String} (formatted : IsFormatted fragments) :
    (String.join fragments).length % codeWidth = 0 := by
  rw [length_join]
  induction fragments with
  | nil => rfl
  | cons fragment rest ih =>
      rw [IsFormatted, List.forall_mem_cons] at formatted
      have later := ih formatted.2
      have first := formatted.1.1
      simp only [totalLength, codeWidth] at later first ⊢
      omega

/-- A payload has no defect if its fragments consist of byte codes and these spell a text. -/
theorem no_defect_iff {fragments : List String} :
    (∀ defect, ¬ HasDefect fragments defect) ↔
      IsFormatted fragments ∧ ∃ text, Utf8.encode text = codes fragments := by
  constructor
  · intro none
    constructor
    · intro fragment member
      obtain ⟨number, there⟩ := List.getElem?_of_mem member
      constructor
      · refine Classical.byContradiction fun broken => ?_
        rw [← String.length_toList] at broken
        exact none _ (.fragment ⟨number, fragment, there, .length broken⟩)
      · intro window inside
        obtain ⟨index, inside⟩ := List.getElem?_of_mem inside
        exact isByteCode_of_none none there inside
    · cases outcome : Utf8.decode (codes fragments) with
      | ok text => exact ⟨text, (Utf8.decode_eq_ok_iff.mp outcome).symm⟩
      | error fault => exact absurd (.notUtf8 outcome) (none _)
  · rintro ⟨formatted, text, spells⟩ defect bad
    cases bad with
    | totalLength broken => exact broken (length_join_of_isFormatted formatted)
    | fragment bad => exact not_fragmentsDefect formatted defect bad
    | notUtf8 damaged =>
        rw [← spells, Utf8.decode_encode] at damaged
        cases damaged

theorem read_eq_ok_iff {fragments : List String} {text : String} :
    read fragments = .ok text ↔ decode fragments = .ok text := by
  rw [read]
  cases decode fragments with
  | error defect =>
      constructor
      · rintro ⟨⟩
      · rintro ⟨⟩
  | ok decoded =>
      constructor
      · rintro ⟨⟩
        rfl
      · rintro ⟨⟩
        rfl

theorem read_eq_error_iff {fragments : List String} {failure : Failure} :
    read fragments = .error failure ↔
      ∃ defect, failure = .payload defect ∧ decode fragments = .error defect := by
  rw [read]
  cases decode fragments with
  | error defect =>
      constructor
      · rintro ⟨⟩
        exact ⟨defect, rfl, rfl⟩
      · rintro ⟨_, rfl, ⟨⟩⟩
        rfl
  | ok decoded =>
      constructor
      · rintro ⟨⟩
      · rintro ⟨_, _, ⟨⟩⟩

/-- Payloads with the same digits, however these are divided, have one script at most. -/
theorem decode_of_join {fragments others : List String} {text other : String}
    (h : decode fragments = .ok text) (h' : decode others = .ok other)
    (same : String.join others = String.join fragments) : other = text := by
  obtain ⟨runs, rfl, flat⟩ := decode_eq_ok_iff.mp h
  obtain ⟨runs', rfl, flat'⟩ := decode_eq_ok_iff.mp h'
  rw [join_map_fragmentOf, join_map_fragmentOf] at same
  have bytes : Utf8.encode other.toList = Utf8.encode text.toList := by
    rw [← flat', ← flat, fragmentOf_injective same]
  have chars : Utf8.decode (Utf8.encode text.toList) = .ok other.toList := by
    rw [← bytes, Utf8.decode_encode]
  rw [Utf8.decode_encode] at chars
  exact String.toList_inj.mp (Except.ok.inj chars).symm

/-- **A payload is read as its format says, and refused for its first defect.**  It is read
exactly if each fragment consists of byte codes and all of them together spell a text; the
script is that text, and depends on nothing but the digits of all fragments in a row.  Any
other payload is refused as a payload and not otherwise, for the first of all its defects:
the length of all fragments together, then from fragment to fragment its length and its
windows, of which each has digits before it has a range, and then the bytes. -/
theorem decode_reports_first_defect (fragments : List String) :
    ((∃ text, read fragments = .ok text) ↔
      IsFormatted fragments ∧ ∃ text, Utf8.encode text = codes fragments) ∧
    (∀ text, read fragments = .ok text → Utf8.encode text.toList = codes fragments ∧
      ∀ others other, read others = .ok other →
        String.join others = String.join fragments → other = text) ∧
    (∀ failure, read fragments = .error failure ↔
      ∃ defect, failure = .payload defect ∧ IsFirst (HasDefect fragments) defect) ∧
    ∀ failure, read fragments = .error failure → failure.kind = "PayloadDecodeError" := by
  have reported := reports_decode fragments
  refine ⟨?_, ?_, ?_, ?_⟩
  · simp only [read_eq_ok_iff, reported.eq_ok_iff, no_defect_iff]
  · intro text h
    rw [read_eq_ok_iff] at h
    constructor
    · obtain ⟨runs, rfl, flat⟩ := decode_eq_ok_iff.mp h
      rw [codes_map_fragmentOf, flat]
    · intro others other h' same
      exact decode_of_join h (read_eq_ok_iff.mp h') same
  · intro failure
    simp only [read_eq_error_iff, reported.eq_error_iff]
  · intro failure h
    obtain ⟨defect, rfl, _⟩ := read_eq_error_iff.mp h
    rfl

/-- A character whose bytes stand in two fragments is read, and of several defects the one in
the window furthest to the left is reported. -/
theorem decode_reports_first_defect_split :
    read ["195", "169"] = .ok "é" ∧ Utf8.encode "é".toList = codes ["195", "169"] ∧
      read ["195169"] = .ok "é" ∧ String.join ["195169"] = String.join ["195", "169"] ∧
      read ["112", "1a2999", "11", "7"] = .error (.payload (.notDigits 1 0 "1a2")) ∧
      IsFirst (HasDefect ["112", "1a2999", "11", "7"]) (.notDigits 1 0 "1a2") := by
  have decoded : read ["195", "169"] = .ok "é" := rfl
  have together : read ["195169"] = .ok "é" := rfl
  have refused : read ["112", "1a2999", "11", "7"] = .error (.payload (.notDigits 1 0 "1a2")) := rfl
  have law := decode_reports_first_defect ["195", "169"]
  obtain ⟨defect, same, isFirst⟩ :=
    ((decode_reports_first_defect ["112", "1a2999", "11", "7"]).2.2.1 _).mp refused
  cases same
  exact ⟨decoded, (law.2.1 "é" decoded).1, together, rfl, refused, isFirst⟩

end CommandShell.Payload
