/-
# Payload round trips

Encoding cuts the bytes of a script into runs of one width, and that cut is the
only one: a list of runs in which all but the last are full is the cut of the
bytes it makes up.  Hence a script can be told from its payload, a payload from
its script up to where the fragments are divided, and a payload that is divided
the canonical way is exactly the one that encoding gives.
-/

import CommandShell.Proofs.Payload.Codes

namespace CommandShell.Payload

open CommandShell.Text

/-- Runs of one width, of which only the last may be shorter and none is empty. -/
def IsCut (width : Nat) : List (List UInt8) → Prop
  | [] => True
  | [last] => 0 < last.length ∧ last.length ≤ width
  | full :: next :: rest => full.length = width ∧ IsCut width (next :: rest)

theorem IsCut.cons {width : Nat} (positive : 0 < width) {full : List UInt8}
    {rest : List (List UInt8)} (length_eq : full.length = width) (h : IsCut width rest) :
    IsCut width (full :: rest) := by
  cases rest with
  | nil => exact ⟨length_eq ▸ positive, Nat.le_of_eq length_eq⟩
  | cons next rest => exact ⟨length_eq, h⟩

theorem isCut_runsFrom {width : Nat} (positive : 0 < width) {opened : List UInt8}
    (short : opened.length < width) (bytes : List UInt8) :
    IsCut width (runsFrom width opened bytes) := by
  induction bytes generalizing opened with
  | nil =>
      cases opened with
      | nil => trivial
      | cons b opened => exact ⟨Nat.succ_pos _, Nat.le_of_lt short⟩
  | cons b rest ih =>
      rw [runsFrom]
      by_cases full : opened.length + 1 = width
      · rw [if_pos full]
        exact IsCut.cons positive (by simpa using full) (ih (by simpa using positive))
      · rw [if_neg full]
        exact ih (by simp; omega)

theorem isCut_runs {width : Nat} (positive : 0 < width) (bytes : List UInt8) :
    IsCut width (runs width bytes) :=
  isCut_runsFrom positive (by simpa using positive) bytes

theorem runsFrom_append_of_full {width : Nat} {opened filler : List UInt8} (rest : List UInt8)
    (some_left : opened.length < width) (full : opened.length + filler.length = width) :
    runsFrom width opened (filler ++ rest) = (opened ++ filler) :: runsFrom width [] rest := by
  induction filler generalizing opened with
  | nil => simp at full; omega
  | cons b filler ih =>
      rw [List.length_cons] at full
      rw [List.cons_append, runsFrom]
      by_cases done : opened.length + 1 = width
      · have none_left : filler = [] := List.eq_nil_of_length_eq_zero (by omega)
        rw [if_pos done, none_left, List.nil_append]
      · rw [if_neg done, ih (by simp; omega) (by simp; omega), List.append_assoc,
          List.singleton_append]

theorem runsFrom_of_short {width : Nat} {opened bytes : List UInt8}
    (short : opened.length + bytes.length < width) (some_byte : 0 < opened.length + bytes.length) :
    runsFrom width opened bytes = [opened ++ bytes] := by
  induction bytes generalizing opened with
  | nil =>
      cases opened with
      | nil => simp at some_byte
      | cons b opened => simp [runsFrom]
  | cons b bytes ih =>
      rw [List.length_cons] at short
      have longer : (opened ++ [b]).length = opened.length + 1 := List.length_append
      rw [runsFrom, if_neg (by omega), ih (by omega) (by omega), List.append_assoc,
        List.singleton_append]

/-- A cut is the cut of the bytes it makes up. -/
theorem runs_flatten_of_isCut {width : Nat} (positive : 0 < width) {cut : List (List UInt8)}
    (h : IsCut width cut) : runs width cut.flatten = cut := by
  induction cut with
  | nil => rfl
  | cons first rest ih =>
      cases rest with
      | nil =>
          obtain ⟨some_byte, bounded⟩ := h
          rw [List.flatten_cons, List.flatten_nil, List.append_nil, runs]
          by_cases full : first.length = width
          · have closed : runsFrom width [] (first ++ []) = ([] ++ first) :: runsFrom width [] [] :=
              runsFrom_append_of_full [] (by simpa using positive) (by simpa using full)
            simpa [runsFrom] using closed
          · exact runsFrom_of_short (by simp; omega) (by simpa using some_byte)
      | cons next rest =>
          obtain ⟨full, tail⟩ := h
          rw [List.flatten_cons, runs,
            runsFrom_append_of_full _ (by simpa using positive) (by simpa using full)]
          exact congrArg (first :: ·) (ih tail)

/-- The payload format with fragments of a given width: digits only, every
fragment but the last full, and the last one neither empty nor longer. -/
def IsCanonical (width : Nat) : List String → Prop
  | [] => True
  | [last] =>
      Decimal.isNumeral last.toList = true ∧ codeWidth ≤ last.length ∧
        last.length ≤ codeWidth * width
  | full :: next :: rest =>
      Decimal.isNumeral full.toList = true ∧ full.length = codeWidth * width ∧
        IsCanonical width (next :: rest)

theorem isNumeral_fragmentOf {run : List UInt8} (some_byte : 0 < run.length) :
    Decimal.isNumeral (fragmentOf run).toList = true := by
  have digits : ∀ c ∈ run.flatMap writeByte, Decimal.isDigit c = true := by
    intro c hc
    obtain ⟨b, _, hb⟩ := List.mem_flatMap.mp hc
    exact isDigit_of_mem_writeByte hb
  have not_empty : run.flatMap writeByte ≠ [] := by
    intro empty
    have lengths := length_flatMap_writeByte run
    rw [empty, List.length_nil, codeWidth] at lengths
    omega
  rw [toList_fragmentOf, Decimal.isNumeral, Bool.and_eq_true, List.all_eq_true]
  exact ⟨by simpa using not_empty, digits⟩

theorem isCanonical_map_fragmentOf {width : Nat} (positive : 0 < width)
    (cut : List (List UInt8)) : IsCanonical width (cut.map fragmentOf) ↔ IsCut width cut := by
  induction cut with
  | nil => exact Iff.rfl
  | cons first rest ih =>
      have length_eq := length_fragmentOf first
      simp only [codeWidth] at length_eq
      cases rest with
      | nil =>
          simp only [List.map_cons, List.map_nil, IsCanonical, IsCut, length_eq, codeWidth]
          constructor
          · rintro ⟨_, low, high⟩
            exact ⟨by omega, by omega⟩
          · rintro ⟨low, high⟩
            exact ⟨isNumeral_fragmentOf low, by omega, by omega⟩
      | cons next rest =>
          simp only [List.map_cons] at ih
          simp only [List.map_cons, IsCanonical, IsCut, length_eq, codeWidth, ih]
          constructor
          · rintro ⟨_, full, tail⟩
            exact ⟨by omega, tail⟩
          · rintro ⟨full, tail⟩
            exact ⟨isNumeral_fragmentOf (full ▸ positive), by omega, tail⟩

theorem encode_eq_map_fragmentOf (width : Nat) (text : String) :
    encode width text = (runs width (Utf8.encode text.toList)).map fragmentOf := rfl

theorem join_map_fragmentOf (cut : List (List UInt8)) :
    String.join (cut.map fragmentOf) = fragmentOf cut.flatten := by
  apply String.toList_inj.mp
  rw [String.toList_join, toList_fragmentOf]
  simp only [List.flatMap_map, toList_fragmentOf, List.flatten_eq_flatMap, List.flatMap_assoc, id]

theorem join_encode_of_decode {fragments : List String} {text : String} (width : Nat)
    (h : decode fragments = .ok text) :
    String.join (encode width text) = String.join fragments := by
  obtain ⟨cut, rfl, flat⟩ := decode_eq_ok_iff.mp h
  rw [encode_eq_map_fragmentOf, join_map_fragmentOf, join_map_fragmentOf, flatten_runs, flat]

/-- Encoding gives a payload back exactly if it is canonical. -/
theorem encode_eq_iff_isCanonical {width : Nat} (positive : 0 < width) {fragments : List String}
    {text : String} (h : decode fragments = .ok text) :
    encode width text = fragments ↔ IsCanonical width fragments := by
  obtain ⟨cut, rfl, flat⟩ := decode_eq_ok_iff.mp h
  rw [isCanonical_map_fragmentOf positive, encode_eq_map_fragmentOf, ← flat]
  constructor
  · intro same
    have runs_eq : runs width cut.flatten = cut :=
      (List.map_inj_right fun _ _ => fragmentOf_injective).mp same
    rw [← runs_eq]
    exact isCut_runs positive cut.flatten
  · intro isCut
    rw [runs_flatten_of_isCut positive isCut]

/-- Every script is decoded from what it is encoded as. -/
@[simp] theorem decode_encode (width : Nat) (text : String) :
    decode (encode width text) = .ok text :=
  decode_eq_ok_iff.mpr ⟨_, rfl, flatten_runs width _⟩

/-- **Payloads and scripts determine each other up to the division into
fragments.**  Every script is decoded from what it is encoded as, which is
canonical and empty for the empty script.  Conversely, what a payload is decoded
to has the same digits when encoded again, in the same fragments exactly if the
payload was canonical; so two payloads of one script have the same digits. -/
theorem encode_decode_bijective {width : Nat} (positive : 0 < width) :
    (∀ text, decode (encode width text) = .ok text ∧ IsCanonical width (encode width text)) ∧
      encode width "" = [] ∧
      (∀ fragments text, decode fragments = .ok text →
        String.join (encode width text) = String.join fragments ∧
          (encode width text = fragments ↔ IsCanonical width fragments)) ∧
      ∀ fragments others text, decode fragments = .ok text → decode others = .ok text →
        String.join fragments = String.join others := by
  have decoded : ∀ text, decode (encode width text) = .ok text := decode_encode width
  refine ⟨fun text => ⟨decoded text, ?_⟩, rfl, fun fragments text h => ?_, ?_⟩
  · exact (encode_eq_iff_isCanonical positive (decoded text)).mp rfl
  · exact ⟨join_encode_of_decode width h, encode_eq_iff_isCanonical positive h⟩
  · intro fragments others text h hothers
    rw [← join_encode_of_decode width h, join_encode_of_decode width hothers]

/-- A character whose two bytes stand in two fragments. -/
theorem encode_decode_bijective_one :
    0 < 1 ∧ decode (encode 1 "é") = .ok "é" ∧ IsCanonical 1 (encode 1 "é") ∧
      encode 1 "é" = ["195", "169"] ∧ decode ["195169"] = .ok "é" ∧
      String.join (encode 1 "é") = String.join ["195169"] ∧
      (encode 1 "é" = ["195169"] ↔ IsCanonical 1 ["195169"]) := by
  have decoded : decode ["195169"] = .ok "é" := rfl
  have law := encode_decode_bijective Nat.one_pos
  have again := law.2.2.1 ["195169"] "é" decoded
  exact ⟨by decide, (law.1 "é").1, (law.1 "é").2, by decide, decoded, again.1, again.2⟩

end CommandShell.Payload
