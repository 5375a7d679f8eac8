/-
# Byte codes

What a payload can be read as.  A window is read as a byte exactly if it is the
code of that byte, and so it goes on upwards: a fragment holds the codes of a run
of bytes, a payload the codes of a list of runs, and its script is the text whose
bytes these runs make up.  Each level is an equivalence, so reading neither
invents a byte nor accepts a second spelling of one.
-/

import CommandShell.Payload
import CommandShell.Proofs.Decimal
import CommandShell.Proofs.Text.Utf8

namespace CommandShell

namespace Decimal

theorem value_three (a b c : Char) :
    value [a, b, c] = digitValue a * 100 + digitValue b * 10 + digitValue c := by
  have positions : ∀ x y z : Nat, ((0 * 10 + x) * 10 + y) * 10 + z = x * 100 + y * 10 + z := by
    omega
  exact positions _ _ _

end Decimal

namespace Payload

open CommandShell.Text

theorem toNat_toUInt8_value {code : Nat} (h : ¬ code > 255) : code.toUInt8.toNat = code :=
  Utf8.toNat_toUInt8 (by omega)

theorem value_writeByte (b : UInt8) : Decimal.value (writeByte b) = b.toNat := by
  have small := b.toNat_lt
  have hundreds : b.toNat / 100 < 10 := by omega
  have tens : b.toNat / 10 % 10 < 10 := by omega
  have units : b.toNat % 10 < 10 := by omega
  rw [writeByte, Decimal.value_three, Decimal.digitValue_digit hundreds,
    Decimal.digitValue_digit tens, Decimal.digitValue_digit units]
  omega

theorem isDigit_of_mem_writeByte {b : UInt8} {c : Char} (h : c ∈ writeByte b) :
    Decimal.isDigit c = true := by
  have small := b.toNat_lt
  simp only [writeByte, List.mem_cons, List.not_mem_nil, or_false] at h
  rcases h with rfl | rfl | rfl <;> exact Decimal.isDigit_digit (by omega)

theorem readWindow_writeByte (fragment offset : Nat) (b : UInt8) :
    readWindow fragment offset (writeByte b) = .ok b := by
  have small := b.toNat_lt
  have numeral : Decimal.isNumeral (writeByte b) = true := by
    rw [Decimal.isNumeral, Bool.and_eq_true, List.all_eq_true]
    exact ⟨rfl, fun _ => isDigit_of_mem_writeByte⟩
  simp only [readWindow, numeral, value_writeByte, Bool.not_true, Bool.false_eq_true, if_false]
  rw [if_neg (by omega), Utf8.toUInt8_toNat]

theorem eq_writeByte_of_readWindow {fragment offset : Nat} {x y z : Char} {b : UInt8}
    (h : readWindow fragment offset [x, y, z] = .ok b) : [x, y, z] = writeByte b := by
  unfold readWindow at h
  split at h
  · cases h
  next numeral =>
    simp only at h
    split at h
    · cases h
    next inRange =>
      cases h
      have digits : Decimal.isDigit x = true ∧ Decimal.isDigit y = true ∧
          Decimal.isDigit z = true := by
        simpa [Decimal.isNumeral] using numeral
      obtain ⟨hx, hy, hz⟩ := digits
      have vx := Decimal.digitValue_lt hx
      have vy := Decimal.digitValue_lt hy
      have vz := Decimal.digitValue_lt hz
      rw [writeByte, toNat_toUInt8_value inRange, Decimal.value_three]
      have hundreds : (Decimal.digitValue x * 100 + Decimal.digitValue y * 10 +
          Decimal.digitValue z) / 100 = Decimal.digitValue x := by omega
      have tens : (Decimal.digitValue x * 100 + Decimal.digitValue y * 10 +
          Decimal.digitValue z) / 10 % 10 = Decimal.digitValue y := by omega
      have units : (Decimal.digitValue x * 100 + Decimal.digitValue y * 10 +
          Decimal.digitValue z) % 10 = Decimal.digitValue z := by omega
      rw [hundreds, tens, units, Decimal.digit_digitValue hx, Decimal.digit_digitValue hy,
        Decimal.digit_digitValue hz]

theorem readWindows_flatMap_writeByte (fragment offset : Nat) (run : List UInt8) :
    readWindows fragment offset (run.flatMap writeByte) = .ok run := by
  induction run generalizing offset with
  | nil => rfl
  | cons b run ih =>
      have first := readWindow_writeByte fragment offset b
      rw [List.flatMap_cons]
      simp only [writeByte] at first ⊢
      simp only [List.cons_append, List.nil_append, readWindows, first, ih]
      rfl

theorem eq_flatMap_of_readWindows {fragment offset : Nat} {text : List Char} {run : List UInt8}
    (h : readWindows fragment offset text = .ok run) : text = run.flatMap writeByte := by
  fun_induction readWindows fragment offset text generalizing run with
  | case1 =>
      cases h
      rfl
  | case2 offset x y z rest ih =>
      cases hfirst : readWindow fragment offset [x, y, z] with
      | error defect =>
          rw [hfirst] at h
          cases h
      | ok b =>
          cases hrest : readWindows fragment (offset + codeWidth) rest with
          | error defect =>
              rw [hfirst, hrest] at h
              cases h
          | ok bytes =>
              rw [hfirst, hrest] at h
              cases h
              rw [List.flatMap_cons, ← eq_writeByte_of_readWindow hfirst, ← ih hrest]
              rfl
  | case3 => cases h

/-- The fragment of a run of bytes. -/
def fragmentOf (run : List UInt8) : String :=
  String.ofList (run.flatMap writeByte)

@[simp] theorem toList_fragmentOf (run : List UInt8) :
    (fragmentOf run).toList = run.flatMap writeByte :=
  String.toList_ofList

theorem length_flatMap_writeByte (run : List UInt8) :
    (run.flatMap writeByte).length = codeWidth * run.length := by
  induction run with
  | nil => rfl
  | cons b run ih =>
      rw [List.flatMap_cons, List.length_append, length_writeByte, ih, List.length_cons,
        Nat.mul_succ, Nat.add_comm]

theorem length_fragmentOf (run : List UInt8) :
    (fragmentOf run).length = codeWidth * run.length := by
  rw [← String.length_toList, toList_fragmentOf, length_flatMap_writeByte]

theorem readFragment_eq_ok_iff {number : Nat} {fragment : String} {run : List UInt8} :
    readFragment number fragment.toList = .ok run ↔ fragment = fragmentOf run := by
  constructor
  · intro h
    unfold readFragment at h
    split at h
    · cases h
    · rw [fragmentOf, ← eq_flatMap_of_readWindows h, String.ofList_toList]
  · rintro rfl
    have whole : (run.flatMap writeByte).length % codeWidth = 0 := by
      rw [length_flatMap_writeByte]
      exact Nat.mul_mod_right _ _
    rw [toList_fragmentOf, readFragment, if_neg (not_not_intro whole),
      readWindows_flatMap_writeByte]

theorem fragmentOf_injective {run other : List UInt8} (h : fragmentOf run = fragmentOf other) :
    run = other := by
  have own : readFragment 0 (fragmentOf run).toList = .ok run := readFragment_eq_ok_iff.mpr rfl
  have others : readFragment 0 (fragmentOf run).toList = .ok other := readFragment_eq_ok_iff.mpr h
  rw [own] at others
  exact Except.ok.inj others

/-- Fragments are read as bytes exactly if they are the fragments of runs that
make up these bytes. -/
theorem readFragments_eq_ok_iff {number : Nat} {fragments : List String} {bytes : List UInt8} :
    readFragments number fragments = .ok bytes ↔
      ∃ runs : List (List UInt8), fragments = runs.map fragmentOf ∧ runs.flatten = bytes := by
  constructor
  · intro h
    induction fragments generalizing number bytes with
    | nil =>
        cases h
        exact ⟨[], rfl, rfl⟩
    | cons fragment rest ih =>
        rw [readFragments] at h
        cases hfront : readFragment number fragment.toList with
        | error defect =>
            rw [hfront] at h
            cases h
        | ok front =>
            cases hback : readFragments (number + 1) rest with
            | error defect =>
                rw [hfront, hback] at h
                cases h
            | ok back =>
                rw [hfront, hback] at h
                cases h
                obtain ⟨runs, rfl, rfl⟩ := ih hback
                rw [readFragment_eq_ok_iff] at hfront
                exact ⟨front :: runs, by rw [hfront, List.map_cons], rfl⟩
  · rintro ⟨runs, rfl, rfl⟩
    induction runs generalizing number with
    | nil => rfl
    | cons run runs ih =>
        rw [List.map_cons, readFragments, readFragment_eq_ok_iff.mpr rfl, ih]
        rfl

theorem totalLength_map_fragmentOf (runs : List (List UInt8)) :
    totalLength (runs.map fragmentOf) = codeWidth * runs.flatten.length := by
  induction runs with
  | nil => rfl
  | cons run runs ih =>
      rw [List.map_cons, totalLength, ih, length_fragmentOf, List.flatten_cons, List.length_append,
        Nat.mul_add]

/-- A payload is a script exactly if it is made of fragments of runs that make up
the bytes of the script. -/
theorem decode_eq_ok_iff {fragments : List String} {text : String} :
    decode fragments = .ok text ↔
      ∃ runs : List (List UInt8),
        fragments = runs.map fragmentOf ∧ runs.flatten = Utf8.encode text.toList := by
  constructor
  · intro h
    rw [decode] at h
    cases hbytes : readBytes fragments with
    | error defect =>
        rw [hbytes] at h
        cases h
    | ok bytes =>
        rw [hbytes] at h
        cases htext : Utf8.decode bytes with
        | error fault =>
            simp only [htext, bind, Except.bind] at h
            cases h
        | ok chars =>
            simp only [htext, bind, Except.bind, pure, Except.pure, Except.ok.injEq] at h
            subst h
            unfold readBytes at hbytes
            split at hbytes
            · cases hbytes
            · obtain ⟨runs, hruns, flat⟩ := readFragments_eq_ok_iff.mp hbytes
              refine ⟨runs, hruns, ?_⟩
              rw [flat, String.toList_ofList]
              exact Utf8.decode_eq_ok_iff.mp htext
  · rintro ⟨runs, rfl, flat⟩
    have whole : totalLength (runs.map fragmentOf) % codeWidth = 0 := by
      rw [totalLength_map_fragmentOf]
      exact Nat.mul_mod_right _ _
    rw [decode, readBytes, if_neg (not_not_intro whole),
      readFragments_eq_ok_iff.mpr ⟨runs, rfl, flat⟩]
    simp only [bind, Except.bind, pure, Except.pure, Utf8.decode_encode, String.ofList_toList]

end Payload

end CommandShell
