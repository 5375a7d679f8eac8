/-
# Writing and reading UTF-8

Reading undoes writing, and what can be read strictly was written that way.  Both
directions rest on what an open sequence stands for: the characters whose bytes
begin with the bytes read so far.  A lead byte opens a sound sequence, a
continuation byte keeps it sound, and the last one completes exactly the
character it belongs to.  Overlong forms and surrogates never need a check of
their own, since no sound sequence leads to them.
-/

import Mathlib.Algebra.Group.Nat.Defs
import CommandShell.Text.Utf8

namespace CommandShell.Text.Utf8

/-- The last bytes of a character, as many as asked for, with six bits each. -/
def continuation : (count : Nat) → Nat → List UInt8
  | 0, _ => []
  | count + 1, n => (0x80 + n / 0x40 ^ count % 0x40).toUInt8 :: continuation count n

theorem toNat_toUInt8 {n : Nat} (h : n < 256) : n.toUInt8.toNat = n := by
  rw [Nat.toUInt8_eq, UInt8.toNat_ofNat']
  exact Nat.mod_eq_of_lt h

theorem toUInt8_toNat (b : UInt8) : b.toNat.toUInt8 = b := by
  rw [Nat.toUInt8_eq, UInt8.ofNat_toNat]

theorem toNat_ofNat_of_valid {n : Nat} (h : n.isValidChar) : (Char.ofNat n).toNat = n := by
  rw [Char.ofNat, dif_pos h]
  rfl

theorem encodeChar_ofNat {n : Nat} (h : n.isValidChar) :
    encodeChar (Char.ofNat n) =
      if n < 0x80 then [n.toUInt8]
      else if n < 0x800 then (0xc0 + n / 0x40).toUInt8 :: continuation 1 n
      else if n < 0x10000 then (0xe0 + n / 0x1000).toUInt8 :: continuation 2 n
      else (0xf0 + n / 0x40000).toUInt8 :: continuation 3 n := by
  simp only [encodeChar, toNat_ofNat_of_valid h, continuation, Nat.reducePow, Nat.div_one]

section Lead

variable {b : UInt8}

theorem lead_of_ascii (h : b.toNat < 0x80) : lead b = ([.char (Char.ofNat b.toNat)], none) := by
  simp [lead, h]

theorem lead_of_two (low : 0xc2 ≤ b.toNat) (high : b.toNat < 0xe0) :
    lead b = ([], some ⟨[b], b.toNat - 0xc0, 1, 0x80, 0xbf⟩) := by
  simp only [lead, if_neg (show ¬ b.toNat < 0x80 by omega), if_neg (show ¬ b.toNat < 0xc2 by omega),
    if_pos high]

theorem lead_of_three (low : 0xe0 ≤ b.toNat) (high : b.toNat < 0xf0) :
    lead b = ([], some ⟨[b], b.toNat - 0xe0, 2, if b.toNat = 0xe0 then 0xa0 else 0x80,
      if b.toNat = 0xed then 0x9f else 0xbf⟩) := by
  simp only [lead, if_neg (show ¬ b.toNat < 0x80 by omega), if_neg (show ¬ b.toNat < 0xc2 by omega),
    if_neg (show ¬ b.toNat < 0xe0 by omega), if_pos high]

theorem lead_of_four (low : 0xf0 ≤ b.toNat) (high : b.toNat < 0xf5) :
    lead b = ([], some ⟨[b], b.toNat - 0xf0, 3, if b.toNat = 0xf0 then 0x90 else 0x80,
      if b.toNat = 0xf4 then 0x8f else 0xbf⟩) := by
  simp only [lead, if_neg (show ¬ b.toNat < 0x80 by omega), if_neg (show ¬ b.toNat < 0xc2 by omega),
    if_neg (show ¬ b.toNat < 0xe0 by omega), if_neg (show ¬ b.toNat < 0xf0 by omega), if_pos high]

end Lead

/-- What an open sequence stands for: the code points that begin with its value
and go on with a byte in its range are the characters whose bytes begin with the
bytes read. -/
structure Open.Sound (o : Open) : Prop where
  missing_pos : 0 < o.missing
  low_ge : 0x80 ≤ o.low
  high_le : o.high ≤ 0xbf
  completes : ∀ n, n / 0x40 ^ o.missing = o.value →
    o.low ≤ 0x80 + n / 0x40 ^ (o.missing - 1) % 0x40 →
    0x80 + n / 0x40 ^ (o.missing - 1) % 0x40 ≤ o.high →
    n.isValidChar ∧ encodeChar (Char.ofNat n) = o.bytes ++ continuation o.missing n

theorem sound_two {b : UInt8} (low : 0xc2 ≤ b.toNat) (high : b.toNat < 0xe0) :
    Open.Sound ⟨[b], b.toNat - 0xc0, 1, 0x80, 0xbf⟩ := by
  refine ⟨Nat.one_pos, Nat.le_refl _, Nat.le_refl _, ?_⟩
  intro n value _ _
  simp only [Nat.reducePow] at value
  have valid : n.isValidChar := by unfold Nat.isValidChar; omega
  refine ⟨valid, ?_⟩
  have own : 0xc0 + n / 0x40 = b.toNat := by omega
  rw [encodeChar_ofNat valid, if_neg (by omega), if_pos (by omega), own, toUInt8_toNat]
  rfl

/-- The ranges after `e0` and `ed` are what keeps overlong forms and surrogates
out. -/
theorem sound_three {b : UInt8} (low : 0xe0 ≤ b.toNat) (high : b.toNat < 0xf0) :
    Open.Sound ⟨[b], b.toNat - 0xe0, 2, if b.toNat = 0xe0 then 0xa0 else 0x80,
      if b.toNat = 0xed then 0x9f else 0xbf⟩ := by
  refine ⟨Nat.two_pos, by dsimp only; split <;> decide,
    by dsimp only; split <;> decide, ?_⟩
  intro n value first last
  simp only [Nat.reducePow, Nat.reduceSub, Nat.pow_one] at value first last
  have notShort : 0x800 ≤ n := by split at first <;> omega
  have notSurrogate : n < 0xd800 ∨ 0xdfff < n := by split at last <;> omega
  have valid : n.isValidChar := by unfold Nat.isValidChar; omega
  refine ⟨valid, ?_⟩
  have own : 0xe0 + n / 0x1000 = b.toNat := by omega
  rw [encodeChar_ofNat valid, if_neg (by omega), if_neg (by omega), if_pos (by omega), own,
    toUInt8_toNat]
  rfl

/-- The ranges after `f0` and `f4` keep out overlong forms and what lies beyond
the last code point. -/
theorem sound_four {b : UInt8} (low : 0xf0 ≤ b.toNat) (high : b.toNat < 0xf5) :
    Open.Sound ⟨[b], b.toNat - 0xf0, 3, if b.toNat = 0xf0 then 0x90 else 0x80,
      if b.toNat = 0xf4 then 0x8f else 0xbf⟩ := by
  refine ⟨Nat.succ_pos 2, by dsimp only; split <;> decide,
    by dsimp only; split <;> decide, ?_⟩
  intro n value first last
  simp only [Nat.reducePow, Nat.reduceSub] at value first last
  have notShort : 0x10000 ≤ n := by split at first <;> omega
  have notBeyond : n < 0x110000 := by split at last <;> omega
  have valid : n.isValidChar := by unfold Nat.isValidChar; omega
  refine ⟨valid, ?_⟩
  have own : 0xf0 + n / 0x40000 = b.toNat := by omega
  rw [encodeChar_ofNat valid, if_neg (by omega), if_neg (by omega), if_neg (by omega), own,
    toUInt8_toNat]
  rfl

/-- A byte that opens a sequence opens a sound one and completes nothing; any
other byte is one piece. -/
theorem lead_cases (b : UInt8) :
    (∃ o, lead b = ([], some o) ∧ o.Sound ∧ o.bytes = [b]) ∨
      ∃ piece, lead b = ([piece], none) ∧ piece.bytes = [b] := by
  have small := b.toNat_lt
  by_cases ascii : b.toNat < 0x80
  · have valid : b.toNat.isValidChar := by unfold Nat.isValidChar; omega
    refine .inr ⟨_, lead_of_ascii ascii, ?_⟩
    rw [Piece.bytes, encodeChar_ofNat valid, if_pos ascii, toUInt8_toNat]
  by_cases stray : b.toNat < 0xc2
  · refine .inr ⟨.illFormed [b] .invalidStart, ?_, rfl⟩
    simp only [lead, if_neg ascii, if_pos stray]
  by_cases two : b.toNat < 0xe0
  · exact .inl ⟨_, lead_of_two (by omega) two, sound_two (by omega) two, rfl⟩
  by_cases three : b.toNat < 0xf0
  · exact .inl ⟨_, lead_of_three (by omega) three, sound_three (by omega) three, rfl⟩
  by_cases four : b.toNat < 0xf5
  · exact .inl ⟨_, lead_of_four (by omega) four, sound_four (by omega) four, rfl⟩
  · refine .inr ⟨.illFormed [b] .invalidStart, ?_, rfl⟩
    simp only [lead, if_neg ascii, if_neg stray, if_neg two, if_neg three, if_neg four]

theorem Open.Sound.next {o : Open} (sound : o.Sound) {b : UInt8} (low : o.low ≤ b.toNat)
    (high : b.toNat ≤ o.high) (more : 1 < o.missing) :
    Open.Sound ⟨o.bytes ++ [b], o.value * 0x40 + (b.toNat - 0x80), o.missing - 1, 0x80, 0xbf⟩ := by
  obtain ⟨bytes, value, missing, first, last⟩ := o
  obtain ⟨count, rfl⟩ : ∃ count, missing = count + 2 := ⟨missing - 2, by grind⟩
  refine ⟨by simp, Nat.le_refl _, Nat.le_refl _, ?_⟩
  intro n begins _ _
  change n / 0x40 ^ (count + 1) = value * 0x40 + (b.toNat - 0x80) at begins
  have low_ge : 0x80 ≤ first := sound.low_ge
  have high_le : last ≤ 0xbf := sound.high_le
  dsimp only at low high
  have own : 0x80 + n / 0x40 ^ (count + 1) % 0x40 = b.toNat := by
    rw [begins]
    omega
  have value_eq : n / 0x40 ^ (count + 2) = value := by
    rw [Nat.pow_succ, ← Nat.div_div_eq_div_mul, begins]
    omega
  obtain ⟨valid, bytes_eq⟩ := sound.completes n value_eq (own ▸ low) (own ▸ high)
  refine ⟨valid, ?_⟩
  rw [bytes_eq, continuation, own, toUInt8_toNat, List.append_assoc]
  rfl

theorem Open.Sound.last {o : Open} (sound : o.Sound) {b : UInt8} (low : o.low ≤ b.toNat)
    (high : b.toNat ≤ o.high) (one : o.missing ≤ 1) :
    encodeChar (Char.ofNat (o.value * 0x40 + (b.toNat - 0x80))) = o.bytes ++ [b] := by
  have missing : o.missing = 1 := Nat.le_antisymm one sound.missing_pos
  have low_ge := sound.low_ge
  have high_le := sound.high_le
  have own : 0x80 + (o.value * 0x40 + (b.toNat - 0x80)) % 0x40 = b.toNat := by omega
  obtain ⟨_, bytes_eq⟩ := sound.completes (o.value * 0x40 + (b.toNat - 0x80))
    (by rw [missing]; omega) (by rw [missing]; simp; omega) (by rw [missing]; simp; omega)
  rw [bytes_eq, missing]
  simp only [continuation, Nat.pow_zero, Nat.div_one, own, toUInt8_toNat]

def openedBytes : Option Open → List UInt8
  | none => []
  | some o => o.bytes

/-- Reading a byte loses no byte: those read before and the new one are in the
pieces completed or in the sequence left open, which is sound again. -/
theorem advance_keeps (opened : Option Open) (sound : ∀ o ∈ opened, o.Sound) (b : UInt8) :
    (advance opened b).1.flatMap Piece.bytes ++ openedBytes (advance opened b).2 =
        openedBytes opened ++ [b] ∧
      ∀ o ∈ (advance opened b).2, o.Sound := by
  have atLead : (lead b).1.flatMap Piece.bytes ++ openedBytes (lead b).2 = [b] ∧
      ∀ o ∈ (lead b).2, o.Sound := by
    rcases lead_cases b with ⟨o, eq, osound, obytes⟩ | ⟨piece, eq, bytes⟩
    · simpa [eq, openedBytes, obytes] using osound
    · simp [eq, openedBytes, bytes]
  cases opened with
  | none => simpa [advance, openedBytes] using atLead
  | some o =>
      have osound : o.Sound := sound o rfl
      simp only [advance, Open.extend]
      by_cases inRange : o.low ≤ b.toNat ∧ b.toNat ≤ o.high
      · rw [if_pos inRange]
        by_cases one : o.missing ≤ 1
        · simp [one, openedBytes, Piece.bytes, osound.last inRange.1 inRange.2 one]
        · simpa [one, openedBytes] using osound.next inRange.1 inRange.2 (by omega)
      · rw [if_neg inRange]
        simpa [openedBytes, Piece.bytes] using atLead

theorem flatMap_bytes_piecesFrom (opened : Option Open) (sound : ∀ o ∈ opened, o.Sound)
    (bytes : List UInt8) :
    (piecesFrom opened bytes).flatMap Piece.bytes = openedBytes opened ++ bytes := by
  induction bytes generalizing opened with
  | nil => cases opened <;> simp [piecesFrom, openedBytes, Piece.bytes]
  | cons b rest ih =>
      obtain ⟨kept, next⟩ := advance_keeps opened sound b
      rw [piecesFrom, List.flatMap_append, ih _ next, ← List.append_assoc, kept]
      simp

/-- Reading into pieces loses no byte. -/
theorem flatMap_bytes_pieces (bytes : List UInt8) : (pieces bytes).flatMap Piece.bytes = bytes :=
  flatMap_bytes_piecesFrom none (by simp) bytes

/-- The continuation of a code point, read where its own first bytes are open,
completes its character. -/
theorem piecesFrom_continuation {o : Open} (n : Nat) (rest : List UInt8) (more : 0 < o.missing)
    (value : o.value = n / 0x40 ^ o.missing)
    (low : o.low ≤ 0x80 + n / 0x40 ^ (o.missing - 1) % 0x40)
    (high : 0x80 + n / 0x40 ^ (o.missing - 1) % 0x40 ≤ o.high) :
    piecesFrom (some o) (continuation o.missing n ++ rest) =
      .char (Char.ofNat n) :: piecesFrom none rest := by
  obtain ⟨bytes, before, missing, first, last⟩ := o
  dsimp only at more value low high ⊢
  induction missing generalizing bytes before first last with
  | zero => cases more
  | succ count ih =>
      have toNat := toNat_toUInt8 (show 0x80 + n / 0x40 ^ count % 0x40 < 256 by omega)
      rw [Nat.add_sub_cancel] at low high
      rw [Nat.pow_succ, ← Nat.div_div_eq_div_mul] at value
      have extended :
          before * 0x40 + (0x80 + n / 0x40 ^ count % 0x40 - 0x80) = n / 0x40 ^ count := by
        omega
      rw [continuation, List.cons_append, piecesFrom]
      simp only [advance, Open.extend, toNat, low, high, and_self, if_true, extended]
      cases count with
      | zero => simp [continuation]
      | succ count =>
          rw [if_neg (by omega)]
          exact ih (bytes ++ [_]) _ 0x80 0xbf (by omega) rfl (by omega) (by omega)

theorem pieces_encodeChar (c : Char) (rest : List UInt8) :
    pieces (encodeChar c ++ rest) = .char c :: pieces rest := by
  obtain ⟨n, valid, rfl⟩ : ∃ n : Nat, n.isValidChar ∧ c = Char.ofNat n :=
    ⟨c.toNat, c.valid, (Char.ofNat_toNat c).symm⟩
  have bound : n < 0x110000 := by unfold Nat.isValidChar at valid; omega
  rw [pieces, encodeChar_ofNat valid]
  by_cases one : n < 0x80
  · have toNat := toNat_toUInt8 (show n < 256 by omega)
    rw [if_pos one, List.singleton_append, piecesFrom, advance, lead_of_ascii (by omega), toNat]
    rfl
  by_cases two : n < 0x800
  · have toNat := toNat_toUInt8 (show 0xc0 + n / 0x40 < 256 by omega)
    rw [if_neg one, if_pos two, List.cons_append, piecesFrom, advance,
      lead_of_two (by omega) (by omega)]
    exact piecesFrom_continuation n rest (by simp) (by simp only [toNat]; omega) (by simp)
      (by dsimp only; omega)
  by_cases three : n < 0x10000
  · have toNat := toNat_toUInt8 (show 0xe0 + n / 0x1000 < 256 by omega)
    rw [if_neg one, if_neg two, if_pos three, List.cons_append, piecesFrom, advance,
      lead_of_three (by omega) (by omega)]
    unfold Nat.isValidChar at valid
    exact piecesFrom_continuation n rest (by simp) (by simp only [toNat]; omega)
      (by dsimp only; split <;> omega) (by dsimp only; split <;> omega)
  · have toNat := toNat_toUInt8 (show 0xf0 + n / 0x40000 < 256 by omega)
    rw [if_neg one, if_neg two, if_neg three, List.cons_append, piecesFrom, advance,
      lead_of_four (by omega) (by omega)]
    exact piecesFrom_continuation n rest (by simp) (by simp only [toNat]; omega)
      (by dsimp only; split <;> omega) (by dsimp only; split <;> omega)

theorem pieces_encode (text : List Char) : pieces (encode text) = text.map .char := by
  induction text with
  | nil => rfl
  | cons c text ih => rw [encode_cons, pieces_encodeChar, ih, List.map_cons]

theorem collect_map_char (start : Nat) (text : List Char) :
    Piece.collect start (text.map .char) = .ok text := by
  induction text generalizing start with
  | nil => rfl
  | cons c text ih => simp only [List.map_cons, Piece.collect, ih]

theorem eq_map_char_of_collect {start : Nat} {found : List Piece} {text : List Char}
    (h : Piece.collect start found = .ok text) : found = text.map .char := by
  induction found generalizing start text with
  | nil =>
      cases h
      rfl
  | cons piece found ih =>
      cases piece with
      | illFormed bytes reason => cases h
      | char c =>
          rw [Piece.collect] at h
          split at h
          · next rest hrest =>
            cases h
            rw [List.map_cons, ← ih hrest]
          · cases h

@[simp] theorem decode_encode (text : List Char) : decode (encode text) = .ok text := by
  rw [decode, pieces_encode, collect_map_char]

/-- Where nothing is damaged, nothing is replaced. -/
@[simp] theorem decodeLossy_encode (text : List Char) : decodeLossy (encode text) = text := by
  rw [decodeLossy, pieces_encode, List.map_map]
  exact List.map_id text

/-- Bytes can be read as a text exactly if they are the bytes of that text. -/
theorem decode_eq_ok_iff {bytes : List UInt8} {text : List Char} :
    decode bytes = .ok text ↔ bytes = encode text := by
  constructor
  · intro h
    have chars := eq_map_char_of_collect h
    have kept := flatMap_bytes_pieces bytes
    rw [chars, List.flatMap_map] at kept
    exact kept.symm
  · rintro rfl
    exact decode_encode text

end CommandShell.Text.Utf8
