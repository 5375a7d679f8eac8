/-
# Lenient reading of UTF-8

Where bytes are damaged, the lenient reader puts one replacement character in the place of each
maximal ill-formed part: the longest run from there that begins the bytes of some character, or
a single byte if there is none.  `ReadsLossy` says so without a machine, and the reader is shown
to do exactly that.  Because no character has an ASCII byte beside others, such a byte ends
whatever is open before it: what stands on either side of it is read on its own.
-/

import CommandShell.Proofs.Text.Utf8

namespace CommandShell.Text.Utf8

/-- The bytes are the first bytes of a character. -/
def BeginsCharacter (bytes : List UInt8) : Prop :=
  ∃ c, bytes <+: encodeChar c

/-- A part at the beginning of bytes that can count as one fault: a character could have begun
with it, or it is a single byte. -/
structure IsSubpart (part bytes : List UInt8) : Prop where
  isPrefix : part <+: bytes
  ne_nil : part ≠ []
  begins : BeginsCharacter part ∨ part.length = 1

/-- The longest such part, where no character begins. -/
structure IsMaximalSubpart (part bytes : List UInt8) : Prop extends IsSubpart part bytes where
  unconvertible : ∀ c, ¬ encodeChar c <+: bytes
  longest : ∀ other, IsSubpart other bytes → other.length ≤ part.length

/-- The lenient reading of bytes: characters as they are, and one replacement for each maximal
ill-formed part. -/
inductive ReadsLossy : List UInt8 → List Char → Prop
  | done : ReadsLossy [] []
  | char {c : Char} {rest : List UInt8} {text : List Char} (reads : ReadsLossy rest text) :
      ReadsLossy (encodeChar c ++ rest) (c :: text)
  | damaged {part rest : List UInt8} {text : List Char}
      (maximal : IsMaximalSubpart part (part ++ rest)) (reads : ReadsLossy rest text) :
      ReadsLossy (part ++ rest) (replacement :: text)

theorem IsMaximalSubpart.unique {part other bytes : List UInt8}
    (first : IsMaximalSubpart part bytes) (second : IsMaximalSubpart other bytes) :
    part = other := by
  have shorter := first.longest other second.toIsSubpart
  have longer := second.longest part first.toIsSubpart
  apply (List.prefix_of_prefix_length_le first.isPrefix second.isPrefix longer).eq_of_length
  omega

theorem piecesFrom_cons (opened : Option Open) (b : UInt8) (rest : List UInt8) :
    piecesFrom opened (b :: rest) =
      (advance opened b).1 ++ piecesFrom (advance opened b).2 rest :=
  rfl

/-! ## Where reading is stuck -/

/-- A part is a maximal one if reading is stuck behind it, whatever follows the next byte. -/
theorem isMaximalSubpart_of_stuck {part rest : List UInt8} (filled : part ≠ [])
    (begins : BeginsCharacter part ∨ part.length = 1)
    (stuck : ∀ more, more.head? = rest.head? → ∃ reason later,
      pieces (part ++ more) = .illFormed part reason :: later) :
    IsMaximalSubpart part (part ++ rest) := by
  have notChar (c : Char) (more later : List UInt8) (same : more.head? = rest.head?)
      (isChar : encodeChar c ++ later = part ++ more) : False := by
    obtain ⟨reason, others, broken⟩ := stuck more same
    rw [← isChar, pieces_encodeChar] at broken
    cases broken
  refine ⟨⟨List.prefix_append _ _, filled, begins⟩, ?_, ?_⟩
  · rintro c ⟨later, isChar⟩
    exact notChar c rest later rfl isChar
  · intro other subpart
    apply Nat.le_of_not_lt
    intro longer
    have one : 0 < part.length := List.length_pos_iff.mpr filled
    obtain ⟨tail, rfl⟩ := List.prefix_of_prefix_length_le (List.prefix_append part rest)
      subpart.isPrefix (by omega)
    obtain ⟨back, rfl⟩ := (List.prefix_append_right_inj part).mp subpart.isPrefix
    -- A longer part has more than one byte, so some character would begin with it.
    rw [List.length_append] at longer
    rcases subpart.begins with ⟨c, later, isChar⟩ | single
    · refine notChar c (tail ++ later) [] ?_ ?_
      · cases tail with
        | nil => simp at longer
        | cons b tail => rfl
      · rw [List.append_nil, ← isChar, List.append_assoc]
    · rw [List.length_append] at single
      omega

/-- Reading has come to an open sequence from the beginning, and the range of its next byte is
not empty. -/
structure Open.Reached (o : Open) : Prop where
  sound : o.Sound
  ne_nil : o.bytes ≠ []
  low_le_high : o.low ≤ o.high
  pieces_eq : ∀ rest, pieces (o.bytes ++ rest) = piecesFrom (some o) rest

theorem low_le_high_of_lead {b : UInt8} {o : Open} (opens : lead b = ([], some o)) :
    o.low ≤ o.high := by
  rw [lead] at opens
  grind

theorem reached_of_lead {b : UInt8} {o : Open} (opens : lead b = ([], some o)) (sound : o.Sound)
    (bytes : o.bytes = [b]) : o.Reached := by
  refine ⟨sound, by simp [bytes], low_le_high_of_lead opens, ?_⟩
  intro rest
  rw [bytes, pieces, List.singleton_append, piecesFrom_cons, advance, opens]
  rfl

namespace Open.Reached

variable {o : Open} (reached : o.Reached) {b : UInt8}

include reached

theorem next (low : o.low ≤ b.toNat) (high : b.toNat ≤ o.high) (more : 1 < o.missing) :
    Open.Reached
      ⟨o.bytes ++ [b], o.value * 0x40 + (b.toNat - 0x80), o.missing - 1, 0x80, 0xbf⟩ := by
  refine ⟨reached.sound.next low high more, by simp, by simp, ?_⟩
  intro rest
  have several : ¬ o.missing ≤ 1 := by omega
  rw [List.append_assoc, reached.pieces_eq, List.singleton_append, piecesFrom_cons]
  simp [advance, extend, low, high, several]

theorem pieces_of_not_in_range (outside : ¬ (o.low ≤ b.toNat ∧ b.toNat ≤ o.high))
    (rest : List UInt8) :
    pieces (o.bytes ++ b :: rest) =
      .illFormed o.bytes .invalidContinuation :: pieces (b :: rest) := by
  rw [reached.pieces_eq, piecesFrom_cons]
  simp [advance, extend, outside, pieces, piecesFrom_cons]

theorem pieces_at_end : pieces (o.bytes ++ []) = [.illFormed o.bytes .unexpectedEnd] :=
  reached.pieces_eq []

/-- The least byte that may come next belongs to a character. -/
theorem beginsCharacter : BeginsCharacter o.bytes := by
  obtain ⟨sound, _, ordered, _⟩ := reached
  have least := sound.low_ge
  have greatest := sound.high_le
  obtain ⟨count, missing⟩ : ∃ count, o.missing = count + 1 :=
    ⟨o.missing - 1, (Nat.succ_pred_eq_of_pos sound.missing_pos).symm⟩
  let n := (o.value * 0x40 + (o.low - 0x80)) * 0x40 ^ count
  have own : n / 0x40 ^ count = o.value * 0x40 + (o.low - 0x80) :=
    Nat.mul_div_cancel _ (Nat.pow_pos (by decide))
  have value : n / 0x40 ^ o.missing = o.value := by
    rw [missing, Nat.pow_succ, ← Nat.div_div_eq_div_mul, own]
    omega
  have byte : 0x80 + n / 0x40 ^ (o.missing - 1) % 0x40 = o.low := by
    rw [missing, Nat.add_sub_cancel, own]
    omega
  obtain ⟨_, bytes⟩ := sound.completes n value (Nat.le_of_eq byte.symm) (by rwa [byte])
  exact ⟨Char.ofNat n, bytes ▸ List.prefix_append _ _⟩

end Open.Reached

/-! ## The first piece -/

/-- Bytes begin with a character or with a maximal ill-formed part, and that is the first
piece of their reading. -/
inductive Starts (bytes : List UInt8) : Prop
  | char (c : Char) (rest : List UInt8) (split : bytes = encodeChar c ++ rest)
  | damaged (part rest : List UInt8) (reason : Reason) (split : bytes = part ++ rest)
      (maximal : IsMaximalSubpart part bytes)
      (first : pieces bytes = .illFormed part reason :: pieces rest)

theorem Open.Reached.starts {o : Open} (reached : o.Reached) (rest : List UInt8) :
    Starts (o.bytes ++ rest) := by
  have begins := Or.inl (b := o.bytes.length = 1) reached.beginsCharacter
  induction rest generalizing o with
  | nil =>
      have maximal : IsMaximalSubpart o.bytes (o.bytes ++ []) := by
        apply isMaximalSubpart_of_stuck reached.ne_nil begins
        intro more same
        rw [List.head?_nil, List.head?_eq_none_iff] at same
        subst same
        exact ⟨_, [], reached.pieces_at_end⟩
      exact .damaged o.bytes [] _ rfl maximal reached.pieces_at_end
  | cons b rest ih =>
      by_cases inRange : o.low ≤ b.toNat ∧ b.toNat ≤ o.high
      · obtain ⟨low, high⟩ := inRange
        by_cases one : o.missing ≤ 1
        · refine .char (Char.ofNat (o.value * 0x40 + (b.toNat - 0x80))) rest ?_
          rw [reached.sound.last low high one, List.append_assoc]
          rfl
        · have next := reached.next low high (by omega)
          have later := ih next (.inl next.beginsCharacter)
          rwa [List.append_assoc] at later
      · have maximal : IsMaximalSubpart o.bytes (o.bytes ++ b :: rest) := by
          apply isMaximalSubpart_of_stuck reached.ne_nil begins
          intro more same
          obtain ⟨later, rfl⟩ := List.head?_eq_some_iff.mp same
          exact ⟨_, _, reached.pieces_of_not_in_range inRange later⟩
        exact .damaged o.bytes (b :: rest) _ rfl maximal
          (reached.pieces_of_not_in_range inRange rest)

theorem starts_cons (b : UInt8) (rest : List UInt8) : Starts (b :: rest) := by
  rcases lead_cases b with ⟨o, opens, sound, bytes⟩ | ⟨piece, whole, bytes⟩
  · have starts := (reached_of_lead opens sound bytes).starts rest
    rwa [bytes] at starts
  · have first (more : List UInt8) : pieces (b :: more) = piece :: pieces more := by
      rw [pieces, piecesFrom_cons, advance, whole]
      rfl
    cases piece with
    | char c =>
        have encoded : encodeChar c = [b] := bytes
        exact .char c rest (by rw [encoded]; rfl)
    | illFormed run reason =>
        obtain rfl : run = [b] := bytes
        refine .damaged [b] rest reason rfl ?_ (first rest)
        exact isMaximalSubpart_of_stuck (by simp) (.inr rfl) fun more _ => ⟨_, _, first more⟩

/-! ## The whole reading -/

theorem decodeLossy_encodeChar_append (c : Char) (rest : List UInt8) :
    decodeLossy (encodeChar c ++ rest) = c :: decodeLossy rest := by
  rw [decodeLossy, pieces_encodeChar]
  rfl

theorem decodeLossy_of_maximal {part rest : List UInt8}
    (maximal : IsMaximalSubpart part (part ++ rest)) :
    decodeLossy (part ++ rest) = replacement :: decodeLossy rest := by
  have starts : Starts (part ++ rest) := by
    obtain ⟨b, tail, rfl⟩ := List.exists_cons_of_ne_nil maximal.ne_nil
    exact starts_cons b (tail ++ rest)
  cases starts with
  | char c others split => exact absurd ⟨others, split.symm⟩ (maximal.unconvertible c)
  | damaged other others reason split maximal' first =>
      obtain rfl := maximal.unique maximal'
      obtain rfl := List.append_cancel_left split
      rw [decodeLossy, first]
      rfl

theorem readsLossy_decodeLossy (bytes : List UInt8) : ReadsLossy bytes (decodeLossy bytes) := by
  induction size : bytes.length using Nat.strongRecOn generalizing bytes with
  | ind n ih =>
      cases bytes with
      | nil => exact .done
      | cons b tail =>
          cases starts_cons b tail with
          | char c rest split =>
              have filled : 0 < (encodeChar c).length := by
                rw [encodeChar]
                grind
              have shorter : rest.length < n := by
                rw [← size, split, List.length_append]
                omega
              rw [split, decodeLossy_encodeChar_append]
              exact .char (ih _ shorter rest rfl)
          | damaged part rest reason split maximal first =>
              have filled := List.length_pos_iff.mpr maximal.ne_nil
              have shorter : rest.length < n := by
                rw [← size, split, List.length_append]
                omega
              rw [split] at maximal ⊢
              rw [decodeLossy_of_maximal maximal]
              exact .damaged maximal (ih _ shorter rest rfl)

/-- The lenient reader does what it is meant to do, and nothing else could be meant. -/
theorem decodeLossy_eq_iff {bytes : List UInt8} {text : List Char} :
    decodeLossy bytes = text ↔ ReadsLossy bytes text := by
  constructor
  · rintro rfl
    exact readsLossy_decodeLossy bytes
  · intro reads
    induction reads with
    | done => rfl
    | char reads ih => rw [decodeLossy_encodeChar_append, ih]
    | damaged maximal reads ih => rw [decodeLossy_of_maximal maximal, ih]

/-! ## Bytes of their own -/

theorem piecesFrom_append_ascii (opened : Option Open) (sound : ∀ o ∈ opened, o.Sound)
    (front back : List UInt8) {b : UInt8} (ascii : b.toNat < 0x80) :
    (piecesFrom opened (front ++ b :: back)).map Piece.replaced =
      (piecesFrom opened front).map Piece.replaced ++
        Char.ofNat b.toNat :: (pieces back).map Piece.replaced := by
  induction front generalizing opened with
  | nil =>
      cases opened with
      | none =>
          rw [List.nil_append, piecesFrom_cons, advance, lead_of_ascii ascii]
          rfl
      | some o =>
          -- A byte below the range of any continuation closes the open sequence.
          have least := (sound o rfl).low_ge
          have outside : ¬ (o.low ≤ b.toNat ∧ b.toNat ≤ o.high) := by omega
          rw [List.nil_append, piecesFrom_cons, advance, Open.extend, if_neg outside,
            lead_of_ascii ascii]
          rfl
  | cons x front ih =>
      obtain ⟨_, still⟩ := advance_keeps opened sound x
      rw [List.cons_append, piecesFrom_cons, piecesFrom_cons, List.map_append, List.map_append,
        ih _ still, List.append_assoc]

/-- An ASCII byte stands for itself, and what surrounds it is read on its own. -/
theorem decodeLossy_append_ascii (front back : List UInt8) {b : UInt8} (ascii : b.toNat < 0x80) :
    decodeLossy (front ++ b :: back) =
      decodeLossy front ++ Char.ofNat b.toNat :: decodeLossy back :=
  piecesFrom_append_ascii none (by simp) front back ascii

/-- No byte is read as nothing. -/
theorem decodeLossy_eq_nil_iff {bytes : List UInt8} : decodeLossy bytes = [] ↔ bytes = [] := by
  constructor
  · intro nothing
    rw [← flatMap_bytes_pieces bytes, List.map_eq_nil_iff.mp nothing]
    rfl
  · rintro rfl
    rfl

/-- A character that is read stands in the bytes, unless it stands for damaged ones. -/
theorem mem_of_mem_decodeLossy {bytes : List UInt8} {c : Char} (read : c ∈ decodeLossy bytes)
    (genuine : c ≠ replacement) : ∀ b ∈ encodeChar c, b ∈ bytes := by
  intro b isByte
  obtain ⟨piece, isPiece, replaced⟩ := List.mem_map.mp read
  cases piece with
  | illFormed run reason => exact absurd replaced.symm genuine
  | char other =>
      obtain rfl : other = c := replaced
      rw [← flatMap_bytes_pieces bytes]
      exact List.mem_flatMap.mpr ⟨_, isPiece, isByte⟩

end CommandShell.Text.Utf8
