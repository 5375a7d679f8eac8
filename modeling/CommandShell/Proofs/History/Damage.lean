/-
# Damaged histories

Damage stays in its record.  The bytes of a history file are cut at their line endings first,
and only then are the pieces read, each on its own: no sequence that is broken or breaks off
swallows a line ending, since a line ending is an ASCII byte, and none is read as nothing.  So
what stands on one side of a line ending has no part in the entries on the other side.
-/

import CommandShell.Proofs.History.RoundTrip
import CommandShell.Proofs.Text.Lenient

namespace CommandShell

namespace Text

/-! ## Bytes cut at line endings -/

/-- The pieces of bytes between their line endings: a carriage return and the line feed that
directly follows it end a piece together, and either of them ends one alone. -/
def byteLines : List UInt8 → List (List UInt8)
  | [] => [[]]
  | 0x0d :: 0x0a :: rest => [] :: byteLines rest
  | b :: rest =>
    if b = 0x0d ∨ b = 0x0a then [] :: byteLines rest
    else (byteLines rest).modifyHead (b :: ·)

/-- The pieces that are not empty. -/
def filledLines (bytes : List UInt8) : List (List UInt8) :=
  (byteLines bytes).filter fun line => !line.isEmpty

/-- The line endings of bytes. -/
def lineEndings : List (List UInt8) := [[0x0d, 0x0a], [0x0d], [0x0a]]

/-- Bytes without a line ending. -/
structure Unbroken (bytes : List UInt8) : Prop where
  noReturn : 0x0d ∉ bytes
  noFeed : 0x0a ∉ bytes

theorem unbroken_cons {b : UInt8} {rest : List UInt8} :
    Unbroken (b :: rest) ↔ ¬ (b = 0x0d ∨ b = 0x0a) ∧ Unbroken rest := by
  constructor
  · rintro ⟨noReturn, noFeed⟩
    rw [List.mem_cons, not_or] at noReturn noFeed
    exact ⟨not_or.mpr ⟨Ne.symm noReturn.1, Ne.symm noFeed.1⟩, noReturn.2, noFeed.2⟩
  · rintro ⟨plain, noReturn, noFeed⟩
    rw [not_or] at plain
    exact ⟨by simp [Ne.symm plain.1, noReturn], by simp [Ne.symm plain.2, noFeed]⟩

/-- Bytes hold no line ending, or they can be cut at the first. -/
theorem exists_cut (bytes : List UInt8) :
    Unbroken bytes ∨ ∃ line b rest, bytes = line ++ b :: rest ∧ Unbroken line ∧
      (b = 0x0d ∨ b = 0x0a) := by
  induction bytes with
  | nil => exact .inl ⟨by simp, by simp⟩
  | cons b rest ih =>
      by_cases ends : b = 0x0d ∨ b = 0x0a
      · exact .inr ⟨[], b, rest, rfl, ⟨by simp, by simp⟩, ends⟩
      rcases ih with unbroken | ⟨line, ending, later, rfl, unbroken, ends'⟩
      · exact .inl (unbroken_cons.mpr ⟨ends, unbroken⟩)
      · exact .inr ⟨b :: line, ending, later, rfl, unbroken_cons.mpr ⟨ends, unbroken⟩, ends'⟩

theorem cut_induction {motive : List UInt8 → Prop}
    (last : ∀ line, Unbroken line → motive line)
    (cut : ∀ line b rest, Unbroken line → (b = 0x0d ∨ b = 0x0a) → motive rest →
      motive (line ++ b :: rest)) (bytes : List UInt8) : motive bytes := by
  induction size : bytes.length using Nat.strongRecOn generalizing bytes with
  | ind n ih =>
      rcases exists_cut bytes with unbroken | ⟨line, b, rest, rfl, unbroken, ends⟩
      · exact last bytes unbroken
      · have shorter : rest.length < n := by
          rw [← size, List.length_append, List.length_cons]
          omega
        exact cut line b rest unbroken ends (ih _ shorter rest rfl)

theorem byteLines_cons_of_plain {b : UInt8} (plain : ¬ (b = 0x0d ∨ b = 0x0a))
    (rest : List UInt8) : byteLines (b :: rest) = (byteLines rest).modifyHead (b :: ·) := by
  rw [not_or] at plain
  rw [byteLines, if_neg (not_or.mpr plain)]
  rintro _ rfl
  exact absurd rfl plain.1

theorem byteLines_of_unbroken {line : List UInt8} (unbroken : Unbroken line) :
    byteLines line = [line] := by
  induction line with
  | nil => rfl
  | cons b rest ih =>
      obtain ⟨plain, later⟩ := unbroken_cons.mp unbroken
      rw [byteLines_cons_of_plain plain, ih later]
      rfl

/-- A piece that is ended is the first one. -/
theorem byteLines_append {line rest : List UInt8} {others : List (List UInt8)}
    (unbroken : Unbroken line) (ended : byteLines rest = [] :: others) :
    byteLines (line ++ rest) = line :: others := by
  induction line with
  | nil => exact ended
  | cons b front ih =>
      obtain ⟨plain, later⟩ := unbroken_cons.mp unbroken
      rw [List.cons_append, byteLines_cons_of_plain plain, ih later]
      rfl

/-- A line feed that directly follows the end of a piece ends another one, if any, that is
empty. -/
theorem exists_byteLines_of_end {b : UInt8} (ends : b = 0x0d ∨ b = 0x0a) (rest : List UInt8) :
    ∃ others, byteLines (b :: rest) = [] :: others ∧
      others.filter (fun line => !line.isEmpty) = filledLines rest := by
  rcases ends with rfl | rfl
  · cases rest with
    | nil => exact ⟨_, rfl, rfl⟩
    | cons next later =>
        by_cases feed : next = 0x0a
        · subst feed
          exact ⟨byteLines later, rfl, rfl⟩
        · refine ⟨byteLines (next :: later), ?_, rfl⟩
          rw [byteLines, if_pos (.inl rfl)]
          rintro _ _ same
          exact feed (List.cons.inj same).1
  · exact ⟨byteLines rest, rfl, rfl⟩

theorem filledLines_append_of_unbroken {line : List UInt8} (unbroken : Unbroken line) {b : UInt8}
    (ends : b = 0x0d ∨ b = 0x0a) (rest : List UInt8) :
    filledLines (line ++ b :: rest) = filledLines line ++ filledLines rest := by
  obtain ⟨others, ended, filled⟩ := exists_byteLines_of_end ends rest
  rw [filledLines, byteLines_append unbroken ended, ← filled, filledLines,
    byteLines_of_unbroken unbroken, ← List.filter_append]
  rfl

/-- No piece crosses a line ending. -/
theorem filledLines_append {b : UInt8} (ends : b = 0x0d ∨ b = 0x0a) (front back : List UInt8) :
    filledLines (front ++ b :: back) = filledLines front ++ filledLines back := by
  induction front using cut_induction with
  | last line unbroken => exact filledLines_append_of_unbroken unbroken ends back
  | cut line other rest unbroken ends' ih =>
      rw [List.append_assoc, List.cons_append, filledLines_append_of_unbroken unbroken ends', ih,
        filledLines_append_of_unbroken unbroken ends', List.append_assoc]

/-! ## Text cut at line endings -/

/-- The records of a text file that are not empty. -/
def filledRecords (text : List Char) : List (List Char) :=
  (records (unifyNewlines text)).filter fun record => !record.isEmpty

theorem unifyNewlines_append {front : List Char} (noReturn : '\r' ∉ front) (back : List Char) :
    unifyNewlines (front ++ back) = front ++ unifyNewlines back := by
  induction front with
  | nil => rfl
  | cons c front ih =>
      rw [List.mem_cons, not_or] at noReturn
      rw [List.cons_append, unifyNewlines, if_neg (Ne.symm noReturn.1), ih noReturn.2]
      · rfl
      · rintro _ rfl
        exact absurd rfl noReturn.1

theorem records_of_not_mem {record : List Char} (noFeed : '\n' ∉ record) (filled : record ≠ []) :
    records record = [record] := by
  induction record with
  | nil => exact absurd rfl filled
  | cons c rest ih =>
      rw [List.mem_cons, not_or] at noFeed
      rw [records, if_neg (Ne.symm noFeed.1)]
      cases rest with
      | nil => rfl
      | cons next later =>
          rw [ih noFeed.2 (by simp)]
          rfl

section Records

variable {record : List Char} (noReturn : '\r' ∉ record) (noFeed : '\n' ∉ record)

include noReturn noFeed

theorem filledRecords_of_not_mem :
    filledRecords record = [record].filter fun record => !record.isEmpty := by
  rw [filledRecords, unifyNewlines_of_not_mem noReturn]
  cases record with
  | nil => rfl
  | cons c rest => rw [records_of_not_mem noFeed (by simp)]

theorem filledRecords_append {c : Char} (ends : c = '\r' ∨ c = '\n') (rest : List Char) :
    filledRecords (record ++ c :: rest) = filledRecords record ++ filledRecords rest := by
  have ended (later : List Char) : (records (record ++ '\n' :: unifyNewlines later)).filter
      (fun record => !record.isEmpty) = filledRecords record ++ filledRecords later := by
    rw [records_append_lineFeed noFeed, filledRecords_of_not_mem noReturn noFeed, filledRecords,
      ← List.filter_append]
    rfl
  rw [filledRecords, unifyNewlines_append noReturn]
  rcases ends with rfl | rfl
  · cases rest with
    | nil => exact ended []
    | cons next later =>
        by_cases feed : next = '\n'
        · -- The line feed that belongs to the ending would open an empty record.
          subst feed
          exact ended later
        · rw [unifyNewlines]
          · exact ended (next :: later)
          · rintro _ _ same
            exact feed (List.cons.inj same).1
  · exact ended rest

end Records

end Text

namespace History

open Text

theorem not_mem_decodeLossy {line : List UInt8} (unbroken : Unbroken line) :
    '\r' ∉ Utf8.decodeLossy line ∧ '\n' ∉ Utf8.decodeLossy line := by
  constructor
  · intro read
    exact unbroken.noReturn (Utf8.mem_of_mem_decodeLossy read (by decide) _ (by decide))
  · intro read
    exact unbroken.noFeed (Utf8.mem_of_mem_decodeLossy read (by decide) _ (by decide))

/-- Reading and cutting can change places. -/
theorem filledRecords_decodeLossy (bytes : List UInt8) :
    filledRecords (Utf8.decodeLossy bytes) = (filledLines bytes).map Utf8.decodeLossy := by
  have alone {line : List UInt8} (unbroken : Unbroken line) :
      filledRecords (Utf8.decodeLossy line) = (filledLines line).map Utf8.decodeLossy := by
    obtain ⟨noReturn, noFeed⟩ := not_mem_decodeLossy unbroken
    rw [filledRecords_of_not_mem noReturn noFeed, filledLines, byteLines_of_unbroken unbroken]
    by_cases empty : line = []
    · subst empty
      rfl
    · have filled : Utf8.decodeLossy line ≠ [] := mt Utf8.decodeLossy_eq_nil_iff.mp empty
      simp [empty, filled]
  induction bytes using cut_induction with
  | last line unbroken => exact alone unbroken
  | cut line b rest unbroken ends ih =>
      obtain ⟨noReturn, noFeed⟩ := not_mem_decodeLossy unbroken
      have ascii : b.toNat < 0x80 := by rcases ends with rfl | rfl <;> decide
      have ends' : Char.ofNat b.toNat = '\r' ∨ Char.ofNat b.toNat = '\n' := by
        rcases ends with rfl | rfl
        · exact .inl rfl
        · exact .inr rfl
      rw [Utf8.decodeLossy_append_ascii line rest ascii, filledRecords_append noReturn noFeed ends',
        alone unbroken, ih, filledLines_append ends, List.map_append]

theorem entriesOf_eq (bytes : List UInt8) :
    entriesOf bytes =
      (filledLines bytes).map fun line => String.ofList (Utf8.decodeLossy line) := by
  rw [entriesOf, TextFile.decodeLossy, ← filledRecords, filledRecords_decodeLossy, List.map_map]
  rfl

/-- The entries on either side of a line ending are read on their own. -/
theorem entriesOf_append {ending : List UInt8} (ends : ending ∈ lineEndings)
    (front back : List UInt8) :
    entriesOf (front ++ ending ++ back) = entriesOf front ++ entriesOf back := by
  have single {b : UInt8} (ends : b = 0x0d ∨ b = 0x0a) (front back : List UInt8) :
      entriesOf (front ++ b :: back) = entriesOf front ++ entriesOf back := by
    rw [entriesOf_eq, filledLines_append ends, List.map_append, ← entriesOf_eq, ← entriesOf_eq]
  rw [List.append_assoc]
  rcases List.mem_cons.mp ends with rfl | alone
  · exact (single (.inl rfl) front (0x0a :: back)).trans
      (congrArg _ (single (.inr rfl) [] back))
  · rcases List.mem_cons.mp alone with rfl | feed
    · exact single (.inl rfl) front back
    · cases List.mem_singleton.mp feed
      exact single (.inr rfl) front back

variable {files : FileTree} {path : Path}

/-- **Damage stays in its record.**  From a file of any bytes the entries are loaded that its
pieces between line endings give, each piece read on its own and the empty ones dropped: as
many entries as there are pieces with a byte in them, in order.  A piece is read with one
replacement character for each maximal ill-formed part.  Wherever a line ending stands, the
entries before it and those behind it are what either side would give alone. -/
theorem damage_stays_in_record {bytes : List UInt8} (there : files.read path = .ok bytes) :
    (load files path).1 = .ok
        ((filledLines bytes).map fun line => String.ofList (Utf8.decodeLossy line)) ∧
      (∀ line text, Utf8.decodeLossy line = text ↔ Utf8.ReadsLossy line text) ∧
      ∀ front ending back, ending ∈ lineEndings → bytes = front ++ ending ++ back →
        (load files path).1 = .ok (entriesOf front ++ entriesOf back) := by
  refine ⟨?_, fun _ _ => Utf8.decodeLossy_eq_iff, ?_⟩
  · rw [load_of_read there, entriesOf_eq]
  · rintro front ending back ends rfl
    rw [load_of_read there, entriesOf_append ends]

/-- Sequences that break off before each kind of line ending and at the end of the file, bytes
that begin no character, and the bytes of a surrogate. -/
def brokenBytes : List UInt8 :=
  [0xe2, 0x82, 0x0d, 0x0a, 0x61, 0xf0, 0x9f, 0x0a, 0x0d, 0xff, 0xed, 0xa0, 0x80, 0x0d, 0xc3, 0xa9,
    0xc3]

def brokenHistory : FileTree where
  nodes := [([".history_sta"], .file brokenBytes)]

theorem damage_stays_in_record_broken :
    let path : Path := ⟨.relative, [".history_sta"]⟩
    brokenHistory.read path = .ok brokenBytes ∧
      (load brokenHistory path).1 =
        .ok ["\ufffd", "a\ufffd", "\ufffd\ufffd\ufffd\ufffd", "é\ufffd"] ∧
      Utf8.ReadsLossy [0x61, 0xf0, 0x9f] ['a', '\ufffd'] ∧
      (load brokenHistory path).1 =
        .ok (entriesOf [0xe2, 0x82] ++ entriesOf (brokenBytes.drop 4)) := by
  intro path
  have there : brokenHistory.read path = .ok brokenBytes := rfl
  obtain ⟨loads, reads, splits⟩ := damage_stays_in_record there
  refine ⟨there, ?_, (reads _ _).mp (by decide +kernel), ?_⟩
  · rw [loads]
    exact congrArg Except.ok (by decide +kernel)
  · exact splits [0xe2, 0x82] [0x0d, 0x0a] (brokenBytes.drop 4) (by decide) rfl

end History

end CommandShell
