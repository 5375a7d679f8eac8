/-
# The records of a history file

Whatever the bytes of a history file, the entries read from it are storable: each
is one record, so neither the reader nor the editor nor the writer loses any of
them on the way through a session.

A storable entry need not be a string, and then there are no bytes for it.  A save
opens the file first, which empties it, and stops at that entry: the file keeps those
before it and loses the rest.
-/

import CommandShell.History
import CommandShell.Proofs.FileTree
import CommandShell.Proofs.TextFile

namespace CommandShell

namespace Text

theorem not_mem_of_mem_extendFirst {c newline : Char} {pieces : List (List Char)}
    (differs : c ≠ newline) (h : ∀ piece ∈ pieces, newline ∉ piece) :
    ∀ piece ∈ extendFirst c pieces, newline ∉ piece := by
  cases pieces with
  | nil => simpa [extendFirst] using differs.symm
  | cons first rest => simpa [extendFirst, differs.symm] using h

theorem not_mem_of_mem_records {text : List Char} : ∀ record ∈ records text, '\n' ∉ record := by
  induction text with
  | nil => simp
  | cons c rest ih =>
      rw [records]
      split
      · simpa using ih
      next differs => exact not_mem_of_mem_extendFirst differs ih

/-- A record holds only characters of its text. -/
theorem not_mem_records {text : List Char} {c : Char} (h : c ∉ text) :
    ∀ record ∈ records text, c ∉ record := by
  induction text with
  | nil => simp
  | cons first rest ih =>
      rw [List.mem_cons, not_or] at h
      rw [records]
      split
      · simpa using ih h.2
      · exact not_mem_of_mem_extendFirst (Ne.symm h.1) (ih h.2)

end Text

namespace History

open Text

theorem isStorable_iff {entry : Text} :
    isStorable entry = true ↔
      entry ≠ "" ∧ '\n' ∉ entry.characters ∧ '\r' ∉ entry.characters := by
  simp [isStorable, and_assoc]

/-- Every entry of a history file can be saved again. -/
theorem isStorable_of_mem_entriesOf {bytes : List UInt8} {entry : String}
    (h : entry ∈ entriesOf bytes) : isStorable entry = true := by
  obtain ⟨record, kept, rfl⟩ := List.mem_map.mp h
  obtain ⟨isRecord, filled⟩ := List.mem_filter.mp kept
  have noReturn : '\r' ∉ TextFile.decodeLossy bytes := not_mem_unifyNewlines _
  rw [isStorable_iff, characters_plain, String.toList_ofList]
  refine ⟨?_, not_mem_of_mem_records record isRecord, not_mem_records noReturn record isRecord⟩
  intro empty
  have none : record = [] := by
    simpa using congrArg Text.characters empty
  simp [none] at filled

/-- Loading drops nothing that the editor or the writer would drop. -/
theorem isStorable_of_load {files : FileTree} {path : Path} {loaded : List String}
    (h : (load files path).1 = .ok loaded) : ∀ entry ∈ loaded, isStorable entry = true := by
  rw [load] at h
  split at h
  · cases h
    exact fun entry => isStorable_of_mem_entriesOf
  · cases h
  · cases h
    simp

theorem filter_of_load {files : FileTree} {path : Path} {loaded : List String}
    (h : (load files path).1 = .ok loaded) :
    (loaded.map plain).filter isStorable = loaded.map plain := by
  rw [List.filter_eq_self]
  intro entry member
  obtain ⟨string, isLoaded, rfl⟩ := List.mem_map.mp member
  exact isStorable_of_load h string isLoaded

/-! ## What a save leaves -/

section Save

variable {files : FileTree} {path : Path} {entries : List Text}

/-- The file at the path holds the strings, each ended by a line feed, and all else is as it
was. -/
def Rewritten (path : Path) (strings : List String) (before after : FileTree) : Prop :=
  ∃ location, before.resolve path = .ok location ∧
    after.read path = .ok (String.join (strings.map (· ++ "\n"))).toUTF8.data.toList ∧
    ∀ other, other ≠ location → after.get? other = before.get? other

theorem map_append_lineFeed (strings : List String) :
    (strings.map plain).map (fun (entry : Text) => entry ++ "\n") =
      (strings.map (· ++ "\n")).map plain := by
  simp only [List.map_map, Function.comp_def, plain_append_plain]

theorem exists_write_records {strings : List String} (writable : files.IsWritable path) :
    ∃ written, files.write path (String.join (strings.map (· ++ "\n"))).toUTF8.data.toList =
        .ok written ∧ Rewritten path strings files written := by
  obtain ⟨written, writes⟩ := writable.exists_write _
  obtain ⟨location, led, free, rfl⟩ := FileTree.write_eq_ok_iff.mp writes
  refine ⟨_, writes, location, led, FileTree.read_write writes, ?_⟩
  intro other elsewhere
  exact FileTree.get?_put_of_ne files _ elsewhere

/-- Entries that are strings are saved. -/
theorem exists_save_of_strings {strings : List String}
    (kept : entries.filter isStorable = strings.map plain) (writable : files.IsWritable path) :
    ∃ saved noted, save files path entries =
        (.ok (), [.output saveMessage, .diagnostic .history noted], saved) ∧
      Rewritten path strings files saved := by
  obtain ⟨saved, written, rewritten⟩ := exists_write_records writable
  have overwritten : TextFile.overwrite files path (recordsOf entries) = (.ok (), saved) := by
    rw [TextFile.overwrite, recordsOf, kept, map_append_lineFeed, TextFile.output_plain, written,
      TextFile.opened]
  exact ⟨saved, _, by rw [save, overwritten], rewritten⟩

/-- A save fails at the first entry that is no string, and leaves those before it. -/
theorem exists_save_of_fault {strings : List String} {text : Text} {later : List Text}
    {fault : EncodingFault} (kept : entries.filter isStorable = strings.map plain ++ text :: later)
    (broken : text.encode = .error fault) (writable : files.IsWritable path) :
    ∃ left, save files path entries =
        (.error (.unencodable fault), [.output saveMessage], left) ∧
      Rewritten path strings files left := by
  obtain ⟨left, written, rewritten⟩ := exists_write_records writable
  have overwritten : TextFile.overwrite files path (recordsOf entries) =
      (.error (.unencodable fault), left) := by
    rw [TextFile.overwrite, recordsOf, kept, List.map_append, List.map_cons, map_append_lineFeed,
      TextFile.output_of_fault _ (encode_append_plain_of_error broken "\n"), written,
      TextFile.opened]
  exact ⟨left, by rw [save, overwritten], rewritten⟩

/-- A file that cannot be opened is left alone, whatever the entries are. -/
theorem exists_save_of_not_isWritable (noNul : path.hasNul = false)
    (blocked : ¬ files.IsWritable path) (entries : List Text) :
    ∃ error place, save files path entries =
      (.error (.file (.system error place)), [.output saveMessage], files) := by
  rw [save, TextFile.overwrite]
  cases written : files.write path (TextFile.output (recordsOf entries)).1 with
  | ok saved =>
      obtain ⟨location, led, free, -⟩ := FileTree.write_eq_ok_iff.mp written
      exact absurd ⟨location, led, free⟩ blocked
  | error refusal =>
      cases refusal with
      | nulInPath =>
          rw [(FileTree.write_eq_nulInPath_iff files _).mp written] at noNul
          cases noNul
      | system error place => exact ⟨error, place, rfl⟩

theorem save_of_hasNul (nul : path.hasNul = true) (entries : List Text) :
    save files path entries = (.error (.file .nulInPath), [.output saveMessage], files) := by
  rw [save, TextFile.overwrite, (FileTree.write_eq_nulInPath_iff files _).mpr nul]
  rfl

/-- What a save comes to: the file cannot be opened, or all storable entries are written, or
those before the first that is no string. -/
theorem save_cases (files : FileTree) (path : Path) (entries : List Text) :
    (∃ refusal, ¬ files.IsWritable path ∧ save files path entries =
      (.error (.file refusal), [.output saveMessage], files)) ∨
    (∃ strings saved noted, entries.filter isStorable = strings.map plain ∧
      save files path entries =
        (.ok (), [.output saveMessage, .diagnostic .history noted], saved) ∧
      Rewritten path strings files saved) ∨
    ∃ strings text later fault left,
      entries.filter isStorable = strings.map plain ++ text :: later ∧
      text.encode = .error fault ∧
      save files path entries = (.error (.unencodable fault), [.output saveMessage], left) ∧
      Rewritten path strings files left := by
  by_cases writable : files.IsWritable path
  · right
    rcases TextFile.strings_or_fault (entries.filter isStorable) with
      ⟨strings, kept⟩ | ⟨strings, text, later, fault, kept, broken⟩
    · obtain ⟨saved, noted, saves, rewritten⟩ := exists_save_of_strings kept writable
      exact .inl ⟨strings, saved, noted, kept, saves, rewritten⟩
    · obtain ⟨left, saves, rewritten⟩ := exists_save_of_fault kept broken writable
      exact .inr ⟨strings, text, later, fault, left, kept, broken, saves, rewritten⟩
  · left
    cases nul : path.hasNul with
    | true => exact ⟨_, writable, save_of_hasNul nul entries⟩
    | false =>
        obtain ⟨error, place, refused⟩ := exists_save_of_not_isWritable nul writable entries
        exact ⟨_, writable, refused⟩

/-- A save that is refused leaves the files as they are. -/
theorem save_eq_of_refused {refusal : Refusal}
    (refused : (save files path entries).1 = .error (.file refusal)) :
    save files path entries = (.error (.file refusal), [.output saveMessage], files) := by
  rcases save_cases files path entries with
    ⟨_, _, saves⟩ | ⟨_, _, _, _, saves, _⟩ | ⟨_, _, _, _, _, _, _, saves, _⟩ <;>
    rw [saves] at refused ⊢ <;> cases refused
  rfl

/-- A save meets faults of the file system at most. -/
def SavesButForFaults (files : FileTree) (path : Path) (entries : List Text) : Prop :=
  ∀ failure, (save files path entries).1 = .error failure →
    ∃ error place, failure = .file (.system error place)

/-- That is so where the path is free of U+0000 and the file cannot be opened or there is
nothing to write but strings. -/
theorem savesButForFaults_iff :
    SavesButForFaults files path entries ↔
      path.hasNul = false ∧ (files.IsWritable path →
        ∃ strings : List String, entries.filter isStorable = strings.map plain) := by
  constructor
  · intro clean
    have noNul : path.hasNul = false := by
      cases nul : path.hasNul with
      | false => rfl
      | true =>
          obtain ⟨_, _, impossible⟩ := clean _ (congrArg Prod.fst (save_of_hasNul nul entries))
          cases impossible
    refine ⟨noNul, fun writable => ?_⟩
    rcases TextFile.strings_or_fault (entries.filter isStorable) with
      strings | ⟨_, _, _, _, kept, broken⟩
    · exact strings
    · obtain ⟨_, fails, _⟩ := exists_save_of_fault kept broken writable
      obtain ⟨_, _, impossible⟩ := clean _ (congrArg Prod.fst fails)
      cases impossible
  · rintro ⟨noNul, strings⟩ failure failed
    by_cases writable : files.IsWritable path
    · obtain ⟨_, kept⟩ := strings writable
      obtain ⟨_, _, saves, _⟩ := exists_save_of_strings kept writable
      rw [saves] at failed
      cases failed
    · obtain ⟨error, place, refused⟩ := exists_save_of_not_isWritable noNul writable entries
      rw [refused] at failed
      cases failed
      exact ⟨error, place, rfl⟩

/-- Otherwise there is a text to write that is no string, to a path that can be written. -/
theorem exists_fault_of_not_savesButForFaults (noNul : path.hasNul = false)
    (fails : ¬ SavesButForFaults files path entries) :
    files.IsWritable path ∧ ∃ (strings : List String) (text : Text) (later : List Text)
      (fault : EncodingFault), entries.filter isStorable = strings.map plain ++ text :: later ∧
        text.encode = .error fault := by
  rw [savesButForFaults_iff, not_and, Classical.not_imp] at fails
  obtain ⟨writable, noStrings⟩ := fails noNul
  exact ⟨writable, (TextFile.strings_or_fault _).resolve_left noStrings⟩

/-- Strings that are added to the entries do not stand in the way of a save. -/
theorem SavesButForFaults.append (clean : SavesButForFaults files path entries)
    (strings : List String) :
    SavesButForFaults files path (entries ++ (strings.map plain).filter isStorable) := by
  rw [savesButForFaults_iff] at clean ⊢
  refine ⟨clean.1, fun writable => ?_⟩
  obtain ⟨kept, all⟩ := clean.2 writable
  refine ⟨kept ++ strings.filter fun (entry : String) => isStorable entry, ?_⟩
  simp [all, List.filter_append, List.filter_filter, List.filter_map, Function.comp_def]

/-- A save that succeeds has strings only to write. -/
theorem exists_strings_of_save (saves : (save files path entries).1 = .ok ()) :
    ∃ strings : List String, entries.filter isStorable = strings.map plain ∧
      Rewritten path strings files (save files path entries).2.2 := by
  rcases save_cases files path entries with
    ⟨_, _, refused⟩ | ⟨strings, saved, _, kept, saved', rewritten⟩ | ⟨_, _, _, _, _, _, _, fails, _⟩
  · rw [refused] at saves
    cases saves
  · rw [saved']
    exact ⟨strings, kept, rewritten⟩
  · rw [fails] at saves
    cases saves

end Save

end History

end CommandShell
