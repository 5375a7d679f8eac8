/-
# Histories read back

A history file holds one storable entry a line, and a line ends at a line feed and
nowhere else.  So what is saved is loaded again, character by character, whatever other
line boundaries of Unicode an entry holds and whatever blanks it begins or ends with.
Bytes of any kind are loaded as storable entries; once those have been saved, loading and
saving have nothing left to change.
-/

import CommandShell.Proofs.History
import CommandShell.Proofs.Script.Segment
import CommandShell.Proofs.Text.Utf8

namespace CommandShell.History

open CommandShell.Text

variable {files : FileTree} {path : Path}

/-- The text of a history file that holds the strings. -/
def recordText (strings : List String) : String :=
  String.join (strings.map (· ++ "\n"))

theorem toList_recordText (strings : List String) :
    (recordText strings).toList = terminated (strings.map String.toList) := by
  simp [recordText, String.toList_join, terminated, List.flatMap_map]

section Storable

variable {strings : List String} (storable : ∀ entry ∈ strings, isStorable entry = true)

include storable

/-- The line feeds that end the entries are the only line endings of a history file. -/
theorem not_mem_recordText : '\r' ∉ (recordText strings).toList := by
  rw [toList_recordText, terminated]
  intro member
  obtain ⟨line, isLine, inLine⟩ := List.mem_flatMap.mp member
  obtain ⟨entry, isEntry, rfl⟩ := List.mem_map.mp isLine
  rcases List.mem_append.mp inLine with inEntry | isFeed
  · exact (isStorable_iff.mp (storable entry isEntry)).2.2 inEntry
  · cases List.mem_singleton.mp isFeed

theorem decodeLossy_recordText :
    TextFile.decodeLossy (recordText strings).toUTF8.data.toList = (recordText strings).toList := by
  rw [TextFile.decodeLossy, ← Utf8.encode_toList, Utf8.decodeLossy_encode,
    unifyNewlines_of_not_mem (not_mem_recordText storable)]

/-- The text of a history is read as the entries it was written for. -/
theorem entriesOf_recordText :
    entriesOf (recordText strings).toUTF8.data.toList = strings := by
  have noFeed : ∀ line ∈ strings.map String.toList, '\n' ∉ line := by
    intro line member
    obtain ⟨entry, isEntry, rfl⟩ := List.mem_map.mp member
    exact (isStorable_iff.mp (storable entry isEntry)).2.1
  have filled :
      (strings.map String.toList).filter (fun line => !line.isEmpty) =
        strings.map String.toList := by
    rw [List.filter_eq_self]
    intro line member
    obtain ⟨entry, isEntry, rfl⟩ := List.mem_map.mp member
    simpa using (isStorable_iff.mp (storable entry isEntry)).1
  rw [entriesOf, decodeLossy_recordText storable, toList_recordText, records_terminated noFeed,
    filled, List.map_map]
  simp [Function.comp_def]

end Storable

theorem load_of_read {bytes : List UInt8} (h : files.read path = .ok bytes) :
    (load files path).1 = .ok (entriesOf bytes) := by
  rw [load, h]

/-- The strings among entries that are storable, in order. -/
theorem filter_map_plain (strings : List String) :
    (strings.map plain).filter isStorable =
      (strings.filter fun (entry : String) => isStorable entry).map plain := by
  rw [List.filter_map]
  rfl

/-- Strings are saved and loaded again where a file can be written. -/
theorem exists_save_load (writable : files.IsWritable path) (strings : List String) :
    let kept := strings.filter fun (entry : String) => isStorable entry
    ∃ saved events, save files path (strings.map plain) = (.ok (), events, saved) ∧
      saved.read path = .ok (recordText kept).toUTF8.data.toList ∧
      (load saved path).1 = .ok kept := by
  intro kept
  have storable : ∀ entry ∈ kept, isStorable entry = true :=
    fun entry member => (List.mem_filter.mp member).2
  obtain ⟨saved, noted, saves, _, _, holds, _⟩ :=
    exists_save_of_strings (filter_map_plain strings) writable
  have reads := entriesOf_recordText storable
  exact ⟨saved, _, saves, holds, (load_of_read holds).trans (congrArg Except.ok reads)⟩

/-- **What is saved is loaded, and what is loaded can be saved.**  Entries that are saved at a
path that can be written become the text of the storable ones, whatever stood there before,
and exactly those are loaded again, in order and with repetitions: all that are not empty
and hold neither a line feed nor a carriage return.  Conversely, from a file of any bytes
only storable entries are loaded; saved, they are loaded again as they are, and saving them
once more writes the same bytes. -/
theorem saved_history_loads (files : FileTree) (path : Path) :
    (files.IsWritable path → ∀ entries : List String,
      let kept := entries.filter fun (entry : String) => isStorable entry
      ∃ saved events, save files path (entries.map plain) = (.ok (), events, saved) ∧
        saved.read path = .ok (String.join (kept.map (· ++ "\n"))).toUTF8.data.toList ∧
        (load saved path).1 = .ok kept) ∧
    (∀ entry : String, isStorable entry = true ↔
      entry ≠ "" ∧ '\n' ∉ entry.toList ∧ '\r' ∉ entry.toList) ∧
    (∀ bytes, files.read path = .ok bytes → ∃ loaded saved events again eventsAgain,
      (load files path).1 = .ok loaded ∧ (∀ entry ∈ loaded, isStorable entry = true) ∧
      save files path (loaded.map plain) = (.ok (), events, saved) ∧
      (load saved path).1 = .ok loaded ∧
      save saved path (loaded.map plain) = (.ok (), eventsAgain, again) ∧
      again.read path = saved.read path) := by
  refine ⟨exists_save_load, ?_, ?_⟩
  · intro entry
    simp [isStorable_iff]
  · intro bytes there
    have storable : ∀ entry ∈ entriesOf bytes, isStorable entry = true :=
      fun entry => isStorable_of_mem_entriesOf
    have kept : ((entriesOf bytes).filter fun (entry : String) => isStorable entry) =
        entriesOf bytes :=
      List.filter_eq_self.mpr storable
    obtain ⟨saved, events, saves, holds, loads⟩ :=
      exists_save_load (FileTree.isWritable_of_read there) (entriesOf bytes)
    obtain ⟨again, eventsAgain, savesAgain, holdsAgain, _⟩ :=
      exists_save_load (FileTree.isWritable_of_read holds) (entriesOf bytes)
    refine ⟨entriesOf bytes, saved, events, again, eventsAgain, load_of_read there, storable,
      saves, ?_, savesAgain, ?_⟩
    · rw [loads, kept]
    · rw [holds, holdsAgain]

/-- A history file that is no text: a stray byte and a carriage return. -/
def damagedHistory : FileTree where
  nodes := [([".history_sta"], .file [0xff, 0x0d, 0x61])]

/-- Entries that hold line boundaries of other kinds, blanks at their ends, or a byte order
mark, among entries that no record can hold. -/
def boundaryEntries : List String :=
  ["a\x0bb", "\x0c", "", "\u0085", "two\nlines", " \u2028\u2029 ", "back\r", "\ufeffset", "\u0085"]

theorem saved_history_loads_boundaries :
    let path : Path := ⟨.relative, [".history_sta"]⟩
    damagedHistory.IsWritable path ∧
      (∃ saved, (save damagedHistory path (boundaryEntries.map plain)).2.2 = saved ∧
        (load saved path).1 =
          .ok ["a\x0bb", "\x0c", "\u0085", " \u2028\u2029 ", "\ufeffset", "\u0085"]) ∧
      damagedHistory.read path = .ok [0xff, 0x0d, 0x61] ∧
      ∃ saved events again eventsAgain,
        save damagedHistory path (["\ufffd", "a"].map plain) = (.ok (), events, saved) ∧
        (load saved path).1 = .ok ["\ufffd", "a"] ∧
        save saved path (["\ufffd", "a"].map plain) = (.ok (), eventsAgain, again) ∧
        again.read path = saved.read path := by
  intro path
  have there : damagedHistory.read path = .ok [0xff, 0x0d, 0x61] := rfl
  have writable : damagedHistory.IsWritable path := FileTree.isWritable_of_read there
  obtain ⟨store, _, reload⟩ := saved_history_loads damagedHistory path
  obtain ⟨saved, _, saves, _, loads⟩ := store writable boundaryEntries
  obtain ⟨loaded, kept, events, again, eventsAgain, loading, _, keeps, reloads, resaves, same⟩ :=
    reload _ there
  have known : loaded = ["\ufffd", "a"] := by
    have entries : entriesOf [0xff, 0x0d, 0x61] = ["\ufffd", "a"] := by decide +kernel
    rw [load_of_read there, entries] at loading
    exact (Except.ok.inj loading).symm
  subst known
  have storable : (boundaryEntries.filter fun (entry : String) => isStorable entry) =
      ["a\x0bb", "\x0c", "\u0085", " \u2028\u2029 ", "\ufeffset", "\u0085"] := by
    decide +kernel
  rw [storable] at loads
  exact ⟨writable, ⟨saved, by rw [saves], loads⟩, there, kept, events, again, eventsAgain, keeps,
    reloads, resaves, same⟩

end CommandShell.History
