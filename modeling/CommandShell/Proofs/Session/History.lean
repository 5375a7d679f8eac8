/-
# What a session remembers

The history file of a session that has come to its end holds the entries that it
held before, and after them the lines that the user has entered, in order and as
often as they were entered.  A script cannot reach the editor or the files, so
what a line does when it is evaluated makes no difference; nor do the scripts
that come from elsewhere.
-/

import CommandShell.Proofs.History
import CommandShell.Proofs.Session.Exit
import CommandShell.Proofs.Session.Rounds

namespace CommandShell

namespace Session

open Act

section Setup

variable (setup : Setup)

theorem confined_applyThreadHint : Moves Confined (applyThreadHint setup) := by
  rw [applyThreadHint]
  split
  · exact moves_pure _
  · refine moves_get.bind fun session => ?_
    apply (confined_emitAll _).bind
    intro _
    apply Moves.bind (R := Confined)
    · exact moves_modify fun _ => ⟨⟨rfl, rfl⟩, rfl⟩
    · intro _
      exact moves_pure _
  · exact (confined_emitAll _).bind fun _ => moves_pure _
  · exact moves_throw _

theorem confined_prepare : Moves Confined (prepare setup) := by
  apply (confined_applyThreadHint setup).discard.bind
  intro _
  apply (confined_onHost _).bind
  intro _
  apply Moves.bind (R := Confined)
  · exact moves_modify fun _ => ⟨⟨by simp, by simp⟩, rfl⟩
  · intro _
    exact (confined_onHost _).bind fun _ => confined_onHost _

theorem confined_bootstrap : Moves Confined (bootstrap setup) := by
  rw [bootstrap_eq]
  apply (confined_enter _).bind
  intro _
  exact (confined_scripts.startUp setup).bind fun _ => confined_scripts.runInitFile setup

/-! ## The conversation -/

theorem takes_converse {readings : List Reading} {session after : Session}
    (coming : session.editor.readings = readings)
    (h : (converse setup (Config.prompt setup.config) readings).perform session =
      (.ok (), after)) :
    ∃ consumed, Takes consumed session after := by
  obtain ⟨rounds, last, passes, ends⟩ := exists_passes_of_converse setup coming
  rw [h] at ends
  have taken := passes.takes setup
  cases ends with
  | halt ended => exact ⟨_, taken⟩
  | leave running asked =>
      exact ⟨_, taken.trans (takes_of_round setup (perform_round_of_ended setup asked))⟩

/-! ## The whole session -/

/-- A session up to its conversation. -/
def untilPrompt : SessionM Unit := do
  start setup
  bootstrap setup
  runOneShots setup

theorem untilPrompt_eq :
    untilPrompt setup = (do
      beginning setup
      runInitFile setup
      runOneShots setup) := by
  simp only [untilPrompt, bootstrap_eq, beginning, bind_assoc]

theorem run_eq_untilPrompt :
    run setup = (do
      untilPrompt setup
      interact setup
      shutdown setup) := by
  simp only [run, untilPrompt, bind_assoc]

/-- Before the conversation no line is read and no file is changed. -/
theorem confined_untilPrompt : Moves Confined (untilPrompt setup) := by
  apply (moves_start (confined_prepare setup) (confined_enter _)).bind
  intro _
  exact (confined_bootstrap setup).bind fun _ => confined_scripts.runOneShots setup

/-- A session up to the save of its history. -/
def untilSave : SessionM Unit := do
  start setup
  bootstrap setup
  runOneShots setup
  interact setup

theorem run_eq_untilSave : run setup = (do untilSave setup; shutdown setup) := by
  simp only [run, untilSave, bind_assoc]

theorem entries_of_takeUpHistory {session after : Session}
    (h : (takeUpHistory setup).perform session = (.ok (), after)) :
    ∃ loaded, (History.load session.files (Config.historyPath setup.config)).1 = .ok loaded ∧
      after.editor.readings = session.editor.readings ∧
      after.editor.entries = session.editor.entries ++ loaded.map .plain := by
  cases loading : (History.load session.files (Config.historyPath setup.config)).1 with
  | error failure =>
      rw [takeUpHistory, perform_bind_of_ok (perform_get session),
        perform_bind_of_ok (perform_emitAll _ session), loading] at h
      cases h
  | ok loaded =>
      obtain ⟨events, takenUp⟩ := perform_takeUpHistory setup session loading
      rw [takenUp, History.filter_of_load loading] at h
      cases h
      exact ⟨loaded, rfl, readings_taking _ _ _, entries_taking _ _ _⟩

/-- What has been entered by the time the history is saved: what was loaded, and
then what was read. -/
theorem entries_of_untilSave {session talked : Session} (blank : session.editor.entries = [])
    (h : (untilSave setup).perform session = (.ok (), talked)) :
    ∃ loaded consumed,
      (History.load session.files (Config.historyPath setup.config)).1 = .ok loaded ∧
      session.editor.readings = consumed ++ talked.editor.readings ∧
      talked.editor.entries =
        loaded.map .plain ++
          (consumed.filterMap Reading.line?).filter History.isStorable := by
  have parts : untilSave setup = (do untilPrompt setup; interact setup) := by
    simp only [untilSave, untilPrompt, bind_assoc]
  rw [parts, interact_eq] at h
  obtain ⟨_, ready, begun, h⟩ := perform_bind_eq_ok h
  obtain ⟨_, entered, enter, h⟩ := perform_bind_eq_ok h
  obtain ⟨_, takenUp, takeUp, h⟩ := perform_bind_eq_ok h
  have before : Confined session entered :=
    trans_of Confined ((confined_untilPrompt setup).of_perform begun)
      ((confined_enter _).of_perform enter)
  obtain ⟨loaded, loading, readings, entries⟩ := entries_of_takeUpHistory setup takeUp
  obtain ⟨consumed, reads, enters⟩ := takes_converse setup rfl h
  refine ⟨loaded, consumed, ?_, ?_, ?_⟩
  · rw [← before.files, loading]
  · rw [← before.readings, ← readings, reads]
  · rw [enters, entries, before.entries, blank, List.nil_append]

theorem files_of_shutdown {session final : Session} {events : List Event} {saved : FileTree}
    (h : (shutdown setup).perform session = (.ok (), final))
    (saves : History.save session.files (Config.historyPath setup.config)
      session.editor.entries = (.ok (), events, saved)) :
    final.files = saved ∧ final.editor.readings = session.editor.readings := by
  obtain ⟨_, entered, enter, h⟩ := perform_bind_eq_ok h
  have toEntered := (confined_enter _).of_perform enter
  rw [← toEntered.files, ← toEntered.entries] at saves
  rw [perform_bind_of_ok (perform_saveHistory_of_saved setup saves)] at h
  have closing : Moves Confined (do
      onHost Evaluator.release
      Session.enter .done) :=
    (confined_onHost _).bind fun _ => confined_enter _
  have toFinal := closing.of_perform h
  refine ⟨toFinal.files, toFinal.readings.trans ?_⟩
  exact (readings_taking entered events []).trans toEntered.readings

/-- What a save that succeeds has written is what was loaded and read. -/
theorem exists_read_of_saved {session talked final : Session}
    (blank : session.editor.entries = [])
    (talks : (untilSave setup).perform session = (.ok (), talked))
    (closes : (shutdown setup).perform talked = (.ok (), final))
    (saves : (History.save talked.files (Config.historyPath setup.config)
      talked.editor.entries).1 = .ok ()) :
    ∃ (loaded : List String) (consumed : List Reading) (kept : List String),
      (History.load session.files (Config.historyPath setup.config)).1 = .ok loaded ∧
      session.editor.readings = consumed ++ final.editor.readings ∧
      (consumed.filterMap Reading.line?).filter History.isStorable = kept.map .plain ∧
      final.files.read (Config.historyPath setup.config) =
        .ok (String.join ((loaded ++ kept).map (· ++ "\n"))).toUTF8.data.toList := by
  obtain ⟨loaded, consumed, loading, reads, entries⟩ := entries_of_untilSave setup blank talks
  obtain ⟨strings, written, _, _, holds, _⟩ := History.exists_strings_of_save saves
  obtain ⟨finalFiles, finalReadings⟩ := files_of_shutdown setup closes (Prod.ext saves rfl)
  -- The loaded entries are strings, so those of the lines are the rest of the strings.
  rw [entries, List.filter_append, History.filter_of_load loading, List.filter_filter] at written
  simp only [Bool.and_self] at written
  obtain ⟨known, kept, rfl, front, back⟩ := List.append_eq_map_iff.mp written
  obtain rfl : known = loaded :=
    (List.map_inj_right fun _ _ => Text.plain.inj).mp front
  refine ⟨known, consumed, kept, loading, by rw [finalReadings, reads], back.symm, ?_⟩
  rw [finalFiles, holds]

/-- **A session remembers what it knew and what it was told.**  Let a run of a fresh
session succeed, and the save of its history too.  Then the history file holds, as
UTF-8, the entries that were loaded from it, followed by the storable ones among the
lines that were read, in order and with repetitions, each with a line feed behind it,
and nothing else: no command of the launch, no line of a sourced file, and nothing
that an evaluation might add or take away.  The readings that the conversation has
left unread are those that the editor still holds. -/
theorem history_file_of_run (table : ScriptTable) (engine : Engine) (kind : EditorKind)
    (completesWhileTyping : Bool) (readings : List Reading) (files : FileTree)
    {final : Session} :
    let path := Config.historyPath setup.config
    let session := fresh table engine (.fresh kind completesWhileTyping readings) files
    let talked := ((untilSave setup).perform session).2
    (run setup).perform session = (.ok (), final) →
    (History.save talked.files path talked.editor.entries).1 = .ok () →
    ∃ (loaded : List String) (consumed : List Reading) (kept : List String),
      (History.load files path).1 = .ok loaded ∧
      readings = consumed ++ final.editor.readings ∧
      (consumed.filterMap Reading.line?).filter History.isStorable = kept.map .plain ∧
      final.files.read path =
        .ok (String.join ((loaded ++ kept).map (· ++ "\n"))).toUTF8.data.toList := by
  intro path session talked returns saves
  rw [run_eq_untilSave] at returns
  obtain ⟨_, between, talks, closes⟩ := perform_bind_eq_ok returns
  have same : talked = between := congrArg Prod.snd talks
  rw [same] at saves
  have blank : session.editor.entries = [] := Editor.entries_fresh _ _ _
  have reads : session.editor.readings = readings := Editor.readings_fresh _ _ _
  obtain ⟨loaded, consumed, kept, loading, taken, lines, holds⟩ :=
    exists_read_of_saved setup blank talks closes saves
  exact ⟨loaded, consumed, kept, loading, reads.symm.trans taken, lines, holds⟩

end Setup

def sampleFiles : FileTree where
  nodes := [([".history_sta"], .file "old\n".toUTF8.data.toList)]

/-- The user interrupts, enters nothing, and leaves before the last line. -/
def sampleReadings : List Reading :=
  [.line "go on", .fails (.interrupt ""), .line "", .line "leave", .line "unread"]

theorem history_file_of_run_sample :
    let session := fresh sampleTable sampleEngine (.fresh .rich false sampleReadings) sampleFiles
    let final := ((run sampleSetup).perform session).2
    (run sampleSetup).perform session = (.ok (), final) ∧
      ∃ (loaded : List String) (consumed : List Reading) (kept : List String),
        (History.load sampleFiles (Config.historyPath sampleSetup.config)).1 = .ok loaded ∧
        sampleReadings = consumed ++ final.editor.readings ∧
        (consumed.filterMap Reading.line?).filter History.isStorable = kept.map .plain ∧
        final.files.read (Config.historyPath sampleSetup.config) =
          .ok (String.join ((loaded ++ kept).map (· ++ "\n"))).toUTF8.data.toList := by
  have returns := @perform_eq_of_isOk _ (run sampleSetup)
    (fresh sampleTable sampleEngine (.fresh .rich false sampleReadings) sampleFiles)
    (by decide +kernel)
  obtain ⟨⟨⟩, saves⟩ := @exists_eq_ok _ (History.save
    ((untilSave sampleSetup).perform (fresh sampleTable sampleEngine
      (.fresh .rich false sampleReadings) sampleFiles)).2.files
    (Config.historyPath sampleSetup.config)
    ((untilSave sampleSetup).perform (fresh sampleTable sampleEngine
      (.fresh .rich false sampleReadings) sampleFiles)).2.editor.entries).1
    (by decide +kernel)
  exact ⟨returns, history_file_of_run sampleSetup sampleTable sampleEngine .rich false
    sampleReadings sampleFiles returns saves⟩

end Session

end CommandShell
