/-
# Around the conversation

Before the conversation the entries of the history file are taken up; after it
they are saved and the interpreter is released.  A fault of the file system counts as no
entries when loading, and is only warned of when saving; anything else that is met on the
way is a failure.
-/

import CommandShell.Proofs.Evaluator.Release
import CommandShell.Proofs.Session.Phases

namespace CommandShell

namespace History

variable {files : FileTree} {path : Path}

/-- Loading fails for a path that holds U+0000, and for nothing else. -/
theorem load_eq_error_iff {failure : Failure} :
    (load files path).1 = .error failure ↔
      path.hasNul = true ∧ failure = .file .nulInPath := by
  rw [← FileTree.read_eq_nulInPath_iff files, load]
  split
  next bytes found => simp [found]
  next refused => simp [refused, eq_comm]
  next refusal other found =>
    have notNul : refusal ≠ .nulInPath := by
      rintro rfl
      exact other rfl
    simp [found, notNul]

theorem hasNul_of_load {loaded : List String} (loads : (load files path).1 = .ok loaded) :
    path.hasNul = false := by
  cases nul : path.hasNul with
  | false => rfl
  | true =>
      have refused : (load files path).1 = .error (.file .nulInPath) :=
        load_eq_error_iff.mpr ⟨nul, rfl⟩
      rw [loads] at refused
      cases refused

theorem saveMessage_mem_save (entries : List Text) :
    .output saveMessage ∈ (save files path entries).2.1 := by
  rw [save]
  split <;> simp

end History

open Act

namespace Session

/-- The session with more events on record and more lines entered. -/
def taking (session : Session) (events : List Event) (lines : List Text) : Session :=
  { session with
    host.log := session.host.log ++ events
    editor := session.editor.withEntries (session.editor.entries ++ lines) }

@[simp] theorem entries_taking (session : Session) (events : List Event) (lines : List Text) :
    (session.taking events lines).editor.entries = session.editor.entries ++ lines :=
  Editor.entries_withEntries _ _

@[simp] theorem readings_taking (session : Session) (events : List Event) (lines : List Text) :
    (session.taking events lines).editor.readings = session.editor.readings :=
  Editor.readings_withEntries _ _

theorem taking_taking (session : Session) (first second : List Event)
    (lines others : List Text) :
    (session.taking first lines).taking second others =
      session.taking (first ++ second) (lines ++ others) := by
  simp [taking]

theorem perform_emitAll (events : List Event) (session : Session) :
    (emitAll events).perform session = (.ok (), session.taking events []) := by
  simp [emitAll, taking]

theorem perform_addEntry (line : Text) (session : Session) :
    ∃ events, (addEntry line).perform session =
      (.ok (), session.taking events ([line].filter History.isStorable)) := by
  refine ⟨(session.editor.addEntry line).2, ?_⟩
  rw [taking, ← Editor.addEntry_eq]
  rfl

theorem perform_addEntries (lines : List String) (session : Session) :
    ∃ events, (lines.forM fun line => addEntry line).perform session =
      (.ok (), session.taking events ((lines.map .plain).filter History.isStorable)) := by
  induction lines generalizing session with
  | nil => exact ⟨[], by simp [taking]⟩
  | cons line rest ih =>
      obtain ⟨first, added⟩ := perform_addEntry line session
      obtain ⟨second, others⟩ :=
        ih (session.taking first ([Text.plain line].filter History.isStorable))
      refine ⟨first ++ second, ((perform_bind_of_ok added _).trans others).trans ?_⟩
      rw [taking_taking, ← List.filter_append, List.map_cons, List.singleton_append]

section Setup

variable (setup : Setup)

theorem perform_takeUpHistory (session : Session) {loaded : List String}
    (h : (History.load session.files (Config.historyPath setup.config)).1 = .ok loaded) :
    ∃ events, (takeUpHistory setup).perform session =
      (.ok (), session.taking events ((loaded.map .plain).filter History.isStorable)) := by
  let shown := (History.load session.files (Config.historyPath setup.config)).2
  obtain ⟨events, added⟩ := perform_addEntries loaded (session.taking shown [])
  rw [taking_taking, List.nil_append] at added
  refine ⟨shown ++ events, ?_⟩
  rw [takeUpHistory, perform_bind_of_ok (perform_get session),
    perform_bind_of_ok (perform_emitAll shown session), h]
  exact added

theorem perform_saveHistory (session : Session) :
    (saveHistory setup).perform session =
      (settleSave (History.save session.files (Config.historyPath setup.config)
        session.editor.entries).1).perform
        { session.taking (History.save session.files (Config.historyPath setup.config)
            session.editor.entries).2.1 [] with
          files := (History.save session.files (Config.historyPath setup.config)
            session.editor.entries).2.2 } := by
  rw [saveHistory_eq, perform_bind_of_ok (perform_get session),
    perform_bind_of_ok (perform_emitAll _ session), perform_bind_of_ok (perform_modify _ _)]

theorem perform_saveHistory_of_saved {session : Session} {events : List Event} {files : FileTree}
    (saves : History.save session.files (Config.historyPath setup.config)
      session.editor.entries = (.ok (), events, files)) :
    (saveHistory setup).perform session = (.ok (), { session.taking events [] with files }) := by
  rw [perform_saveHistory, saves]
  rfl

theorem perform_saveHistory_of_refused {session : Session} {error : SystemError} {place : Path}
    (refused : (History.save session.files (Config.historyPath setup.config)
      session.editor.entries).1 = .error (.file (.system error place))) :
    (saveHistory setup).perform session =
      (.ok (), session.taking [.output History.saveMessage,
          .errorLine ("Warning: could not save command history: " ++
            (Failure.file (.system error place)).message)] []) := by
  rw [perform_saveHistory, History.save_eq_of_refused refused]
  exact (perform_emitAll _ _).trans (by simp [taking])

theorem perform_saveHistory_of_fault {session : Session} {fault : EncodingFault}
    {events : List Event} {left : FileTree}
    (fails : History.save session.files (Config.historyPath setup.config)
      session.editor.entries = (.error (.unencodable fault), events, left)) :
    (saveHistory setup).perform session =
      (.error (.unencodable fault), { session.taking events [] with files := left }) := by
  rw [perform_saveHistory, fails]
  rfl

/-- The history is saved, or the user is warned. -/
theorem exists_perform_saveHistory (session : Session)
    (clean : History.SavesButForFaults session.files (Config.historyPath setup.config)
      session.editor.entries) :
    ∃ events after, (saveHistory setup).perform session = (.ok (), after) ∧
      after.host.log = session.host.log ++ events ∧ .output History.saveMessage ∈ events := by
  have shown : .output History.saveMessage ∈ (History.save session.files
      (Config.historyPath setup.config) session.editor.entries).2.1 :=
    History.saveMessage_mem_save _
  rcases saves : History.save session.files (Config.historyPath setup.config)
      session.editor.entries with ⟨failure | ⟨⟩, events, files⟩
  · obtain ⟨error, place, rfl⟩ := clean failure (by rw [saves])
    have warned := perform_saveHistory_of_refused setup (congrArg Prod.fst saves)
    exact ⟨_, _, warned, rfl, by simp⟩
  · rw [saves] at shown
    exact ⟨events, _, perform_saveHistory_of_saved setup saves, rfl, shown⟩

/-- Once the history is saved, or its loss is warned of, a session ends with removals and
the entry into the last phase. -/
theorem exists_perform_shutdown_of_saved {session saved : Session}
    (talking : session.phase = .interactive)
    (saving : (saveHistory setup).perform (session.entering .terminating) = (.ok (), saved)) :
    ∃ final removed, (shutdown setup).perform session = (.ok (), final) ∧ final.phase = .done ∧
      final.host.interpreter = none ∧ final.files = saved.files ∧
      final.host.log =
        saved.host.log ++ removed ++ [.diagnostic .shell (Phase.entryText .done)] ∧
      ∀ event ∈ removed, event.isRemoval = true := by
  have next : session.phase.precedes .terminating = true := by
    rw [talking]
    rfl
  have kept : saved.phase = .terminating := ((remarks_saveHistory setup).of_perform saving).phase
  obtain ⟨registered, removed, releasing, removals⟩ := Evaluator.exists_perform_release saved.host
  let released : Session := { saved with
    host := { saved.host with
      interpreter := none
      registered
      log := saved.host.log ++ removed } }
  have releasing' : (onHost Evaluator.release).perform saved = (.ok (), released) := by
    rw [onHost, perform_zoom, releasing]
  have last : released.phase.precedes .done = true := by
    rw [show released.phase = .terminating from kept]
    rfl
  refine ⟨released.entering .done, removed, ?_, rfl, rfl, rfl, rfl, removals⟩
  rw [shutdown, perform_bind_of_ok (perform_enter_of_precedes next), perform_bind_of_ok saving,
    perform_bind_of_ok releasing', perform_enter_of_precedes last]

/-- A save that meets a text without an encoding ends the session where it stands. -/
theorem perform_shutdown_of_fault {session : Session} (talking : session.phase = .interactive)
    {fault : EncodingFault} {events : List Event} {left : FileTree}
    (fails : History.save session.files (Config.historyPath setup.config)
      session.editor.entries = (.error (.unencodable fault), events, left)) :
    (shutdown setup).perform session = (.error (.unencodable fault),
      { (session.entering .terminating).taking events [] with files := left }) := by
  have next : session.phase.precedes .terminating = true := by
    rw [talking]
    rfl
  have failed : (saveHistory setup).perform (session.entering .terminating) = _ :=
    perform_saveHistory_of_fault setup fails
  rw [shutdown, perform_bind_of_ok (perform_enter_of_precedes next), perform_bind_of_error failed]

/-- After the conversation a session can be ended, if saving meets nothing but faults of the
file system. -/
theorem exists_perform_shutdown {session : Session} (talking : session.phase = .interactive)
    (clean : History.SavesButForFaults session.files (Config.historyPath setup.config)
      session.editor.entries) :
    ∃ final, (shutdown setup).perform session = (.ok (), final) ∧ final.phase = .done ∧
      final.host.interpreter = none ∧
      ∃ events, final.host.log = session.host.log ++ events ∧
        .output History.saveMessage ∈ events := by
  obtain ⟨events, saved, saving, log, shown⟩ :=
    exists_perform_saveHistory setup (session.entering .terminating) clean
  obtain ⟨final, removed, ended, phase, released, _, log', _⟩ :=
    exists_perform_shutdown_of_saved setup talking saving
  refine ⟨final, ended, phase, released, [.diagnostic .shell (Phase.entryText .terminating)] ++
    events ++ removed ++ [.diagnostic .shell (Phase.entryText .done)], ?_, by simp [shown]⟩
  rw [log', log]
  simp [entering]

end Setup

end Session

end CommandShell
