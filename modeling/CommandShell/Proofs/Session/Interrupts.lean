/-
# Conversations that are cut short

A conversation survives ordinary failures only.  An interrupt that meets a request for
a line is passed over, but one that is raised while a line is evaluated passes through
the conversation and through the run.  The session is left as it is then: it is still in
conversation, the history has not been saved and the interpreter has not been released.
Nothing else cuts a conversation short that reads what is usual.  A conversation that comes
to its end is followed by the end of the session, unless a line without an encoding is to
be saved.
-/

import CommandShell.Proofs.Session.Conversation
import CommandShell.Proofs.Session.Shutdown

namespace CommandShell.Session

open Act

variable (setup : Setup)

theorem phase_of_untilPrompt {session ready : Session}
    (h : (untilPrompt setup).perform session = (.ok (), ready)) :
    ready.phase = .bootstrapping := by
  rw [untilPrompt_eq] at h
  obtain ⟨_, begun, beginning, h⟩ := perform_bind_eq_ok h
  obtain ⟨_, initialized, initializing, shooting⟩ := perform_bind_eq_ok h
  have kept := (stays_scripts.runInitFile setup).of_perform initializing
  have kept' := (stays_scripts.runOneShots setup).of_perform shooting
  exact kept'.1.trans (kept.1.trans (phase_of_beginning setup beginning))

/-- Whatever the conversation comes to, the session stays in it. -/
theorem phase_perform_interact {session : Session} (ready : session.phase = .bootstrapping) :
    ((interact setup).perform session).2.phase = .interactive := by
  rw [perform_interact_of_bootstrapping setup ready]
  exact (keeps_talk setup (session.entering .interactive)).1

/-- **A conversation is cut short by what it does not survive, and by nothing else.**
Let a session have come to its conversation, with a history that can be taken up and
readings that are usual.  Rounds are passed, and the lines that they read are entered
if they are storable.  Then there are three ends.

The session is found to have ended, or the input ends, and then the run saves what was
loaded and entered.  If the history can be written and all of it are strings, or if it
cannot be written, the run succeeds: the session is done, the interpreter is released, and
a history that can be written holds all that was loaded and entered.  Otherwise the run
raises the failure of the first line without an encoding: the session stays in the phase
before the last, with its interpreter, and the history holds what stood before that line.

Or else the line of the next round raises a failure that is not survived.  The run
raises the same failure and leaves the session as the evaluation has left it: in
conversation, with an interpreter that has lost commands at most, and with no history
saved.  No file has been changed then but by earlier failures. -/
theorem run_of_untilPrompt (table : ScriptTable) (engine : Engine) (kind : EditorKind)
    (completesWhileTyping : Bool) (readings : List Reading) (files : FileTree) {ready : Session}
    {loaded : List String} :
    let path := Config.historyPath setup.config
    let session := fresh table engine (.fresh kind completesWhileTyping readings) files
    let ended := (run setup).perform session
    (untilPrompt setup).perform session = (.ok (), ready) →
    (History.load files path).1 = .ok loaded →
    (∀ reading ∈ readings, reading.isUsual = true) →
    ∃ talking rounds last,
      (takeUpHistory setup).perform (ready.entering .interactive) = (.ok (), talking) ∧
      Passes setup talking rounds last ∧
      last.editor.entries = loaded.map .plain ++
        ((readings.take rounds.length).filterMap Reading.line?).filter History.isStorable ∧
      ((∃ talked, Ends setup last (.ok ()) talked ∧ IsEnded ended ∧
          (last.files.IsWritable path → ∃ strings : List String,
            last.editor.entries = strings.map .plain ∧
              History.Rewritten path strings last.files ended.2.files)) ∨
        (∃ talked, Ends setup last (.ok ()) talked ∧
          ∃ (strings : List String) (text : Text) (later : List Text) (fault : EncodingFault),
            last.editor.entries = strings.map .plain ++ text :: later ∧
            text.encode = .error fault ∧ ended.1 = .error (.unencodable fault) ∧
            ended.2.phase = .terminating ∧
            Host.Shrinks ready.host.interpreter ended.2.host.interpreter ∧
            History.Rewritten path strings last.files ended.2.files) ∨
        ∃ failure line, last.host.terminated = false ∧
          raised setup last = some (failure, line) ∧ failure.isOrdinary = false ∧
          let left := evaluated setup last
          ended = (.error failure, left) ∧ left.phase = .interactive ∧
            left.editor.entries = last.editor.entries ∧
            Host.Shrinks ready.host.interpreter left.host.interpreter ∧
            left.files = last.files ∧
            ((∀ round ∈ rounds, raised setup round = none) → left.files = files)) := by
  intro path session ended begun loads usual
  have before := (confined_untilPrompt setup).of_perform begun
  have phase := phase_of_untilPrompt setup begun
  have loadsReady : (History.load ready.files path).1 = .ok loaded := by
    rw [before.files]
    exact loads
  obtain ⟨talking, rounds, last, takenUp, reads, entries, sameFiles, passes, ends⟩ :=
    exists_passes_of_interact setup phase loadsReady
  have readsAll : talking.editor.readings = readings := by
    rw [reads, before.readings]
    exact Editor.readings_fresh _ _ _
  have entered : last.editor.entries = loaded.map .plain ++
      ((readings.take rounds.length).filterMap Reading.line?).filter History.isStorable := by
    have blank : session.editor.entries = [] := Editor.entries_fresh _ _ _
    rw [(passes.takes setup).2, entries, before.entries, blank, List.nil_append, readsAll]
  have storable : last.editor.entries.filter History.isStorable = last.editor.entries := by
    rw [entered, List.filter_append, History.filter_of_load loads, List.filter_filter]
    simp only [Bool.and_self]
  have shrinks : Host.Shrinks ready.host.interpreter last.host.interpreter := by
    have remarks := (remarks_takeUpHistory setup).of_perform takenUp
    have shrinks := passes.shrinks
    rwa [remarks.interpreter] at shrinks
  have ran : ended = (do interact setup; shutdown setup : SessionM Unit).perform ready := by
    rw [show ended = (run setup).perform session from rfl, run_eq_untilPrompt,
      perform_bind_of_ok begun]
  have stays := phase_perform_interact setup phase
  rcases performed : (interact setup).perform ready with ⟨result, talked⟩
  rw [performed] at ends stays
  refine ⟨talking, rounds, last, takenUp, passes, entered, ?_⟩
  rcases result with failure | ⟨⟩
  · right; right
    have usualLeft : ∀ reading ∈ last.editor.readings, reading.isUsual = true := by
      intro reading isLeft
      exact usual reading (readsAll ▸ passes.mem_readings isLeft)
    obtain ⟨line, running, raises, stops, rfl⟩ := ends.exists_raised usualLeft
    obtain ⟨sameEntries, unchanged⟩ := keeps_evaluated setup last
    refine ⟨failure, line, running, raises, stops, ?_, stays, sameEntries,
      shrinks.trans (shrinks_evaluated setup last), unchanged, fun quiet => ?_⟩
    · rw [ran, perform_bind_of_error performed]
    · rw [unchanged, passes.files_eq quiet, sameFiles, before.files]
      rfl
  · obtain ⟨sameEntries, unchanged⟩ := ends.keeps
    rw [ran, perform_bind_of_ok performed]
    rw [← sameEntries] at storable
    have noNul := History.hasNul_of_load loads
    rcases shutdown_cases stays noNul storable with
      ⟨isEnded, saved⟩ | ⟨strings, text, later, fault, met, broken, raises, terminating, held, left⟩
    · exact .inl ⟨talked, ends, isEnded, unchanged ▸ sameEntries ▸ saved⟩
    · refine .inr (.inl ⟨talked, ends, strings, text, later, fault, sameEntries ▸ met, broken,
        raises, terminating, ?_, unchanged ▸ left⟩)
      rw [held, ends.interpreter_eq]
      exact shrinks

/-- A script that is interrupted while it is evaluated. -/
def interruptedTable : ScriptTable where
  scripts := [("hang", [.raise (.interrupt "")])]

/-- The user enters a line to be kept, and then one that hangs. -/
def hanging : Session :=
  fresh interruptedTable sampleEngine (sampleEditor ["keep", "hang"]) {}

theorem run_of_untilPrompt_hanging :
    ∃ ready loaded, (untilPrompt sampleSetup).perform hanging = (.ok (), ready) ∧
      (History.load hanging.files (Config.historyPath sampleSetup.config)).1 = .ok loaded ∧
      (∀ reading ∈ hanging.editor.readings, reading.isUsual = true) ∧
      ∃ failure left, (run sampleSetup).perform hanging = (.error failure, left) ∧
        failure.isOrdinary = false ∧ left.phase = .interactive := by
  have begun := @perform_eq_of_isOk _ (untilPrompt sampleSetup) hanging (by decide +kernel)
  obtain ⟨loaded, loads⟩ := @exists_eq_ok _
    (History.load hanging.files (Config.historyPath sampleSetup.config)).1 (by decide +kernel)
  have usual : ∀ reading ∈ hanging.editor.readings, reading.isUsual = true := by decide +kernel
  have phase : ((run sampleSetup).perform hanging).2.phase = .interactive := by decide +kernel
  refine ⟨_, loaded, begun, loads, usual, ?_⟩
  obtain ⟨_, _, last, _, _, _,
      finished | stopped | ⟨failure, _, _, _, stops, raised, talking, _⟩⟩ :=
    run_of_untilPrompt sampleSetup interruptedTable sampleEngine .plain false
      [.line "keep", .line "hang"] {} begun loads usual
  · obtain ⟨_, _, ⟨_, done, _⟩, _⟩ := finished
    cases phase.symm.trans done
  · obtain ⟨_, _, _, _, _, _, _, _, _, terminating, _⟩ := stopped
    cases phase.symm.trans terminating
  · exact ⟨failure, _, raised, stops, talking⟩

/-- The history is lost although it could be read and written: what was entered before
the interrupt is in no file, and the session is not done. -/
theorem interrupt_loses_history :
    let path := Config.historyPath sampleSetup.config
    let ended := (run sampleSetup).perform hanging
    ((untilPrompt sampleSetup).perform hanging).1.isOk = true ∧
      (History.load hanging.files path).1.isOk = true ∧
      (History.save hanging.files path [.plain "keep", .plain "hang"]).1.isOk = true ∧
      ended.1.isOk = false ∧ ended.2.phase = .interactive ∧
      ended.2.host.interpreter.isSome = true ∧
      ended.2.editor.entries = [.plain "keep"] ∧ ended.2.files.nodes = [] := by
  decide +kernel

end CommandShell.Session
