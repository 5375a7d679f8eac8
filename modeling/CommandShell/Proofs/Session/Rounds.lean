/-
# The rounds of the conversation

A round asks for a line and answers it.  A conversation consists of rounds that are
passed, one after the other, and of its end: the session is found to have ended, the
input ends, or a round fails.  A round reads what comes next and nothing else, and
enters no line but the one it reads.
-/

import CommandShell.Proofs.Session.Closing

namespace CommandShell

/-- The line that is read, unless the reading fails. -/
def Reading.line? : Reading → Option Text
  | .line text => some text
  | .fails _ => none

namespace Session

open Act

/-! ## Parts that read no line -/

/-- No line is read and none is entered. -/
structure KeepsEntries (before after : Session) : Prop where
  entries : after.editor.entries = before.editor.entries
  readings : after.editor.readings = before.editor.readings

/-- No line is read, none is entered and no file is changed. -/
structure Confined (before after : Session) : Prop extends KeepsEntries before after where
  files : after.files = before.files

instance : IsPreorder Session KeepsEntries where
  refl _ := ⟨rfl, rfl⟩
  trans _ _ _ := by
    intro ab bc
    exact ⟨bc.entries.trans ab.entries, bc.readings.trans ab.readings⟩

instance : IsPreorder Session Confined where
  refl _ := ⟨⟨rfl, rfl⟩, rfl⟩
  trans _ _ _ := by
    intro ab bc
    exact ⟨trans_of KeepsEntries ab.toKeepsEntries bc.toKeepsEntries, bc.files.trans ab.files⟩

/-- A script reaches neither the editor nor the files. -/
theorem confined_onHost {α : Type} (act : HostM α) : Moves Confined (onHost act) := by
  intro session
  exact ⟨⟨rfl, rfl⟩, rfl⟩

theorem confined_emitAll (events : List Event) : Moves Confined (emitAll events) := by
  intro session
  exact ⟨⟨rfl, rfl⟩, rfl⟩

theorem confined_enter (target : Phase) : Moves Confined (enter target) := by
  intro session
  rw [perform_enter]
  split
  · exact ⟨⟨rfl, rfl⟩, rfl⟩
  · exact refl_of Confined session

theorem confined_scripts : KeptByScripts Confined where
  script _ := confined_onHost _
  file _ _ := confined_onHost _
  remark _ _ := confined_emitAll _

/-! ## Readings that are taken -/

/-- Readings are taken, and the storable lines among them are entered. -/
def Takes (consumed : List Reading) (before after : Session) : Prop :=
  before.editor.readings = consumed ++ after.editor.readings ∧
    after.editor.entries = before.editor.entries ++
      (consumed.filterMap Reading.line?).filter History.isStorable

theorem Takes.of_keepsEntries {before after : Session} (h : KeepsEntries before after) :
    Takes [] before after :=
  ⟨by simp [h.readings], by simp [h.entries]⟩

theorem Takes.trans {first second : List Reading} {a b c : Session} (hab : Takes first a b)
    (hbc : Takes second b c) : Takes (first ++ second) a c := by
  constructor
  · rw [hab.1, hbc.1, List.append_assoc]
  · rw [hbc.2, hab.2, List.filterMap_append, List.filter_append, List.append_assoc]

/-! ## A round -/

/-- The session once a line has been asked for. -/
def asking (session : Session) (prompt : String) : Session :=
  { session with
    host.log := session.host.log ++ (session.editor.opening ++ [.prompt prompt])
    editor := session.editor.asked }

@[simp] theorem entries_asking (session : Session) (prompt : String) :
    (session.asking prompt).editor.entries = session.editor.entries :=
  Editor.entries_asked _

@[simp] theorem readings_asking (session : Session) (prompt : String) :
    (session.asking prompt).editor.readings = session.editor.readings.tail :=
  Editor.readings_asked _

theorem perform_readLine (prompt : String) (session : Session) :
    (readLine prompt).perform session =
      (.ok (session.editor.readLine prompt).1, { session with
        host.log := session.host.log ++ (session.editor.readLine prompt).2.1
        editor := (session.editor.readLine prompt).2.2 }) :=
  rfl

theorem perform_readLine_eq (prompt : String) (session : Session) :
    (readLine prompt).perform session = (.ok session.editor.coming, session.asking prompt) := by
  rw [perform_readLine, Editor.readLine_eq]
  rfl

section Setup

variable (setup : Setup)

/-- Whatever becomes of the evaluation of a line, it enters and reads nothing. -/
theorem keepsEntries_attempt (line : Text) :
    Moves KeepsEntries (attempt setup line) := by
  have emitted (event : Event) : Moves KeepsEntries (emit event) :=
    (confined_emitAll [event]).mono Confined.toKeepsEntries
  have evaluated : Moves KeepsEntries (evaluate line) :=
    (confined_scripts.evaluate line).mono Confined.toKeepsEntries
  have logged (failure : Failure) : Moves KeepsEntries
      (onFiles (CrashLog.write setup.environment setup.stamp failure line)) := by
    intro session
    exact ⟨rfl, rfl⟩
  apply evaluated.tryCatch
  intro failure
  split
  · apply (logged failure).bind
    intro written
    split
    · exact emitted _
    · exact (emitted _).bind fun _ => emitted _
  · exact moves_throw _

/-- A line that has been answered is entered if it is storable, whatever its
evaluation came to. -/
theorem entries_of_answerLine {line : Text} {session after : Session}
    (h : (answerLine setup line).perform session = (.ok (), after)) :
    after.editor.readings = session.editor.readings ∧
      after.editor.entries =
        session.editor.entries ++ [line].filter History.isStorable := by
  rw [answerLine_eq] at h
  obtain ⟨_, between, attempted, entered⟩ := perform_bind_eq_ok h
  have kept := (keepsEntries_attempt setup line).of_perform attempted
  by_cases empty : line = ""
  · rw [if_pos empty] at entered
    cases entered
    subst empty
    exact ⟨kept.readings, by simp [kept.entries, History.isStorable]⟩
  · rw [if_neg empty] at entered
    obtain ⟨events, added⟩ := perform_addEntry line between
    rw [added] at entered
    cases entered
    exact ⟨by simp [kept.readings], by simp [kept.entries]⟩

/-- A line that was asked for is answered, if there is one. -/
def react : Answer → SessionM Unit
  | .line text => answerLine setup text
  | .failed failure => throw failure
  | .ended | .interrupted _ => return

/-- One round of the conversation. -/
def round : SessionM Unit :=
  readLine (Config.prompt setup.config) >>= react setup

theorem perform_round (session : Session) :
    (round setup).perform session =
      (react setup session.editor.coming).perform
        (session.asking (Config.prompt setup.config)) :=
  perform_bind_of_ok (perform_readLine_eq _ session) (react setup)

theorem perform_round_of_ended {session : Session} (asked : session.editor.coming = .ended) :
    (round setup).perform session =
      (.ok (), session.asking (Config.prompt setup.config)) := by
  rw [perform_round, asked]
  rfl

/-- A round that is passed takes the next reading. -/
theorem takes_of_round {session after : Session}
    (passed : (round setup).perform session = (.ok (), after)) :
    Takes (session.editor.readings.take 1) session after := by
  rw [perform_round] at passed
  rcases next : session.editor.readings with _ | ⟨reading, later⟩ <;>
    rw [Editor.coming, next] at passed
  · cases passed
    exact ⟨by simp [next], by simp⟩
  · have rest : (session.asking (Config.prompt setup.config)).editor.readings = later := by
      simp [next]
    have taken (silent : reading.line? = none) :
        Takes [reading] session (session.asking (Config.prompt setup.config)) :=
      ⟨by simp [rest, next], by simp [silent]⟩
    rw [List.take_succ_cons, List.take_zero]
    cases reading with
    | line text =>
        obtain ⟨read, entered⟩ := entries_of_answerLine setup passed
        rw [entries_asking] at entered
        exact ⟨by simp [read, rest, next], entered⟩
    | fails failure =>
        cases failure <;> cases passed <;> exact taken rfl

/-- A round that is passed before the input ends takes the first reading. -/
theorem exists_reading_of_round {session after : Session}
    (asked : session.editor.coming ≠ .ended)
    (passed : (round setup).perform session = (.ok (), after)) :
    ∃ reading, session.editor.readings = reading :: after.editor.readings ∧
      session.editor.coming = reading.answer := by
  obtain ⟨taken, _⟩ := takes_of_round setup passed
  rw [Editor.coming] at asked ⊢
  rcases next : session.editor.readings with _ | ⟨reading, later⟩
  · simp [next] at asked
  · rw [next] at taken
    exact ⟨reading, taken, rfl⟩

/-! ## Rounds after rounds -/

/-- Rounds are passed: each starts from a session that has not ended, where the input
has not ended either, and leads to where the next one starts. -/
inductive Passes : Session → List Session → Session → Prop
  | stay (session : Session) : Passes session [] session
  | pass {session between last : Session} {rounds : List Session}
      (running : session.host.terminated = false) (asked : session.editor.coming ≠ .ended)
      (passed : (round setup).perform session = (.ok (), between))
      (rest : Passes between rounds last) : Passes session (session :: rounds) last

/-- Each of the rounds takes one reading. -/
theorem Passes.takes {session last : Session} {rounds : List Session}
    (passes : Passes setup session rounds last) :
    Takes (session.editor.readings.take rounds.length) session last := by
  induction passes with
  | stay session => exact Takes.of_keepsEntries (refl_of KeepsEntries session)
  | pass running asked passed rest ih =>
      next session between last rounds =>
      have first := takes_of_round setup passed
      have later : session.editor.readings.drop 1 = between.editor.readings :=
        List.append_cancel_left ((List.take_append_drop 1 _).trans first.1)
      rw [List.length_cons, Nat.add_comm, List.take_add, later]
      exact first.trans ih

/-- The end of a conversation. -/
inductive Ends : Session → Except Failure Unit → Session → Prop
  /-- The session has ended. -/
  | halt {session : Session} (ended : session.host.terminated = true) :
      Ends session (.ok ()) session
  /-- The input ends. -/
  | leave {session : Session} (running : session.host.terminated = false)
      (asked : session.editor.coming = .ended) :
      Ends session (.ok ()) (session.asking (Config.prompt setup.config))
  /-- A round fails. -/
  | fail {session last : Session} {failure : Failure} (running : session.host.terminated = false)
      (failed : (round setup).perform session = (.error failure, last)) :
      Ends session (.error failure) last

/-- A conversation that goes on and meets the end of the input has asked once more. -/
theorem perform_converse_of_ended {readings : List Reading} {session : Session}
    (running : session.host.terminated = false) (asked : session.editor.coming = .ended) :
    (converse setup (Config.prompt setup.config) readings).perform session =
      (.ok (), session.asking (Config.prompt setup.config)) := by
  cases readings with
  | nil =>
      rw [converse_nil, perform_unlessTerminated, running, if_neg Bool.false_ne_true,
        perform_discard, perform_readLine_eq]
  | cons reading later =>
      rw [converse_cons, perform_unlessTerminated, running, if_neg Bool.false_ne_true,
        perform_bind_of_ok (perform_readLine_eq _ session), asked]
      rfl

/-- Else it is a round, and then the conversation over what is left. -/
theorem perform_converse_of_ne_ended {reading : Reading} {later : List Reading}
    {session : Session} (running : session.host.terminated = false)
    (asked : session.editor.coming ≠ .ended) :
    (converse setup (Config.prompt setup.config) (reading :: later)).perform session =
      (do round setup; converse setup (Config.prompt setup.config) later).perform session := by
  have requested := perform_readLine_eq (Config.prompt setup.config) session
  rw [converse_cons, perform_unlessTerminated, running, if_neg Bool.false_ne_true,
    perform_bind_of_ok requested, round, bind_assoc, perform_bind_of_ok requested]
  cases answer : session.editor.coming with
  | ended => exact absurd answer asked
  | line text => rfl
  | interrupted message => rfl
  | failed failure => rfl

/-- A conversation that meets the end of the input is over, if it was not before. -/
theorem exists_passes_of_ended {readings : List Reading} {session : Session}
    (asked : session.editor.coming = .ended) :
    let ended := (converse setup (Config.prompt setup.config) readings).perform session
    ∃ rounds last, Passes setup session rounds last ∧ Ends setup last ended.1 ended.2 := by
  cases running : session.host.terminated with
  | true =>
      rw [perform_converse_of_terminated setup _ readings running]
      exact ⟨[], session, .stay session, .halt running⟩
  | false =>
      rw [perform_converse_of_ended setup running asked]
      exact ⟨[], session, .stay session, .leave running asked⟩

/-- A conversation passes rounds and comes to an end. -/
theorem exists_passes_of_converse {readings : List Reading} {session : Session}
    (coming : session.editor.readings = readings) :
    let ended := (converse setup (Config.prompt setup.config) readings).perform session
    ∃ rounds last, Passes setup session rounds last ∧ Ends setup last ended.1 ended.2 := by
  induction readings generalizing session with
  | nil =>
      have asked : session.editor.coming = .ended := by
        rw [Editor.coming, coming, Reading.next_nil]
      exact exists_passes_of_ended setup asked
  | cons reading later ih =>
      by_cases asked : session.editor.coming = .ended
      · exact exists_passes_of_ended setup asked
      cases running : session.host.terminated with
      | true =>
          rw [perform_converse_of_terminated setup _ _ running]
          exact ⟨[], session, .stay session, .halt running⟩
      | false =>
          rw [perform_converse_of_ne_ended setup running asked, perform_bind]
          rcases passed : (round setup).perform session with ⟨failure | ⟨⟩, between⟩
          · exact ⟨[], session, .stay session, .fail running passed⟩
          · obtain ⟨_, readings, _⟩ := exists_reading_of_round setup asked passed
            rw [coming] at readings
            obtain ⟨rounds, last, passes, ends⟩ := ih (List.cons.inj readings).2.symm
            exact ⟨_, last, .pass running asked passed passes, ends⟩

end Setup

end Session

end CommandShell
