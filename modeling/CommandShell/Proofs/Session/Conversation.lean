/-
# The account of a conversation

Whatever the lines of a conversation do when they are evaluated, every reading is
accounted for.  A round shows the prompt once and takes one reading; a line that is
read is handed to the interpreter once, before the next prompt, and nothing but
remarks follows until the round is over.  A failure that the conversation survives is
recorded in the crash log with its line.  The rounds go on until the input ends or an
exit has been run, and no longer.
-/

import CommandShell.Proofs.Host.Failures
import CommandShell.Proofs.Session.Course

namespace CommandShell

namespace Reading

/-- A line, an interrupt or the end of the input. -/
def isUsual : Reading → Bool
  | .line _ | .fails (.interrupt _) | .fails (.endOfInput _) => true
  | .fails _ => false

def isInterrupt : Reading → Bool
  | .fails (.interrupt _) => true
  | _ => false

end Reading

namespace Editor

theorem mem_of_coming {editor : Editor} {line : Text} (read : editor.coming = .line line) :
    .line line ∈ editor.readings := by
  rw [coming] at read
  rcases next : editor.readings with _ | ⟨reading, later⟩ <;> rw [next] at read
  · cases read
  · cases reading with
    | line text =>
        cases read
        exact List.mem_cons_self
    | fails failure => cases failure <;> cases read

theorem coming_ne_failed {editor : Editor}
    (usual : ∀ reading ∈ editor.readings, reading.isUsual = true) (failure : Failure) :
    editor.coming ≠ .failed failure := by
  intro failed
  rw [coming] at failed
  rcases next : editor.readings with _ | ⟨reading, later⟩ <;> rw [next] at failed usual
  · cases failed
  · have first := usual reading List.mem_cons_self
    cases reading with
    | line text => cases failed
    | fails obstacle =>
        cases obstacle with
        | interrupt message => cases failed
        | endOfInput message => cases failed
        | _ => cases first

end Editor

open Act

/-- All prompts are demanded. -/
theorem Event.prompts_filter (events : List Event) :
    Event.prompts (events.filter (·.isDemand)) = Event.prompts events := by
  rw [Event.prompts, Event.prompts, List.filterMap_filter]
  congr
  funext event
  cases event <;> first | rfl | simp [Event.isDemand, Event.prompt?]

/-- What an evaluation records: the script is handed over, and then runs. -/
theorem Evaluator.exists_runs_evaluate (script : Text) (host : Host) :
    ∃ steps, Host.Runs
      { host with exiting := false, log := host.log ++ host.handing script } steps
      ((evaluate script).perform host).2 :=
  evaluates_evaluateCommand script { host with exiting := false }

theorem Host.handing_of_shrinks {host later : Host} (shrinks : Shrinks host.interpreter
    later.interpreter) (script : Text) : later.handing script = host.handing script := by
  have same : later.interpreter.isNone = host.interpreter.isNone := by
    rcases shrinks with ⟨before, after⟩ | ⟨_, _, before, after, _⟩ <;>
      simp [before, after]
  rw [handing, handing, same]

namespace Session

variable (setup : Setup)

/-! ## What a line comes to -/

/-- The failure that the evaluation of a line raises, with the line. -/
def raisedBy (line : Text) : Except Failure Outcome → Option (Failure × Text)
  | .ok _ => none
  | .error failure => some (failure, line)

/-- The files once a failure has been recorded in the crash log, if there is one. -/
def recorded (files : FileTree) : Option (Failure × Text) → FileTree
  | none => files
  | some (failure, line) =>
    ((CrashLog.write setup.environment setup.stamp failure line).perform files).2

/-- The entry of a line cannot fail. -/
theorem exists_perform_entry (line : Text) (session : Session) :
    ∃ after, (unless line = "" do addEntry line : SessionM Unit).perform session = (.ok (), after) ∧
      Remarks session after ∧ after.files = session.files := by
  have remarks : Moves Remarks (unless line = "" do addEntry line : SessionM Unit) := by
    split
    · exact moves_pure _
    · exact remarks_addEntry line
  by_cases empty : line = ""
  · exact ⟨session, by simp [empty], refl_of Remarks session, rfl⟩
  · obtain ⟨events, added⟩ := perform_addEntry line session
    have entered : (unless line = "" do addEntry line : SessionM Unit).perform session =
        (.ok (), session.taking events ([line].filter History.isStorable)) := by
      rw [if_neg empty, added]
    exact ⟨_, entered, remarks.of_perform entered, rfl⟩

/-- The attempt of a line that raises nothing, or what a conversation survives, comes
through.  Nothing but remarks follows the evaluation. -/
theorem exists_perform_attempt {line : Text} {session : Session}
    {answer : Except Failure Outcome} {host : Host}
    (evaluated : (Evaluator.evaluate line).perform session.host = (answer, host))
    (survived : ∀ failure, answer = .error failure → failure.isOrdinary = true) :
    ∃ after, (attempt setup line).perform session = (.ok (), after) ∧
      Remarks { session with host } after ∧
      after.files = recorded setup session.files (raisedBy line answer) := by
  rw [attempt, perform_tryCatch]
  cases answer with
  | ok outcome =>
      obtain ⟨after, reported, _⟩ := exists_perform_report outcome { session with host }
      have succeeded : (evaluate line).perform session = (.ok (), after) := by
        rw [evaluate, perform_bind_of_ok (perform_onHost evaluated), reported]
      have kept := (confined_scripts.report outcome).of_perform reported
      rw [succeeded]
      exact ⟨after, rfl, (remarks_report outcome).of_perform reported, kept.files⟩
  | error failure =>
      have ordinary := survived failure rfl
      rw [perform_evaluate_of_error evaluated]
      dsimp only
      rw [if_pos ordinary]
      obtain ⟨after, reported, _, files⟩ :=
        tells_reportCrash setup failure line { session with host }
      have remarks := (remarks_reportCrash setup failure line).of_perform reported
      exact ⟨after, reported, remarks, files⟩

/-- What comes through is answered: the entry of the line adds remarks only. -/
theorem exists_perform_answerLine {line : Text} {session : Session}
    {answer : Except Failure Outcome} {host : Host}
    (evaluated : (Evaluator.evaluate line).perform session.host = (answer, host))
    (survived : ∀ failure, answer = .error failure → failure.isOrdinary = true) :
    ∃ after, (answerLine setup line).perform session = (.ok (), after) ∧
      Remarks { session with host } after ∧
      after.files = recorded setup session.files (raisedBy line answer) := by
  obtain ⟨between, attempted, remarks, files⟩ :=
    exists_perform_attempt setup evaluated survived
  obtain ⟨after, entered, remarks', files'⟩ := exists_perform_entry line between
  refine ⟨after, ?_, trans_of Remarks remarks remarks', files'.trans files⟩
  rw [answerLine_eq, perform_bind_of_ok attempted, entered]

theorem perform_answerLine_of_not_isOrdinary {line : Text} {session : Session}
    {failure : Failure} {host : Host}
    (evaluated : (Evaluator.evaluate line).perform session.host = (.error failure, host))
    (stops : failure.isOrdinary = false) :
    (answerLine setup line).perform session = (.error failure, { session with host }) := by
  have attempted : (attempt setup line).perform session =
      (.error failure, { session with host }) := by
    rw [attempt, perform_tryCatch, perform_evaluate_of_error evaluated]
    simp [stops]
  rw [answerLine_eq, perform_bind_of_error attempted]

/-! ## What a round comes to -/

/-- The session in which the line that is read has been evaluated, if one is read. -/
def evaluated (session : Session) : Session :=
  let asked := session.asking (Config.prompt setup.config)
  match session.editor.coming with
  | .line line => { asked with host := ((Evaluator.evaluate line).perform asked.host).2 }
  | _ => asked

/-- The failure that the line of a round raises, with the line. -/
def raised (session : Session) : Option (Failure × Text) :=
  match session.editor.coming with
  | .line line =>
    raisedBy line ((Evaluator.evaluate line).perform
      (session.asking (Config.prompt setup.config)).host).1
  | _ => none

/-- The reading does not fail, and the conversation survives what the line raises. -/
structure Survives (session : Session) : Prop where
  reads : ∀ failure, session.editor.coming ≠ .failed failure
  ordinary : ∀ crash ∈ raised setup session, crash.1.isOrdinary = true

/-- A round that the conversation survives is passed: the prompt is shown, the line is
evaluated, its failure is recorded, and else there are remarks only. -/
theorem Survives.exists_perform_round {session : Session} (survives : Survives setup session) :
    ∃ after, (round setup).perform session = (.ok (), after) ∧
      Remarks (evaluated setup session) after ∧
      after.files = recorded setup session.files (raised setup session) := by
  obtain ⟨reads, ordinary⟩ := survives
  rw [perform_round]
  rw [raised] at ordinary ⊢
  rw [evaluated]
  cases coming : session.editor.coming with
  | line line =>
      simp only [coming] at ordinary
      refine exists_perform_answerLine setup rfl fun failure failed => ?_
      exact ordinary (failure, line) (by rw [failed]; rfl)
  | interrupted message => exact ⟨_, rfl, refl_of Remarks _, rfl⟩
  | ended => exact ⟨_, rfl, refl_of Remarks _, rfl⟩
  | failed failure => exact absurd coming (reads failure)

theorem evaluated_of_line {session : Session} {line : Text}
    (read : session.editor.coming = .line line) :
    let asked := session.asking (Config.prompt setup.config)
    evaluated setup session =
      { asked with host := ((Evaluator.evaluate line).perform asked.host).2 } := by
  rw [evaluated, read]

/-- An evaluation enters nothing and changes no file. -/
theorem keeps_evaluated (session : Session) :
    (evaluated setup session).editor.entries = session.editor.entries ∧
      (evaluated setup session).files = session.files := by
  rw [evaluated]
  cases session.editor.coming <;> exact ⟨Editor.entries_asked _, rfl⟩

theorem evaluate_of_raised {session : Session} {failure : Failure} {line : Text}
    (raises : raised setup session = some (failure, line)) :
    session.editor.coming = .line line ∧
      ((Evaluator.evaluate line).perform (session.asking (Config.prompt setup.config)).host).1 =
        .error failure := by
  rw [raised] at raises
  cases coming : session.editor.coming with
  | line text =>
      simp only [coming] at raises
      cases answer : ((Evaluator.evaluate text).perform
        (session.asking (Config.prompt setup.config)).host).1 with
      | ok outcome =>
          rw [answer] at raises
          cases raises
      | error obstacle =>
          rw [answer] at raises
          cases raises
          exact ⟨rfl, answer⟩
  | _ => simp only [coming, reduceCtorEq] at raises

/-- A failure that is not survived cuts the round short: nothing is recorded, and the
line is not entered. -/
theorem perform_round_of_not_isOrdinary {session : Session} {failure : Failure} {line : Text}
    (raises : raised setup session = some (failure, line)) (stops : failure.isOrdinary = false) :
    (round setup).perform session = (.error failure, evaluated setup session) := by
  obtain ⟨read, failed⟩ := evaluate_of_raised setup raises
  rw [perform_round, evaluated_of_line setup read, read]
  exact perform_answerLine_of_not_isOrdinary setup (Prod.ext failed rfl) stops

theorem survives_of_round {session after : Session}
    (passed : (round setup).perform session = (.ok (), after)) : Survives setup session where
  reads := by
    intro failure coming
    rw [perform_round, coming] at passed
    cases passed
  ordinary := by
    rintro ⟨failure, line⟩ raises
    cases ordinary : failure.isOrdinary with
    | true => rfl
    | false =>
        rw [perform_round_of_not_isOrdinary setup raises ordinary] at passed
        cases passed

/-- A round that fails has met a failure that is not survived, of the reading or of the
evaluation. -/
theorem exists_of_round_failed {session last : Session} {failure : Failure}
    (failed : (round setup).perform session = (.error failure, last)) :
    session.editor.coming = .failed failure ∨
      ∃ line, raised setup session = some (failure, line) ∧ failure.isOrdinary = false ∧
        last = evaluated setup session := by
  have notSurvived : ¬Survives setup session := by
    intro survives
    obtain ⟨after, passed, _⟩ := survives.exists_perform_round
    rw [passed] at failed
    cases failed
  by_cases unread : ∃ obstacle, session.editor.coming = .failed obstacle
  · obtain ⟨obstacle, coming⟩ := unread
    rw [perform_round, coming] at failed
    cases failed
    exact .inl coming
  right
  have reads : ∀ obstacle, session.editor.coming ≠ .failed obstacle := by
    intro obstacle coming
    exact unread ⟨obstacle, coming⟩
  rcases raises : raised setup session with _ | ⟨obstacle, line⟩
  · exact absurd ⟨reads, by simp [raises]⟩ notSurvived
  cases ordinary : obstacle.isOrdinary with
  | true => exact absurd ⟨reads, by simp [raises, ordinary]⟩ notSurvived
  | false =>
      rw [perform_round_of_not_isOrdinary setup raises ordinary] at failed
      cases failed
      exact ⟨line, rfl, ordinary, rfl⟩

theorem remarks_of_round {session after : Session}
    (passed : (round setup).perform session = (.ok (), after)) :
    Remarks (evaluated setup session) after ∧
      after.files = recorded setup session.files (raised setup session) := by
  obtain ⟨_, passed', found⟩ := (survives_of_round setup passed).exists_perform_round
  rw [passed] at passed'
  cases passed'
  exact found

theorem shrinks_evaluated (session : Session) :
    Host.Shrinks session.host.interpreter (evaluated setup session).host.interpreter := by
  rw [evaluated]
  cases session.editor.coming with
  | line line =>
      obtain ⟨_, runs⟩ := Evaluator.exists_runs_evaluate line
        (session.asking (Config.prompt setup.config)).host
      exact runs.interpreter
  | _ => exact Host.Shrinks.refl _

/-- A round leaves an interpreter that has lost commands at most. -/
theorem shrinks_of_round {session after : Session}
    (passed : (round setup).perform session = (.ok (), after)) :
    Host.Shrinks session.host.interpreter after.host.interpreter := by
  rw [(remarks_of_round setup passed).1.interpreter]
  exact shrinks_evaluated setup session

/-- A round after which the session has ended has evaluated a line that ended it. -/
theorem exists_line_of_terminated {session after : Session}
    (running : session.host.terminated = false)
    (passed : (round setup).perform session = (.ok (), after))
    (ended : after.host.terminated = true) :
    ∃ line, session.editor.coming = .line line ∧
      (evaluated setup session).host.terminated = true := by
  obtain ⟨remarks, _⟩ := remarks_of_round setup passed
  rw [remarks.terminated] at ended
  rw [evaluated] at ended ⊢
  cases coming : session.editor.coming with
  | line line =>
      rw [coming] at ended
      exact ⟨line, rfl, ended⟩
  | _ =>
      have still : session.host.terminated = true := by
        rw [coming] at ended
        exact ended
      rw [running] at still
      cases still

/-! ## What is demanded -/

/-- Exactly these scripts, prompts and outputs are added to the record, in order, among
other events. -/
def Demands (demanded : List Event) (before after : Session) : Prop :=
  ∃ events, after.host.log = before.host.log ++ events ∧
    events.filter (·.isDemand) = demanded

theorem Demands.trans {first second : List Event} {a b c : Session} (hab : Demands first a b)
    (hbc : Demands second b c) : Demands (first ++ second) a c := by
  obtain ⟨events, log, rfl⟩ := hab
  obtain ⟨events', log', rfl⟩ := hbc
  exact ⟨events ++ events', by rw [log', log, List.append_assoc], List.filter_append ..⟩

theorem Remarks.demands {before after : Session} (h : Remarks before after) :
    Demands [] before after := by
  obtain ⟨events, log, remarks⟩ := h.records
  refine ⟨events, log, List.filter_eq_nil_iff.mpr fun event member => ?_⟩
  simp [(remarks event member).2.1]

/-- What is demanded in a round: a line is asked for, and what is read is handed to the
interpreter. -/
def demandsOf (host : Host) : Answer → List Event
  | .line line => .prompt (Config.prompt setup.config) :: host.handing line
  | _ => [.prompt (Config.prompt setup.config)]

theorem demands_asking (session : Session) :
    Demands [.prompt (Config.prompt setup.config)] session
      (session.asking (Config.prompt setup.config)) := by
  have silent : session.editor.opening.filter (·.isDemand) = [] := by
    refine List.filter_eq_nil_iff.mpr fun event member => ?_
    obtain ⟨_, _, rfl⟩ := Editor.exists_sessionOpened_of_mem_opening member
    exact Bool.false_ne_true
  refine ⟨_, rfl, ?_⟩
  rw [List.filter_append, silent]
  rfl

theorem demands_evaluated (session : Session) :
    Demands (demandsOf setup session.host session.editor.coming) session
      (evaluated setup session) := by
  have asked := demands_asking setup session
  rw [evaluated]
  cases session.editor.coming with
  | line line =>
      obtain ⟨steps, runs⟩ := Evaluator.exists_runs_evaluate line
        (session.asking (Config.prompt setup.config)).host
      have handed : (session.host.handing line).filter (·.isDemand) =
          session.host.handing line := by
        rcases session.host.handing_eq_nil_or line with none | one
        · rw [none, List.filter_nil]
        · rw [one]
          rfl
      have quiet : steps.filter (·.isDemand) = [] := by
        refine List.filter_eq_nil_iff.mpr fun event member => ?_
        simp [Event.isDemand_of_isStep (runs.isStep event member)]
      have handedOver : (session.host.handing line ++ steps).filter (·.isDemand) =
          session.host.handing line := by
        rw [List.filter_append, handed, quiet, List.append_nil]
      exact asked.trans ⟨_, runs.log.trans (List.append_assoc ..), handedOver⟩
  | _ => exact asked

theorem demands_of_round {session after : Session}
    (passed : (round setup).perform session = (.ok (), after)) :
    Demands (demandsOf setup session.host session.editor.coming) session after := by
  obtain ⟨remarks, _⟩ := remarks_of_round setup passed
  have both := (demands_evaluated setup session).trans remarks.demands
  rwa [List.append_nil] at both

/-! ## What rounds come to -/

section Passes

variable {setup} {session last : Session} {rounds : List Session}

theorem Passes.shrinks (passes : Passes setup session rounds last) :
    Host.Shrinks session.host.interpreter last.host.interpreter := by
  induction passes with
  | stay session => exact Host.Shrinks.refl _
  | pass running asked passed rest ih => exact (shrinks_of_round setup passed).trans ih

theorem Passes.of_mem (passes : Passes setup session rounds last) :
    ∀ round ∈ rounds, round.host.terminated = false ∧ round.editor.coming ≠ .ended ∧
      ∃ after, (Session.round setup).perform round = (.ok (), after) := by
  induction passes with
  | stay session => simp
  | pass running asked passed rest ih =>
      exact List.forall_mem_cons.mpr ⟨⟨running, asked, _, passed⟩, ih⟩

/-- The rounds read in order what comes first. -/
theorem Passes.read (passes : Passes setup session rounds last) :
    rounds.map (·.editor.coming) =
      (session.editor.readings.take rounds.length).map Reading.answer := by
  induction passes with
  | stay session => simp
  | pass running asked passed rest ih =>
      obtain ⟨reading, readings, coming⟩ := exists_reading_of_round setup asked passed
      rw [readings, List.map_cons, List.length_cons, List.take_succ_cons, List.map_cons, ih, coming]

theorem Passes.demands (passes : Passes setup session rounds last) :
    Demands ((rounds.map (·.editor.coming)).flatMap (demandsOf setup session.host))
      session last := by
  induction passes with
  | stay session => exact (refl_of Remarks session).demands
  | pass running asked passed rest ih =>
      next session between last rounds =>
      have same : demandsOf setup between.host = demandsOf setup session.host := by
        funext answer
        cases answer <;>
          simp only [demandsOf, Host.handing_of_shrinks (shrinks_of_round setup passed)]
      rw [same] at ih
      rw [List.map_cons, List.flatMap_cons]
      exact (demands_of_round setup passed).trans ih

/-- If the session has ended after some rounds, the line of the last one has ended it. -/
theorem Passes.exists_line (passes : Passes setup session rounds last)
    (ended : last.host.terminated = true) :
    rounds = [] ∧ session.host.terminated = true ∨
      ∃ front round line, rounds = front ++ [round] ∧ round.editor.coming = .line line ∧
        (evaluated setup round).host.terminated = true := by
  induction passes with
  | stay session => exact .inl ⟨rfl, ended⟩
  | pass running asked passed rest ih =>
      next session between last rounds =>
      rcases ih ended with ⟨rfl, endedThen⟩ | ⟨front, round, line, rfl, found⟩
      · obtain ⟨line, found⟩ := exists_line_of_terminated setup running passed endedThen
        exact .inr ⟨[], session, line, rfl, found⟩
      · exact .inr ⟨session :: front, round, line, rfl, found⟩

/-- Only failures change a file. -/
theorem Passes.files_eq (passes : Passes setup session rounds last)
    (quiet : ∀ round ∈ rounds, raised setup round = none) : last.files = session.files := by
  induction passes with
  | stay session => rfl
  | pass running asked passed rest ih =>
      obtain ⟨quietFirst, quietRest⟩ := List.forall_mem_cons.mp quiet
      have files := (remarks_of_round setup passed).2
      rw [quietFirst] at files
      exact (ih quietRest).trans files

/-- Every failure that is raised is recorded in the crash log, if it can be written. -/
theorem Passes.gains (passes : Passes setup session rounds last)
    (writable : CrashLog.Writable setup.environment session.files) :
    CrashLog.Gains setup.environment ((rounds.filterMap (raised setup)).map fun crash =>
      CrashLog.record setup.stamp crash.1 crash.2) session.files last.files := by
  induction passes with
  | stay session => exact .nothing session.files
  | pass running asked passed rest ih =>
      next session between last rounds =>
      have files := (remarks_of_round setup passed).2
      rcases crashed : raised setup session with _ | ⟨failure, line⟩ <;> rw [crashed] at files
      · have same : between.files = session.files := files
        rw [same] at ih
        rw [List.filterMap_cons_none crashed]
        exact ih writable
      · obtain ⟨_, after, writes, still, add⟩ := writable.exists_write setup.stamp failure line
        rw [recorded, writes] at files
        have same : between.files = after := files
        rw [same] at ih
        rw [List.filterMap_cons_some crashed]
        exact add (ih still)

end Passes

/-! ## The account -/

theorem length_prompts_flatMap (host : Host) (answers : List Answer) :
    (Event.prompts (answers.flatMap (demandsOf setup host))).length = answers.length := by
  have one (answer : Answer) : (Event.prompts (demandsOf setup host answer)).length = 1 := by
    cases answer with
    | line line =>
        rcases host.handing_eq_nil_or line with none | handed
        · simp [demandsOf, none, Event.prompts, Event.prompt?]
        · simp [demandsOf, handed, Event.prompts, Event.prompt?]
    | _ => rfl
  induction answers with
  | nil => rfl
  | cons answer rest ih =>
      rw [List.flatMap_cons, Event.prompts_append, List.length_append, one, ih,
        List.length_cons, Nat.add_comm]

/-- Readings that do not end the input are lines and interrupts. -/
theorem length_eq_of_usual {readings : List Reading}
    (usual : ∀ reading ∈ readings, reading.isUsual = true)
    (unended : ∀ reading ∈ readings, reading.answer ≠ .ended) :
    readings.length =
      (readings.filterMap Reading.line?).length + readings.countP Reading.isInterrupt := by
  induction readings with
  | nil => rfl
  | cons reading rest ih =>
      obtain ⟨usualFirst, usualRest⟩ := List.forall_mem_cons.mp usual
      obtain ⟨unendedFirst, unendedRest⟩ := List.forall_mem_cons.mp unended
      have counted := ih usualRest unendedRest
      cases reading with
      | line text =>
          have read : Reading.line? (.line text) = some text := rfl
          rw [List.filterMap_cons_some read, List.countP_cons_of_neg Bool.false_ne_true,
            List.length_cons, List.length_cons, counted]
          omega
      | fails failure =>
          cases failure with
          | interrupt message =>
              rw [List.filterMap_cons_none rfl, List.countP_cons_of_pos rfl, List.length_cons,
                counted, Nat.add_assoc]
          | endOfInput message => exact absurd rfl unendedFirst
          | _ => cases usualFirst

/-- The account of a conversation that has passed some rounds, each given by the session
that it starts from. -/
structure Account (session : Session) (rounds : List Session) (final : Session) : Prop where
  /-- A round is entered only if no exit has ended the session. -/
  running : ∀ round ∈ rounds, round.host.terminated = false
  /-- The rounds read what comes first, in order and one reading each. -/
  read : rounds.map (·.editor.coming) =
    (session.editor.readings.take rounds.length).map Reading.answer
  /-- The end of the input is not among it. -/
  unended : ∀ round ∈ rounds, round.editor.coming ≠ .ended
  /-- If no exit has ended the session, the input ends after the rounds. -/
  inputEnds : final.host.terminated = false →
    ∀ reading ∈ (session.editor.readings.drop rounds.length).head?, reading.answer = .ended
  /-- If an exit has ended the session, it was run before the first round or by the line
  of the last. -/
  exitEnds : final.host.terminated = true →
    rounds = [] ∧ session.host.terminated = true ∨
      ∃ front round line, rounds = front ++ [round] ∧ round.editor.coming = .line line ∧
        ((Evaluator.evaluate line).perform
          (round.asking (Config.prompt setup.config)).host).2.terminated = true
  /-- Nothing is read beyond the end. -/
  unread : final.editor.readings = session.editor.readings.drop
    (rounds.length + if final.host.terminated then 0 else 1)
  /-- A line is evaluated right after it was asked for, and nothing but remarks follows. -/
  answered : ∀ round ∈ rounds, ∀ line, round.editor.coming = .line line →
    let asked := round.asking (Config.prompt setup.config)
    Remarks { asked with host := ((Evaluator.evaluate line).perform asked.host).2 }
      ((Session.round setup).perform round).2
  /-- Each prompt is followed by the script of the line that was read, if one was, and
  nothing else is demanded. -/
  demanded : Demands
    ((rounds.map (·.editor.coming)).flatMap (demandsOf setup session.host) ++
      if final.host.terminated then [] else [.prompt (Config.prompt setup.config)])
    session final
  /-- The prompts are as many as the lines and the interrupts that were read, and one
  more if the input has ended. -/
  prompted : ∃ events, final.host.log = session.host.log ++ events ∧
    (Event.prompts events).length =
      ((session.editor.readings.take rounds.length).filterMap Reading.line?).length +
        (session.editor.readings.take rounds.length).countP Reading.isInterrupt +
          if final.host.terminated then 0 else 1
  /-- Every failure that a line has raised is to be recorded with the line, in order and
  once, if the crash log can be written.  The records that are strings stand in the log, as
  UTF-8; the others have no bytes, and are passed over. -/
  crashes :
    let records : List Text := (rounds.filterMap (raised setup)).map fun crash =>
      setup.stamp.time ++ "\n" ++
        (if crash.2 = Text.plain "" then ("" : Text) else "raw=" ++ crash.2 ++ "\n") ++
        ("error=" ++ crash.1.kind ++ ": " ++ crash.1.message ++ "\n") ++
        ("traceback:" ++ "\n" ++ setup.stamp.trace ++ "\n" ++ "----" ++ "\n")
    CrashLog.Writable setup.environment session.files →
      CrashLog.Gains setup.environment records session.files final.files ∧
      (records ≠ [] → ∃ root location, setup.environment.dataRoot = .ok root ∧
        final.files.resolve (CrashLog.path root) = .ok location ∧
        final.files.read (CrashLog.path root) =
          .ok (session.files.bytesAt location ++
            (String.join (records.filterMap Text.string?)).toUTF8.data.toList))

section Account

variable {setup} {session last final : Session} {rounds : List Session}

theorem Demands.exists_length_prompts {demanded : List Event} {before after : Session}
    (demands : Demands demanded before after) :
    ∃ events, after.host.log = before.host.log ++ events ∧
      (Event.prompts events).length = (Event.prompts demanded).length := by
  obtain ⟨events, log, rfl⟩ := demands
  exact ⟨events, log, by rw [Event.prompts_filter]⟩

/-- The end of a conversation ends no session. -/
theorem Ends.terminated_eq (ends : Ends setup session (.ok ()) final) :
    final.host.terminated = session.host.terminated := by
  cases ends <;> rfl

theorem Ends.interpreter_eq (ends : Ends setup session (.ok ()) final) :
    final.host.interpreter = session.host.interpreter := by
  cases ends <;> rfl

theorem Ends.keeps (ends : Ends setup session (.ok ()) final) :
    final.editor.entries = session.editor.entries ∧ final.files = session.files := by
  cases ends with
  | halt ended => exact ⟨rfl, rfl⟩
  | leave running asked => exact ⟨entries_asking _ _, rfl⟩

/-- One more reading is taken, unless the session has ended. -/
theorem Ends.readings_eq (ends : Ends setup session (.ok ()) final) :
    final.editor.readings =
      session.editor.readings.drop (if final.host.terminated then 0 else 1) := by
  cases ends with
  | halt ended => simp [ended]
  | leave running asked => simp [asking, running]

/-- It is the end of the input. -/
theorem Ends.answer_eq_ended (ends : Ends setup session (.ok ()) final)
    (running : final.host.terminated = false) :
    ∀ reading ∈ session.editor.readings.head?, reading.answer = .ended := by
  intro reading next
  cases ends with
  | halt ended =>
      rw [ended] at running
      cases running
  | leave _ asked =>
      rw [Editor.coming] at asked
      rcases readings : session.editor.readings with _ | ⟨first, later⟩ <;>
        rw [readings] at next asked <;> cases next
      exact asked

/-- If nothing but what is usual is read, a conversation fails by the evaluation of a
line. -/
theorem Ends.exists_raised {failure : Failure} (ends : Ends setup session (.error failure) final)
    (usual : ∀ reading ∈ session.editor.readings, reading.isUsual = true) :
    ∃ line, session.host.terminated = false ∧ raised setup session = some (failure, line) ∧
      failure.isOrdinary = false ∧ final = evaluated setup session := by
  cases ends with
  | fail running failed =>
      rcases exists_of_round_failed setup failed with coming | ⟨line, found⟩
      · exact absurd coming (Editor.coming_ne_failed usual failure)
      · exact ⟨line, running, found⟩

theorem Ends.demands (ends : Ends setup session (.ok ()) final) :
    Demands (if final.host.terminated then [] else [.prompt (Config.prompt setup.config)])
      session final := by
  cases ends with
  | halt ended =>
      rw [ended]
      exact (refl_of Remarks session).demands
  | leave running asked =>
      have still : (session.asking (Config.prompt setup.config)).host.terminated = false := running
      rw [still]
      exact demands_asking setup session

/-- The rounds are as many as the lines and the interrupts that they read. -/
theorem Passes.length_eq (passes : Passes setup session rounds last)
    (usual : ∀ reading ∈ session.editor.readings, reading.isUsual = true) :
    rounds.length =
      ((session.editor.readings.take rounds.length).filterMap Reading.line?).length +
        (session.editor.readings.take rounds.length).countP Reading.isInterrupt := by
  have lengths := congrArg List.length passes.read
  rw [List.length_map, List.length_map] at lengths
  refine lengths.trans (length_eq_of_usual ?_ ?_)
  · exact fun reading member => usual reading (List.mem_of_mem_take member)
  · intro reading member
    have answered : reading.answer ∈
        (session.editor.readings.take rounds.length).map Reading.answer :=
      List.mem_map_of_mem member
    rw [← passes.read] at answered
    obtain ⟨round, isRound, coming⟩ := List.mem_map.mp answered
    rw [← coming]
    exact (passes.of_mem round isRound).2.1

/-- What the rounds have not read is left. -/
theorem Passes.readings_eq (passes : Passes setup session rounds last) :
    last.editor.readings = session.editor.readings.drop rounds.length :=
  List.append_cancel_left
    ((passes.takes setup).1.symm.trans (List.take_append_drop rounds.length _).symm)

theorem Passes.mem_readings (passes : Passes setup session rounds last) {reading : Reading}
    (isLeft : reading ∈ last.editor.readings) : reading ∈ session.editor.readings := by
  rw [passes.readings_eq] at isLeft
  exact List.mem_of_mem_drop isLeft

theorem Passes.account (passes : Passes setup session rounds last)
    (ends : Ends setup last (.ok ()) final)
    (usual : ∀ reading ∈ session.editor.readings, reading.isUsual = true) :
    Account setup session rounds final := by
  have demanded := (passes.demands).trans ends.demands
  refine
    { running := fun round member => (passes.of_mem round member).1
      read := passes.read
      unended := fun round member => (passes.of_mem round member).2.1
      inputEnds := ?_
      exitEnds := ?_
      unread := ?_
      answered := ?_
      demanded
      prompted := ?_
      crashes := ?_ }
  · rw [← passes.readings_eq]
    exact ends.answer_eq_ended
  · intro ended
    rw [ends.terminated_eq] at ended
    rcases passes.exists_line ended with none | ⟨front, round, line, split, read, exited⟩
    · exact .inl none
    · rw [evaluated_of_line setup read] at exited
      exact .inr ⟨front, round, line, split, read, exited⟩
  · rw [ends.readings_eq, passes.readings_eq, List.drop_drop]
  · intro round member line read
    obtain ⟨_, _, after, passed⟩ := passes.of_mem round member
    have remarks := (remarks_of_round setup passed).1
    rw [evaluated_of_line setup read] at remarks
    rw [passed]
    exact remarks
  · obtain ⟨events, log, counted⟩ := demanded.exists_length_prompts
    refine ⟨events, log, ?_⟩
    rw [counted, Event.prompts_append, List.length_append, length_prompts_flatMap, List.length_map]
    have tally := passes.length_eq usual
    split
    · exact tally
    · exact congrArg (· + 1) tally
  · intro records writable
    have gains := passes.gains writable
    simp only [CrashLog.record_eq, ← ends.keeps.2] at gains
    refine ⟨gains, fun some_record => ?_⟩
    obtain ⟨text, texts, split⟩ := List.exists_cons_of_ne_nil some_record
    have gained : CrashLog.Gains setup.environment (text :: texts) session.files final.files :=
      split ▸ gains
    obtain ⟨root, location, known, leads, holds, _⟩ := gained.exists_read
    rw [split]
    exact ⟨root, location, known, leads, holds⟩

/-- A conversation that reads what is usual, and lines that spare it, ends without a
failure. -/
theorem Ends.eq_ok {result : Except Failure Unit} (ends : Ends setup session result final)
    (usual : ∀ reading ∈ session.editor.readings, reading.isUsual = true)
    (spares : ∀ line, .line line ∈ session.editor.readings → session.host.Spares line) :
    result = .ok () := by
  rcases result with failure | ⟨⟩
  · obtain ⟨line, _, raises, stops, _⟩ := ends.exists_raised usual
    obtain ⟨read, failed⟩ := evaluate_of_raised setup raises
    have ordinary := spares line (Editor.mem_of_coming read)
      (session.asking (Config.prompt setup.config)).host (Host.Shrinks.refl _) failure failed
    rw [ordinary] at stops
    cases stops
  · rfl

end Account

/-- A conversation takes up the history, passes rounds and comes to an end. -/
theorem exists_passes_of_interact {session : Session} (ready : session.phase = .bootstrapping)
    {loaded : List String}
    (loads : (History.load session.files (Config.historyPath setup.config)).1 = .ok loaded) :
    ∃ talking rounds last,
      (takeUpHistory setup).perform (session.entering .interactive) = (.ok (), talking) ∧
      talking.editor.readings = session.editor.readings ∧
      talking.editor.entries = session.editor.entries ++ loaded.map .plain ∧
      talking.files = session.files ∧
      Passes setup talking rounds last ∧
      Ends setup last ((interact setup).perform session).1
        ((interact setup).perform session).2 := by
  obtain ⟨events, takenUp⟩ := perform_takeUpHistory setup (session.entering .interactive) loads
  rw [History.filter_of_load loads] at takenUp
  let talking := (session.entering .interactive).taking events (loaded.map .plain)
  obtain ⟨rounds, last, passes, ends⟩ := exists_passes_of_converse setup
    (rfl : talking.editor.readings = talking.editor.readings)
  refine ⟨talking, rounds, last, takenUp, readings_taking _ _ _, entries_taking _ _ _, rfl,
    passes, ?_⟩
  rw [perform_interact_of_bootstrapping setup ready, perform_bind_of_ok takenUp,
    perform_bind_of_ok (perform_get _)]
  exact ends

/-- **Every reading of a conversation is accounted for.**  Let a session be ready for
its conversation, and let its history file be one that can be taken up.  Let whatever
is read be a line, an interrupt or the end of the input, and let the lines spare the
conversation: they may succeed, fail, run the exit or raise what a conversation
survives.  Then the conversation succeeds.  It passes rounds, each from where the one
before it has left off, and stops when it finds that an exit has ended the session, or
else with the end of the input; and its account holds. -/
theorem conversation_accounted {session : Session} (ready : session.phase = .bootstrapping)
    {loaded : List String}
    (loads : (History.load session.files (Config.historyPath setup.config)).1 = .ok loaded)
    (usual : ∀ reading ∈ session.editor.readings, reading.isUsual = true)
    (spares : ∀ line, .line line ∈ session.editor.readings → session.host.Spares line) :
    ∃ talking rounds last final,
      (takeUpHistory setup).perform (session.entering .interactive) = (.ok (), talking) ∧
      Remarks (session.entering .interactive) talking ∧
      talking.editor.readings = session.editor.readings ∧ talking.files = session.files ∧
      (interact setup).perform session = (.ok (), final) ∧
      Passes setup talking rounds last ∧ Ends setup last (.ok ()) final ∧
      Account setup talking rounds final := by
  obtain ⟨talking, rounds, last, takenUp, readings, _, files, passes, ends⟩ :=
    exists_passes_of_interact setup ready loads
  have remarks := (remarks_takeUpHistory setup).of_perform takenUp
  have shrinks := passes.shrinks
  rw [remarks.interpreter] at shrinks
  have member {reading : Reading} (isLeft : reading ∈ last.editor.readings) :
      reading ∈ session.editor.readings :=
    readings ▸ passes.mem_readings isLeft
  have ok := ends.eq_ok (fun reading isLeft => usual reading (member isLeft))
    fun line isLeft => (spares line (member isLeft)).of_shrinks shrinks
  rw [ok] at ends
  exact ⟨talking, rounds, last, _, takenUp, remarks, readings, files, Prod.ext ok rfl, passes, ends,
    passes.account ends (by rwa [readings])⟩

/-- A session that is ready for its conversation: one line slips, one is empty, one
leaves and one is too late. -/
def talkative : Session :=
  ((beginning sampleSetup).perform (fresh sampleTable sampleEngine
    (.fresh .plain false
      [.line "slip", .fails (.interrupt ""), .line "", .line "leave", .line "late"]) {})).2

theorem conversation_accounted_talkative :
    talkative.phase = .bootstrapping ∧
      (∀ reading ∈ talkative.editor.readings, reading.isUsual = true) ∧
      (∀ line, .line line ∈ talkative.editor.readings → talkative.host.Spares line) ∧
      ∃ talking rounds final, (interact sampleSetup).perform talkative = (.ok (), final) ∧
        Account sampleSetup talking rounds final := by
  have ready : talkative.phase = .bootstrapping := by decide +kernel
  obtain ⟨loaded, loads⟩ := @exists_eq_ok _
    (History.load talkative.files (Config.historyPath sampleSetup.config)).1 (by decide +kernel)
  have usual : ∀ reading ∈ talkative.editor.readings, reading.isUsual = true := by
    decide +kernel
  have ordinary : ∀ reading ∈ talkative.editor.readings, ∀ line ∈ reading.line?,
      (talkative.host.stepsOf line).all Step.isOrdinary = true := by
    decide +kernel
  have spares : ∀ line, .line line ∈ talkative.editor.readings → talkative.host.Spares line :=
    fun line member => Host.spares_of_steps (ordinary _ member line rfl)
  obtain ⟨talking, rounds, _, final, _, _, _, _, interacted, _, _, account⟩ :=
    conversation_accounted sampleSetup ready loads usual spares
  exact ⟨ready, usual, spares, talking, rounds, final, interacted, account⟩

/-- A session that is ready for its conversation, and will read a line with a byte that
could not be decoded.  Its interpreter does not take such a line. -/
def garbled : Session :=
  ((beginning sampleSetup).perform (fresh
    { scripts := [(undecodedLine, [.raise (.other "ValueError" "no such character")])] }
    sampleEngine (.fresh .plain false [.line undecodedLine]) {})).2

/-- The line is evaluated and its failure is reported, and yet the crash log, which can be
written, gets no record: it is there then, and empty. -/
theorem undecoded_line_leaves_no_record :
    let log : Location := ["data", "stashell", "logs", "crash.log"]
    let ended := (interact sampleSetup).perform garbled
    garbled.phase = .bootstrapping ∧
      (History.load garbled.files (Config.historyPath sampleSetup.config)).1.isOk = true ∧
      garbled.editor.readings = [.line undecodedLine] ∧ garbled.host.Spares undecodedLine ∧
      CrashLog.Writable sampleSetup.environment garbled.files ∧
      ended.1.isOk = true ∧ .script undecodedLine ∈ ended.2.host.log ∧
      .errorLine "[ERROR] Unhandled exception: ValueError: no such character" ∈ ended.2.host.log ∧
      ended.2.files.get? log = some (.file []) := by
  have steps : (garbled.host.stepsOf undecodedLine).all Step.isOrdinary = true := by
    decide +kernel
  have noFiles : garbled.files = {} := by
    decide +kernel
  exact ⟨by decide +kernel, by decide +kernel, by decide +kernel, Host.spares_of_steps steps,
    noFiles ▸ ⟨_, rfl⟩, by decide +kernel, by decide +kernel, by decide +kernel, by decide +kernel⟩

end Session

end CommandShell
