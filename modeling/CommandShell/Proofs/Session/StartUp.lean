/-
# The start-up script

A start-up script that is corrupt or fails ends the session where it stands.  The
session stays in its phase, with its interpreter; nothing has been shown but warnings,
no line was asked for, no file was touched, and no script was handed over but the
start-up script, the query for its trace and the definition of the exit command.  On
the command line this is the one failure that becomes an exit status.
-/

import CommandShell.CommandLine
import CommandShell.Proofs.Session.Speech

namespace CommandShell

/-- An event of the beginning: the interpreter is set up, or something is remarked. -/
def Event.isPreparation : Event → Bool
  | .errorLine _ | .diagnostic _ _ => true
  | event => event.isSetUp

theorem Event.isPreparation_of_isSetUp {event : Event} (h : event.isSetUp = true) :
    event.isPreparation = true := by
  cases event <;> first | rfl | cases h

open Act

/-! ## The interpreter is held -/

theorem Host.isSome_of_registerEngine {host after : Host}
    (h : registerEngine.perform host = (.ok (), after)) : after.interpreter.isSome = true := by
  obtain ⟨_, _, _, h⟩ := perform_bind_eq_ok h
  obtain ⟨_, _, registered, h⟩ := perform_bind_eq_ok h
  cases h
  obtain ⟨_, _, rfl⟩ := exists_eq_of_register registered
  rfl

theorem Evaluator.isSome_of_evaluate {text : Text} {outcome : Outcome} {host after : Host}
    (h : (evaluate text).perform host = (.ok outcome, after)) :
    after.interpreter.isSome = true := by
  obtain ⟨_, cleared, _, h⟩ := perform_bind_eq_ok h
  obtain ⟨steps, runs⟩ := (evaluates_evaluateCommand text).of_perform h
  rcases runs.interpreter with ⟨released, _⟩ | ⟨_, last, _, held, _⟩
  · have none_left : cleared.interpreter = none := released
    rw [evaluateCommand, perform_tryCatch, perform_map,
      Host.perform_evaluate_of_released none_left] at h
    cases h
  · rw [held]
    rfl

namespace Session

variable (setup : Setup)

/-- Events of the beginning are recorded, and the scripts among them are some of those
given, in order. -/
abbrev Prepares (given : List Text) : Session → Session → Prop :=
  OnHost (Host.Hands (·.isPreparation = true) given)

theorem prepares_onHost {α : Type} {act : HostM α} {given : List Text}
    (h : Moves (Host.Hands (·.isSetUp = true) given) act) :
    Moves (Prepares given) (onHost act) :=
  moves_onHost (h.mono (Host.Hands.mono fun _ => Event.isPreparation_of_isSetUp))

theorem prepares_handsOver : HandsOver Prepares where
  nothing _ := Host.hands_of_log_eq rfl
  append := Host.Hands.trans
  more fewer := Host.Hands.more fewer
  script text := prepares_onHost ((Evaluator.hands_evaluate text).mono
    (Host.Hands.mono fun _ => Event.isSetUp_of_isEvaluation))

theorem prepares_emit {event : Event} (own : event.isPreparation = true)
    (noScript : event.script? = none) : Moves (Prepares []) (emit event) := by
  intro session
  exact Host.hands_emit own noScript session.host

theorem prepares_applyThreadHint : Moves (Prepares []) (applyThreadHint setup) := by
  rw [applyThreadHint]
  split
  · exact moves_pure _
  · refine moves_get.bind fun session => ?_
    refine Moves.bind (R := Prepares []) (prepares_emit rfl rfl) fun _ => ?_
    refine Moves.bind (R := Prepares []) ?_ fun _ => moves_pure _
    exact moves_modify fun _ => Host.hands_of_log_eq rfl
  · exact (prepares_emit rfl rfl).bind fun _ => moves_pure _
  · exact moves_throw _

/-- Setting up hands over the definition of the exit command, and nothing else. -/
theorem prepares_prepare : Moves (Prepares [exitProcedure]) (prepare setup) := by
  refine prepares_handsOver.bind (prepares_applyThreadHint setup).discard fun _ => ?_
  refine prepares_handsOver.bind (prepares_onHost (Evaluator.hands_registerExit _)) fun _ => ?_
  refine Moves.bind (R := Prepares []) ?_ fun _ => ?_
  · exact moves_modify fun _ => Host.hands_of_log_eq rfl
  refine Moves.bind (R := Prepares []) (prepares_onHost (Evaluator.hands_publish _)) fun _ => ?_
  exact prepares_onHost Host.hands_registerEngine

theorem prepares_entering {session : Session} (phase : Phase) :
    Prepares [] session (session.entering phase) := by
  have emitted : Moves (Host.Hands (·.isPreparation = true) [])
      (Host.emit (.diagnostic .shell phase.entryText)) := Host.hands_emit rfl rfl
  exact emitted session.host

theorem isSome_of_prepare {session after : Session}
    (h : (prepare setup).perform session = (.ok (), after)) :
    after.host.interpreter.isSome = true := by
  obtain ⟨_, _, _, h⟩ := perform_bind_eq_ok h
  obtain ⟨_, _, _, h⟩ := perform_bind_eq_ok h
  obtain ⟨_, _, _, h⟩ := perform_bind_eq_ok h
  obtain ⟨_, _, _, registered⟩ := perform_bind_eq_ok h
  exact Host.isSome_of_registerEngine (perform_host_of_onHost registered)

/-! ## Failing -/

/-- How a failure of the start-up script is explained: by the trace of its error, or
by its own text if the trace cannot be had or is empty. -/
def explanation (text : Text) (trace : Outcome) : Text :=
  if trace.isSuccess = true ∧ trace.text ≠ "" then trace.text else text

/-- The start-up script does not decode, or it fails and the query for the trace of its
error comes to an outcome; and this is the reason. -/
inductive StartUpFails (host : Host) : (reason : Text) → Prop
  | undecodable {defect : Payload.Defect}
      (defective : Payload.decode setup.payload = .error defect) :
      StartUpFails host defect.message
  | failing {script : String} {text : Text} {failed after : Host} {trace : Outcome}
      (decoded : Payload.decode setup.payload = .ok script)
      (evaluated : (Evaluator.evaluate script).perform host = (.ok (.failure text), failed))
      (asked : (Evaluator.evaluate errorTraceQuery).perform failed = (.ok trace, after)) :
      StartUpFails host (explanation text trace)

theorem exists_perform_runPayload {session : Session} {reason : Text}
    (fails : StartUpFails setup session.host reason)
    (held : session.host.interpreter.isSome = true) :
    ∃ host, (runPayload setup).perform session =
        (.error (.bootstrap reason), { session with host }) ∧
      host.interpreter.isSome = true := by
  rw [runPayload]
  cases fails with
  | undecodable defective =>
      rw [defective]
      exact ⟨session.host, rfl, held⟩
  | @failing script text failed after trace decoded evaluated asked =>
      refine ⟨after, ?_, Evaluator.isSome_of_evaluate asked⟩
      rw [decoded]
      dsimp only
      rw [perform_bind_of_ok (perform_onHost evaluated)]
      dsimp only
      rw [perform_bind_of_ok (perform_onHost asked)]
      cases trace with
      | success trace =>
          by_cases empty : trace = "" <;>
            simp [explanation, Outcome.isSuccess, Outcome.text, empty]
      | failure other => simp [explanation, Outcome.isSuccess]

end Session

namespace CommandLine

theorem conclude_eq_one_iff (ended : Except Failure Unit) :
    (conclude ended).1 = .ok 1 ↔ ∃ reason, ended = .error (.bootstrap reason) := by
  cases ended with
  | ok _ => simp [conclude]
  | error failure => cases failure <;> simp [conclude]

theorem conclude_eq_zero_iff (ended : Except Failure Unit) :
    (conclude ended).1 = .ok 0 ↔ ended = .ok () := by
  cases ended with
  | ok _ => simp [conclude]
  | error failure => cases failure <;> simp [conclude]

theorem status_run {call : Call} {shown : Bool} (noHelp : call.args.hasFlag "-help" = false)
    (noVersion : call.args.hasFlag "-version" = false)
    (level : showsDiagnostics call.environment = .ok shown) :
    (run call).status =
      (conclude ((Session.run (setup call)).perform (session call)).1).1 := by
  rw [run, noHelp, noVersion, level]
  rfl

end CommandLine

namespace Session

variable (setup : Setup)

/-- **A start-up script that fails is the end.**  Let a session have been set up, and
let its start-up script be corrupt, or fail and be asked for the trace of its error.
Then the run ends with that failure and its reason, in the phase of the start-up and
with its interpreter held.  Nothing has been read, entered or written to a file.  What
has been recorded belongs to the beginning, so no line was asked for, nothing was put
out and no command was removed; and no script has been handed over but the definition
of the exit command and, if it decodes, the start-up script and the query for the
trace.  The command line makes exactly this failure the status 1, and success the
status 0. -/
theorem failed_start_up_is_fatal {session started : Session} {reason : Text}
    (starts : (start setup).perform session = (.ok (), started))
    (fails : StartUpFails setup (started.entering .bootstrapping).host reason) :
    (∃ final events, (run setup).perform session = (.error (.bootstrap reason), final) ∧
      final.phase = .bootstrapping ∧ final.host.interpreter.isSome = true ∧
      final.files = session.files ∧ final.editor.entries = session.editor.entries ∧
      final.editor.readings = session.editor.readings ∧
      final.host.log = session.host.log ++ events ∧
      (∀ event ∈ events, event.isPreparation = true) ∧
      (Event.scripts events).Sublist (exitProcedure :: payloadScripts setup)) ∧
    ∀ (call : CommandLine.Call) (shown : Bool), call.args.hasFlag "-help" = false →
      call.args.hasFlag "-version" = false →
      CommandLine.showsDiagnostics call.environment = .ok shown →
      let status := (CommandLine.run call).status
      let ended := ((run (CommandLine.setup call)).perform (CommandLine.session call)).1
      (status = .ok 1 ↔ ∃ reason, ended = .error (.bootstrap reason)) ∧
        (status = .ok 0 ↔ ended = .ok ()) := by
  constructor
  · obtain ⟨ready, prepared, rfl⟩ := eq_entering_of_start setup starts
    have held := isSome_of_prepare setup prepared
    obtain ⟨host, failed, stillHeld⟩ := exists_perform_runPayload setup fails held
    let final : Session := { (ready.entering .initialized).entering .bootstrapping with host }
    have booted : (bootstrap setup).perform (ready.entering .initialized) =
        (.error (.bootstrap reason), final) := by
      rw [perform_bootstrap_of_initialized setup rfl]
      exact perform_bind_of_error (perform_bind_of_error failed _) _
    have confined := (confined_prepare setup).of_perform prepared
    have toReady := (prepares_prepare setup).of_perform prepared
    have toBootstrap := (toReady.trans (prepares_entering .initialized)).trans
      (prepares_entering .bootstrapping)
    have toEnd := (prepares_handsOver.runPayload setup).of_perform failed
    obtain ⟨events, log, handed, ofKind⟩ := prepares_handsOver.append toBootstrap toEnd
    refine ⟨final, events, ?_, rfl, stillHeld, confined.files, confined.entries,
      confined.readings, log, ofKind, handed⟩
    rw [run, perform_bind_of_ok starts, perform_bind_of_error booted]
  · intro call shown noHelp noVersion level status ended
    have same : status = (CommandLine.conclude ended).1 :=
      CommandLine.status_run noHelp noVersion level
    rw [same]
    exact ⟨CommandLine.conclude_eq_one_iff ended, CommandLine.conclude_eq_zero_iff ended⟩

/-- A start-up script that fails, with a trace of its error. -/
def faultyTable : ScriptTable where
  scripts := [("", [.error "no such tool" "NONE"]), (errorTraceQuery, [.result "in line 1"])]

theorem failed_start_up_is_fatal_sample :
    let session := fresh faultyTable sampleEngine (sampleEditor ["go on"]) {}
    ∃ final, (run sampleSetup).perform session = (.error (.bootstrap "in line 1"), final) ∧
      final.phase = .bootstrapping := by
  intro session
  have starts := @perform_eq_of_isOk _ (start sampleSetup) session (by decide +kernel)
  let host := (((start sampleSetup).perform session).2.entering .bootstrapping).host
  let failed := ((Evaluator.evaluate "").perform host).2
  have decoded : Payload.decode sampleSetup.payload = .ok "" := rfl
  have evaluated : (Evaluator.evaluate "").perform host = (.ok (.failure "no such tool"), failed) :=
    Prod.ext rfl rfl
  have asked : (Evaluator.evaluate errorTraceQuery).perform failed =
      (.ok (.success "in line 1"), ((Evaluator.evaluate errorTraceQuery).perform failed).2) :=
    Prod.ext rfl rfl
  obtain ⟨⟨final, _, ended, phase, _⟩, _⟩ := failed_start_up_is_fatal sampleSetup starts
    (.failing decoded evaluated asked)
  exact ⟨final, ended, phase⟩

end Session

end CommandShell
