/-
# Errors of the language

An evaluation that raises an error of the command language comes to an outcome, and which
one, the error code tells.  From a host that raises nothing but such errors every
evaluation comes to an outcome, and so does every one that follows: by evaluations an
interpreter loses commands at most, and the engine is kept.
-/

import CommandShell.Proofs.Host.Steps

namespace CommandShell

open Act

/-- The step calls no command, and if it raises anything, then an error with a code. -/
def Step.isPlain : Step → Bool
  | .result _ | .error _ _ | .remove _ | .print _ => true
  | _ => false

namespace Host

/-! ## What a host becomes -/

/-- What a host may become by evaluations: the interpreter is the same but for commands
that it has lost and its error code, and the engine is the same. -/
structure Continues (before after : Host) : Prop where
  interpreter : Shrinks before.interpreter after.interpreter
  engine : after.engine = before.engine

instance : IsPreorder Host Continues where
  refl host := ⟨Shrinks.refl host.interpreter, rfl⟩
  trans _ _ _ := by
    intro ab bc
    exact ⟨ab.interpreter.trans bc.interpreter, bc.engine.trans ab.engine⟩

theorem Continues.of_eq {before after : Host} (interpreter : after.interpreter = before.interpreter)
    (engine : after.engine = before.engine) : Continues before after :=
  ⟨interpreter ▸ Shrinks.refl _, engine⟩

theorem Evaluates.continues {script : Text} {before after : Host}
    (h : Evaluates script before after) : Continues before after := by
  obtain ⟨_, runs⟩ := h
  exact ⟨runs.interpreter, runs.engine⟩

theorem Shrinks.isSome_eq {before after : Option Interpreter} (h : Shrinks before after) :
    after.isSome = before.isSome := by
  rcases h with ⟨rfl, rfl⟩ | ⟨_, _, rfl, rfl, _⟩ <;> rfl

/-! ## The error code -/

/-- The error code as far as it can be read. -/
def shownCode (host : Host) : Text :=
  match host.interpreter with
  | some interpreter => if interpreter.table.hidesErrorCode then "" else interpreter.errorCode
  | none => ""

end Host

namespace Evaluator

open Host

theorem perform_errorCode {host : Host} (held : host.interpreter.isSome = true) :
    errorCode.perform host = (.ok host.shownCode, host) := by
  obtain ⟨interpreter, there⟩ := Option.isSome_iff_exists.mp held
  rw [errorCode, perform_tryCatch, Host.evaluate, perform_bind_of_ok (perform_interpreterNow there),
    if_pos rfl, shownCode, there]
  cases hidden : interpreter.table.hidesErrorCode <;> simp [hidden]

/-- An error that carries the exit code counts as an empty success, any other one as a
failure with its message. -/
def judged (host : Host) (message : Text) : Outcome :=
  if host.shownCode = exitErrorCode then .success "" else .failure message

theorem perform_judge {host : Host} (held : host.interpreter.isSome = true) (message : Text) :
    (judge message).perform host = (.ok (judged host message), host) := by
  rw [judge, perform_bind_of_ok (perform_errorCode held), judged]
  split <;> rfl

/-- Only an interpreter that is held raises an error of the language. -/
theorem isSome_of_raised {script message : Text} {host after : Host}
    (raised : (Host.evaluate script).perform host = (.error (.script message), after)) :
    after.interpreter.isSome = true := by
  have continues := ((evaluates_evaluate script).of_perform raised).continues
  rw [continues.interpreter.isSome_eq]
  cases held : host.interpreter with
  | none =>
      rw [perform_evaluate_of_released held] at raised
      cases raised
  | some interpreter => rfl

theorem perform_evaluateCommand_of_raised {script message : Text} {host after : Host}
    (raised : (Host.evaluate script).perform host = (.error (.script message), after)) :
    (evaluateCommand script).perform host = (.ok (judged after message), after) := by
  rw [evaluateCommand, perform_tryCatch, perform_map, raised]
  exact perform_judge (isSome_of_raised raised) message

theorem perform_evaluateCommand_of_value {script value : Text} {host after : Host}
    (valued : (Host.evaluate script).perform host = (.ok value, after)) :
    (evaluateCommand script).perform host = (.ok (.success value), after) := by
  rw [evaluateCommand, perform_tryCatch, perform_map, valued]

end Evaluator

/-! ## Hosts that raise nothing else -/

namespace Host

/-- No evaluation from here on raises anything but an error of the language. -/
def RaisesErrorsOnly (host : Host) : Prop :=
  ∀ later, Continues host later → ∀ script failure after,
    (evaluate script).perform later = (.error failure, after) →
      ∃ message, failure = .script message

theorem RaisesErrorsOnly.of_continues {host later : Host} (h : host.RaisesErrorsOnly)
    (continues : Continues host later) : later.RaisesErrorsOnly := by
  intro latest further
  exact h latest (trans_of Continues continues further)

/-- Such a host has an interpreter, for without one every evaluation is refused. -/
theorem RaisesErrorsOnly.isSome {host : Host} (h : host.RaisesErrorsOnly) :
    host.interpreter.isSome = true := by
  cases held : host.interpreter with
  | none =>
      obtain ⟨message, impossible⟩ :=
        h host (refl_of Continues host) "" _ _ (perform_evaluate_of_released held)
      cases impossible
  | some interpreter => rfl

/-- Plain steps raise errors of the language only. -/
theorem failsOnly_runSteps {steps : List Step} (plain : steps.all Step.isPlain = true)
    (result : Text) :
    FailsOnly (fun failure => ∃ message, failure = .script message) (runSteps result steps) := by
  induction steps generalizing result with
  | nil => exact failsOnly_pure _
  | cons step rest ih =>
      rw [List.all_cons, Bool.and_eq_true] at plain
      have later := ih plain.2
      cases step with
      | result text => exact later text
      | error message code => exact (failsOnly_modify _).bind fun _ => failsOnly_throw ⟨_, rfl⟩
      | remove name => exact (failsOnly_modify _).bind fun _ => later result
      | print text => exact (failsOnly_modify _).bind fun _ => later ""
      | exit => cases plain.1
      | catchExit => cases plain.1
      | call name arguments => cases plain.1
      | raise failure => cases plain.1

/-- An interpreter all of whose scripts are plain raises errors of the language only,
whatever its commands are. -/
theorem raisesErrorsOnly_of_plain {host : Host} {interpreter : Interpreter}
    (held : host.interpreter = some interpreter)
    (plain : ∀ entry ∈ interpreter.table.scripts, entry.2.all Step.isPlain = true) :
    host.RaisesErrorsOnly := by
  intro later continues script failure after failed
  rcases continues.interpreter with ⟨released, _⟩ | ⟨first, last, there, held', table, _⟩
  · rw [held] at released
    cases released
  have same : last.table = interpreter.table := by
    rw [held] at there
    cases there
    exact table
  rw [evaluate, perform_bind_of_ok (perform_interpreterNow held'), same] at failed
  revert failed
  apply show FailsOnly (fun failure => ∃ message, failure = .script message) _ from ?_
  split
  · split
    · exact failsOnly_throw ⟨_, rfl⟩
    · exact failsOnly_pure _
  split
  · exact failsOnly_pure _
  refine FailsOnly.bind (failsOnly_modify _) fun _ => ?_
  split
  next steps known =>
    have entry : (script, steps) ∈ interpreter.table.scripts := by
      obtain ⟨front, back, split, _⟩ := List.lookup_eq_some_iff.mp known
      simp [split]
    exact failsOnly_runSteps (plain _ entry) ""
  · split
    · exact failsOnly_pure _
    · exact (failsOnly_modify _).bind fun _ => failsOnly_throw ⟨_, rfl⟩

theorem succeeds_of_eq {change : Host → Host}
    (interpreter : ∀ host, (change host).interpreter = host.interpreter)
    (engine : ∀ host, (change host).engine = host.engine) :
    Succeeds RaisesErrorsOnly (modify change : HostM PUnit) :=
  succeeds_modify fun host h => h.of_continues (.of_eq (interpreter host) (engine host))

theorem succeeds_emit (event : Event) : Succeeds RaisesErrorsOnly (emit event) :=
  succeeds_of_eq (fun _ => rfl) fun _ => rfl

end Host

namespace Evaluator

open Host

theorem succeeds_evaluateCommand (script : Text) :
    Succeeds RaisesErrorsOnly (evaluateCommand script) := by
  intro host raisesOnly
  have continues := ((evaluates_evaluateCommand script) host).continues
  rcases evaluated : (Host.evaluate script).perform host with ⟨failure | value, after⟩
  · obtain ⟨message, rfl⟩ := raisesOnly host (refl_of Continues host) script _ _ evaluated
    have performed := perform_evaluateCommand_of_raised evaluated
    rw [performed] at continues
    exact ⟨_, _, performed, raisesOnly.of_continues continues⟩
  · have performed := perform_evaluateCommand_of_value evaluated
    rw [performed] at continues
    exact ⟨_, _, performed, raisesOnly.of_continues continues⟩

theorem succeeds_evaluate (script : Text) : Succeeds RaisesErrorsOnly (evaluate script) := by
  have cleared : Succeeds RaisesErrorsOnly (setExiting false) :=
    succeeds_of_eq (fun _ => rfl) fun _ => rfl
  exact cleared.bind fun _ => succeeds_evaluateCommand script

theorem succeeds_showIf (asked : Bool) (text : Text) :
    Succeeds RaisesErrorsOnly (showIf asked text) := by
  cases asked with
  | false => exact succeeds_pure _
  | true => exact succeeds_emit _

theorem succeeds_runCommands (echo verbose : Bool) (last : Outcome) (commands : List String) :
    Succeeds RaisesErrorsOnly (runCommands echo verbose last commands) := by
  induction commands generalizing last with
  | nil => exact succeeds_pure _
  | cons command rest ih =>
      rw [runCommands_cons]
      split
      · exact ih last
      apply (succeeds_showIf echo command).bind
      intro _
      apply (succeeds_evaluateCommand command).bind
      intro outcome
      split
      · exact succeeds_pure _
      apply succeeds_get_bind
      intro host _
      split
      · exact succeeds_pure _
      · exact (succeeds_showIf _ _).bind fun _ => ih outcome

end Evaluator

end CommandShell
