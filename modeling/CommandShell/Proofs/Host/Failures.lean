/-
# What evaluations raise

Errors of the command language are outcomes.  Beyond them an evaluation raises what a
step of its script raises, and otherwise only failures that a conversation survives:
the interpreter has been released, a command is called with arguments that it does not
take, or a number is too long to be written.
-/

import CommandShell.Proofs.Host.Steps

namespace CommandShell

/-- The step raises nothing, or a failure that is survived. -/
def Step.isOrdinary : Step → Bool
  | .raise failure => failure.isOrdinary
  | _ => true

open Act

namespace Host

theorem survivable_interpreterNow : Survivable interpreterNow := by
  refine FailsOnly.bind failsOnly_get fun host => ?_
  cases host.interpreter with
  | none => exact failsOnly_throw rfl
  | some interpreter => exact failsOnly_pure _

theorem survivable_refuseCommand (name : Text) : Survivable (refuseCommand name) :=
  (failsOnly_modify _).bind fun _ => failsOnly_throw rfl

theorem survivable_hearExit (listener : ExitListener) : Survivable (hearExit listener) := by
  refine FailsOnly.bind (failsOnly_modify _) fun _ => ?_
  refine FailsOnly.bind (failsOnly_modify _) fun _ => ?_
  cases listener <;> exact failsOnly_modify _

theorem isOrdinary_of_answer {engine : Engine} {query : Engine.Query} {failure : Failure}
    (h : engine.answer query = .error failure) : failure.isOrdinary = true := by
  cases query with
  | version => cases h
  | threads =>
      rw [Engine.answer] at h
      split at h <;> cases h
      rfl

theorem survivable_run (command : Command) (arguments : List Text) :
    Survivable (run command arguments) := by
  cases command with
  | recorder answer => exact (failsOnly_modify _).bind fun _ => failsOnly_pure _
  | exitCallback listener =>
      have heard : Survivable (hearExit listener *> pure ("" : Text)) := by
        rw [seqRight_eq_bind]
        exact (survivable_hearExit listener).bind fun _ => failsOnly_pure _
      cases arguments with
      | nil => exact heard
      | cons first rest => exact FailsOnly.bind (failsOnly_throw rfl) fun _ => heard
  | engine query =>
      have answered : Survivable (do
          let text ← (← (get : HostM Host)).engine.answer query
          pure (text : Text)) := by
        refine failsOnly_get.bind fun host => ?_
        exact (failsOnly_lift fun _ => isOrdinary_of_answer).bind fun _ => failsOnly_pure _
      cases arguments with
      | nil => exact answered
      | cons first rest => exact FailsOnly.bind (failsOnly_throw rfl) fun _ => answered

theorem survivable_call (name : String) (arguments : List Text) :
    Survivable (call name arguments) := by
  refine survivable_interpreterNow.bind fun interpreter => ?_
  split
  · exact survivable_run _ arguments
  · exact survivable_refuseCommand name

/-- Steps raise what one of them raises, and otherwise nothing that is not survived. -/
theorem survivable_runSteps {steps : List Step} (ordinary : steps.all Step.isOrdinary = true)
    (result : Text) : Survivable (runSteps result steps) := by
  induction steps generalizing result with
  | nil => exact failsOnly_pure _
  | cons step rest ih =>
      rw [List.all_cons, Bool.and_eq_true] at ordinary
      have later := ih ordinary.2
      cases step with
      | result text => exact later text
      | error message code => exact (failsOnly_modify _).bind fun _ => failsOnly_throw rfl
      | exit =>
          apply ((survivable_call _ _).map _).bind
          intro _
          exact (failsOnly_modify _).bind fun _ => failsOnly_throw rfl
      | catchExit =>
          apply ((survivable_call _ _).map _).bind
          intro _
          exact (failsOnly_modify _).bind fun _ => later "1"
      | call name arguments => exact (survivable_call name arguments).bind later
      | remove name => exact (failsOnly_modify _).bind fun _ => later result
      | print text => exact (failsOnly_modify _).bind fun _ => later ""
      | raise failure => exact failsOnly_throw ordinary.1

/-- The steps that the interpreter has for a script, if it is held and has any. -/
def stepsOf (host : Host) (script : Text) : List Step :=
  match host.interpreter with
  | some interpreter => (interpreter.table.scripts.lookup script).getD []
  | none => []

theorem stepsOf_of_shrinks {host later : Host}
    (shrinks : Shrinks host.interpreter later.interpreter) (script : Text) :
    later.stepsOf script = host.stepsOf script := by
  rcases shrinks with ⟨before, after⟩ | ⟨_, _, before, after, table, _⟩
  · simp only [stepsOf, before, after]
  · simp only [stepsOf, before, after, table]

theorem isOrdinary_of_evaluate {script : Text} {host after : Host} {failure : Failure}
    (ordinary : (host.stepsOf script).all Step.isOrdinary = true)
    (failed : (evaluate script).perform host = (.error failure, after)) :
    failure.isOrdinary = true := by
  cases held : host.interpreter with
  | none =>
      rw [evaluate, perform_bind_of_error (perform_interpreterNow_of_released held)] at failed
      cases failed
      rfl
  | some interpreter =>
      rw [evaluate, perform_bind_of_ok (perform_interpreterNow held)] at failed
      revert failed
      apply show Survivable _ from ?_
      split
      · split
        · exact failsOnly_throw rfl
        · exact failsOnly_pure _
      split
      · exact failsOnly_pure _
      refine FailsOnly.bind (failsOnly_modify _) fun _ => ?_
      split
      next steps known =>
        rw [stepsOf, held] at ordinary
        simp only [known, Option.getD_some] at ordinary
        exact survivable_runSteps ordinary ""
      · split
        · exact failsOnly_pure _
        · exact survivable_refuseCommand _

/-- No evaluation of the script from here on raises a failure that is not survived. -/
def Spares (host : Host) (script : Text) : Prop :=
  ∀ later : Host, Shrinks host.interpreter later.interpreter → ∀ failure,
    ((Evaluator.evaluate script).perform later).1 = .error failure → failure.isOrdinary = true

theorem Spares.of_shrinks {host later : Host} {script : Text} (spares : host.Spares script)
    (shrinks : Shrinks host.interpreter later.interpreter) : later.Spares script := by
  intro latest shrinks'
  exact spares latest (shrinks.trans shrinks')

end Host

namespace Evaluator

theorem survivable_judge (message : Text) : Survivable (judge message) := by
  have query : Survivable (Host.evaluate errorCodeQuery) := by
    refine Host.survivable_interpreterNow.bind fun interpreter => ?_
    rw [if_pos rfl]
    split
    · exact failsOnly_throw rfl
    · exact failsOnly_pure _
  have code : Survivable errorCode := by
    refine query.tryCatch fun failure ordinary => ?_
    split
    · exact failsOnly_pure _
    · exact failsOnly_throw ordinary
  refine code.bind fun code => ?_
  split <;> exact failsOnly_pure _

end Evaluator

/-- Whether a script spares a conversation can be seen from its steps. -/
theorem Host.spares_of_steps {host : Host} {script : Text}
    (ordinary : (host.stepsOf script).all Step.isOrdinary = true) : host.Spares script := by
  intro later shrinks failure failed
  let cleared : Host := { later with exiting := false }
  have ran : (Evaluator.evaluate script).perform later =
      (Evaluator.evaluateCommand script).perform cleared := rfl
  have same : cleared.stepsOf script = host.stepsOf script := stepsOf_of_shrinks shrinks script
  rw [← same] at ordinary
  rw [ran, Evaluator.evaluateCommand, perform_tryCatch, perform_map] at failed
  rcases hact : (Host.evaluate script).perform cleared with ⟨obstacle | value, after⟩ <;>
    rw [hact] at failed
  · have survived := Host.isOrdinary_of_evaluate ordinary hact
    cases obstacle with
    | script message =>
        exact Evaluator.survivable_judge message after failure _ (Prod.ext failed rfl)
    | _ =>
        cases failed
        exact survived
  · cases failed

end CommandShell
