/-
# The commands of the engine

Where an interpreter is held, it can be set up: variables are set, the release is asked for
and commands are registered without failure.  Nothing in this touches the engine, and no
script can; and when one of its commands is called, it answers with what the engine is by
then.
-/

import CommandShell.Proofs.Engine
import CommandShell.Proofs.Host.Errors
import CommandShell.Proofs.Host.Records

namespace CommandShell.Host

open Act

/-! ## What leaves the engine alone -/

/-- The engine is the same. -/
def KeepsEngine (before after : Host) : Prop :=
  after.engine = before.engine

instance : IsPreorder Host KeepsEngine where
  refl _ := rfl
  trans _ _ _ ab bc := bc.trans ab

theorem keepsEngine_evaluate (script : Text) : Moves KeepsEngine (evaluate script) :=
  (evaluates_evaluate script).mono fun ⟨_, runs⟩ => runs.engine

theorem keepsEngine_setVariable (name : String) (value : Setting) :
    Moves KeepsEngine (setVariable name value) :=
  moves_interpreterNow.discard.bind fun _ => moves_modify fun _ => rfl

theorem keepsEngine_register (name : String) (command : Command) :
    Moves KeepsEngine (register name command) := by
  refine moves_interpreterNow.discard.bind fun _ => ?_
  refine Moves.bind (moves_modify fun _ => rfl) fun _ => ?_
  exact Moves.bind (moves_modify fun _ => rfl) fun _ => moves_modify fun _ => rfl

theorem keepsEngine_registerEngine : Moves KeepsEngine registerEngine :=
  moves_forM fun _ _ => keepsEngine_register _ _

theorem keepsEngine_registerExit (listener : ExitListener) :
    Moves KeepsEngine (Evaluator.registerExit listener) :=
  (keepsEngine_register _ _).bind fun _ => (keepsEngine_evaluate _).discard

theorem keepsEngine_publish (words : List String) :
    Moves KeepsEngine (Evaluator.publish words) := by
  refine (keepsEngine_setVariable _ _).bind fun _ => ?_
  refine (keepsEngine_setVariable _ _).bind fun _ => ?_
  refine (keepsEngine_setVariable _ _).bind fun _ => ?_
  refine (keepsEngine_setVariable _ _).bind fun _ => ?_
  exact (keepsEngine_evaluate _).bind fun _ => moves_modify fun _ => rfl

/-! ## Setting up an interpreter that is held -/

/-- There is an interpreter. -/
def Holds (host : Host) : Prop :=
  host.interpreter.isSome = true

theorem holds_of_evaluate {script value : Text} {host after : Host}
    (evaluated : (evaluate script).perform host = (.ok value, after)) : after.Holds := by
  cases held : host.interpreter with
  | none =>
      rw [perform_evaluate_of_released held] at evaluated
      cases evaluated
  | some interpreter =>
      obtain ⟨_, runs⟩ := (evaluates_evaluate script).of_perform evaluated
      rw [Holds, runs.interpreter.isSome_eq]
      simp [held]

theorem holds_of_registerExit {listener : ExitListener} {host after : Host} {answer : Unit}
    (registered : (Evaluator.registerExit listener).perform host = (.ok answer, after)) :
    after.Holds := by
  obtain ⟨_, between, _, defined⟩ := perform_bind_eq_ok registered
  rw [perform_discard] at defined
  rcases evaluated : (evaluate exitProcedure).perform between with ⟨failure | value, last⟩
  · rw [evaluated] at defined
    cases defined
  · rw [evaluated] at defined
    cases defined
    exact holds_of_evaluate evaluated

theorem succeeds_interpreterNow : Succeeds Holds interpreterNow := by
  intro host holds
  obtain ⟨interpreter, held⟩ := Option.isSome_iff_exists.mp holds
  exact ⟨interpreter, host, perform_interpreterNow held, holds⟩

theorem succeeds_setVariable (name : String) (value : Setting) :
    Succeeds Holds (setVariable name value) := by
  rw [setVariable, discard]
  refine Succeeds.bind ?_ fun _ => succeeds_modify fun _ holds => holds
  exact succeeds_interpreterNow.bind fun _ => succeeds_pure _

theorem succeeds_publish (words : List String) : Succeeds Holds (Evaluator.publish words) := by
  have released : Succeeds Holds (evaluate releaseQuery) := by
    intro host holds
    obtain ⟨interpreter, held⟩ := Option.isSome_iff_exists.mp holds
    refine ⟨languageRelease, host, ?_, holds⟩
    rw [evaluate, perform_bind_of_ok (perform_interpreterNow held), if_neg (by decide),
      if_pos rfl, perform_pure]
  refine (succeeds_setVariable _ _).bind fun _ => ?_
  refine (succeeds_setVariable _ _).bind fun _ => ?_
  refine (succeeds_setVariable _ _).bind fun _ => ?_
  refine (succeeds_setVariable _ _).bind fun _ => ?_
  exact released.bind fun _ => succeeds_modify fun _ holds => holds

/-! ## Engine commands that are registered -/

/-- The commands of the engine are registered, each under its name. -/
def AnswersQueries (host : Host) : Prop :=
  ∃ interpreter, host.interpreter = some interpreter ∧
    ∀ query : Engine.Query, interpreter.command? query.name = some (.engine query)

/-- They can be registered wherever an interpreter is held. -/
theorem exists_perform_registerEngine {host : Host} (holds : host.Holds) :
    ∃ after, registerEngine.perform host = (.ok (), after) ∧ after.AnswersQueries := by
  obtain ⟨interpreter, held⟩ := Option.isSome_iff_exists.mp holds
  have both : registerEngine = (do
      register Engine.Query.version.name (.engine .version)
      register Engine.Query.threads.name (.engine .threads)) := by
    simp [registerEngine, Engine.queries]
  rw [both, perform_bind_of_ok (perform_register_of_held held _ _), perform_register_of_held rfl]
  refine ⟨_, rfl, _, rfl, fun query => ?_⟩
  cases query with
  | threads => exact Interpreter.command?_define_self _ _ _
  | version =>
      rw [Interpreter.command?_define_of_ne _ _ (by decide)]
      exact Interpreter.command?_define_self _ _ _

/-- A command answers with what the engine is when it is called, and calling it changes
nothing. -/
theorem AnswersQueries.perform_call {host : Host} (answers : host.AnswersQueries)
    (query : Engine.Query) :
    (call query.name []).perform host = ((host.engine.answer query).map .plain, host) := by
  obtain ⟨interpreter, held, registered⟩ := answers
  rw [call, perform_bind_of_ok (perform_interpreterNow held), registered query]
  exact perform_run_engine query host

end CommandShell.Host
