/-
# What the error code hides

An evaluation that ends in an error of the language is answered by the error code: if it
is the code of an exit, the error counts as none.  The code is set by the exit procedure
after its callback, but a script can set it as well, an error can be raised without
touching it, and another command can stand where the callback is expected.  Nothing else
makes the code of an exit, and every error with another code is answered by its message.
-/

import CommandShell.Proofs.Evaluator.Requests
import CommandShell.Proofs.Host.Errors
import CommandShell.Proofs.Host.Failures

namespace CommandShell

open Act

namespace Host

/-- Whatever the exit procedure calls notes the exit. -/
def BindsExit (host : Host) : Prop :=
  ∀ interpreter ∈ host.interpreter, ∀ command,
    (exitCallbackName, command) ∈ interpreter.commands →
      ∃ listener, command = .exitCallback listener

/-- The exit has been run on the way from one host to another. -/
def RanExit (before after : Host) : Prop :=
  ∃ events, after.log = before.log ++ events ∧ .exitRun ∈ events

theorem BindsExit.of_shrinks {before after : Host} (binds : before.BindsExit)
    (shrinks : Shrinks before.interpreter after.interpreter) : after.BindsExit := by
  intro last there command bound
  obtain ⟨first, held, _, commands⟩ := shrinks.exists_of_mem there
  exact binds first held command (commands bound)

theorem RanExit.of_runsTo {a b c : Host} (ran : RanExit a b) (runs : RunsTo b c) :
    RanExit a c := by
  obtain ⟨events, log, exited⟩ := ran
  obtain ⟨more, runs⟩ := runs
  exact ⟨events ++ more, by rw [runs.log, log, List.append_assoc], List.mem_append_left _ exited⟩

theorem RanExit.of_recorded {a b c : Host} {more : List Event} (log : b.log = a.log ++ more)
    (ran : RanExit b c) : RanExit a c := by
  obtain ⟨events, log', exited⟩ := ran
  exact ⟨more ++ events, by rw [log', log, List.append_assoc], List.mem_append_right _ exited⟩

/-- The host with another error code. -/
def coded (host : Host) (code : Text) : Host :=
  { host with interpreter := host.interpreter.map ({ · with errorCode := code }) }

/-- A code that is shown is the one that was set last. -/
theorem eq_of_shownCode_coded {host : Host} {code : Text}
    (shown : (host.coded code).shownCode = exitErrorCode) : code = exitErrorCode := by
  have empty : ("" : Text) ≠ exitErrorCode := by decide
  rw [shownCode, coded] at shown
  cases held : host.interpreter with
  | none =>
      rw [held] at shown
      exact absurd shown empty
  | some interpreter =>
      simp only [held, Option.map_some] at shown
      split at shown
      · exact absurd shown empty
      · exact shown

/-- The code of an unknown command is not that of an exit. -/
theorem lookupCode_ne_exitErrorCode (name : Text) :
    "TCL LOOKUP COMMAND " ++ name ≠ exitErrorCode := by
  intro same
  cases name with
  | plain characters =>
      have heads := congrArg (·.toList.head?) (Text.plain.inj same)
      simp [exitErrorCode] at heads
  | broken before surrogate behind => nomatch same

/-! ## A command -/

section Call

variable {name : String} {arguments : List Text} {host after : Host}
  {answer : Except Failure Text}

/-- What the run of a command comes to: the interpreter is left as it was, no error of the
language is raised, and the callback of an exit notes the exit if it answers. -/
theorem answers_of_run {command : Command}
    (performed : (run command arguments).perform host = (answer, after)) :
    after.interpreter = host.interpreter ∧ (∀ message, answer ≠ .error (.script message)) ∧
      ∀ listener value, command = .exitCallback listener → answer = .ok value →
        RanExit host after := by
  cases command with
  | recorder reply =>
      cases performed
      exact ⟨rfl, by simp, by simp⟩
  | exitCallback listener =>
      cases arguments with
      | nil =>
          cases listener <;> cases performed <;> refine ⟨rfl, by simp, fun _ _ _ _ => ?_⟩
          · exact ⟨[.exitRun], rfl, by simp⟩
          · exact ⟨[.exitRun, .exitHeard], by simp, by simp⟩
      | cons argument rest =>
          cases performed
          exact ⟨rfl, by simp, by simp⟩
  | engine query =>
      cases arguments with
      | nil =>
          rw [perform_run_engine] at performed
          cases performed
          refine ⟨rfl, fun message failed => ?_, by simp⟩
          cases query with
          | version => cases failed
          | threads =>
              rw [Engine.answer] at failed
              split at failed <;> cases failed
      | cons argument rest =>
          cases performed
          exact ⟨rfl, by simp, by simp⟩

/-- A command is run, or it is refused under a code of its own. -/
theorem call_cases (held : host.interpreter.isSome = true)
    (performed : (call name arguments).perform host = (answer, after)) :
    (∃ interpreter command, host.interpreter = some interpreter ∧
      (name, command) ∈ interpreter.commands ∧
      (run command arguments).perform host = (answer, after)) ∨
    ∃ message, answer = .error (.script message) ∧
      after = host.coded ("TCL LOOKUP COMMAND " ++ name) := by
  obtain ⟨interpreter, there⟩ := Option.isSome_iff_exists.mp held
  rw [call, perform_bind_of_ok (perform_interpreterNow there)] at performed
  cases known : interpreter.command? name with
  | some command =>
      rw [known] at performed
      exact .inl ⟨interpreter, command, there, mem_of_lookup known, performed⟩
  | none =>
      rw [known] at performed
      cases performed
      exact .inr ⟨_, rfl, rfl⟩

/-- Only an interpreter that is held calls commands. -/
theorem isSome_of_call (performed : (call name arguments).perform host = (answer, after))
    (unreleased : answer ≠ .error .finalized) : host.interpreter.isSome = true := by
  cases held : host.interpreter with
  | some interpreter => rfl
  | none =>
      rw [call, perform_bind_of_error (perform_interpreterNow_of_released held)] at performed
      cases performed
      exact absurd rfl unreleased

/-- A command that answers has left the interpreter as it was. -/
theorem interpreter_of_call {value : Text}
    (answered : (call name arguments).perform host = (.ok value, after)) :
    after.interpreter = host.interpreter := by
  have held := isSome_of_call answered nofun
  rcases call_cases held answered with ⟨_, command, _, _, ran⟩ | ⟨_, failed, _⟩
  · exact (answers_of_run ran).1
  · cases failed

/-- The callback of an exit has noted the exit if it answers. -/
theorem ranExit_of_call (binds : host.BindsExit) {value : Text}
    (answered : (call exitCallbackName arguments).perform host = (.ok value, after)) :
    RanExit host after := by
  rcases call_cases (isSome_of_call answered nofun) answered with
    ⟨interpreter, command, there, bound, ran⟩ | ⟨_, failed, _⟩
  · obtain ⟨listener, same⟩ := binds interpreter there command bound
    exact (answers_of_run ran).2.2 listener value same rfl
  · cases failed

/-- An error that a call raises is no error of an exit. -/
theorem shownCode_of_call {message : Text}
    (raised : (call name arguments).perform host = (.error (.script message), after)) :
    after.shownCode ≠ exitErrorCode := by
  rcases call_cases (isSome_of_call raised nofun) raised with ⟨_, command, _, _, ran⟩ | ⟨_, _, rfl⟩
  · exact absurd rfl ((answers_of_run ran).2.1 message)
  · exact fun shown => lookupCode_ne_exitErrorCode name (eq_of_shownCode_coded shown)

end Call

/-! ## The steps of a script -/

/-- Why the error code is that of an exit once some steps have raised an error. -/
inductive CodeOfExit (steps : List Step) (before after : Host) : Prop
  /-- The exit was run. -/
  | ran (exited : RanExit before after)
  /-- An error was raised with this code. -/
  | forged (message : Text) (step : .error message exitErrorCode ∈ steps)
  /-- An error was raised that has left the code as it was. -/
  | stale (message : Text) (step : .raise (.script message) ∈ steps)
      (already : before.shownCode = exitErrorCode)

theorem CodeOfExit.of_recorded {steps : List Step} {before between after : Host}
    {more : List Event} (code : CodeOfExit steps between after)
    (log : between.log = before.log ++ more) (kept : between.shownCode = before.shownCode) :
    CodeOfExit steps before after := by
  cases code with
  | ran exited => exact .ran (exited.of_recorded log)
  | forged message step => exact .forged message step
  | stale message step already => exact .stale message step (kept.symm.trans already)

/-- What follows a step explains the code, if the step has kept it. -/
theorem CodeOfExit.cons {step : Step} {steps : List Step} {before between after : Host}
    {more : List Event} (code : CodeOfExit steps between after)
    (log : between.log = before.log ++ more) (kept : between.shownCode = before.shownCode) :
    CodeOfExit (step :: steps) before after := by
  have later : CodeOfExit (step :: steps) between after := by
    cases code with
    | ran exited => exact .ran exited
    | forged message member => exact .forged message (List.mem_cons_of_mem _ member)
    | stale message member already =>
        exact .stale message (List.mem_cons_of_mem _ member) already
  exact later.of_recorded log kept

theorem shownCode_of_interpreter {before after : Host}
    (same : after.interpreter = before.interpreter) : after.shownCode = before.shownCode := by
  rw [shownCode, same, ← shownCode]

/-- If the exit procedure is called and an error is raised with the code of an exit, the
exit has been run. -/
theorem ranExit_of_exit {next : HostM Text} {message : Text} {host after : Host}
    (binds : host.BindsExit) (runs : Moves RunsTo next)
    (raised : (discard (call exitCallbackName []) >>= fun _ => next).perform host =
      (.error (.script message), after))
    (code : after.shownCode = exitErrorCode) : RanExit host after := by
  rw [perform_bind, perform_discard] at raised
  rcases called : (call exitCallbackName []).perform host with ⟨failure | value, between⟩ <;>
    rw [called] at raised
  · cases raised
    exact absurd code (shownCode_of_call called)
  · exact (ranExit_of_call binds called).of_runsTo (runs.of_perform raised)

/-- An error with the code of an exit is explained by the steps.  What carries the
induction: as long as no exit has been run, the code is the one from before the steps, and
whatever the exit procedure calls notes the exit. -/
theorem codeOfExit_of_runSteps {steps : List Step} {result message : Text} {host after : Host}
    (binds : host.BindsExit)
    (raised : (runSteps result steps).perform host = (.error (.script message), after))
    (code : after.shownCode = exitErrorCode) : CodeOfExit steps host after := by
  induction steps generalizing result host with
  | nil => cases raised
  | cons step rest ih =>
      cases step with
      | result text => exact (ih binds raised).cons (List.append_nil _).symm rfl
      | error text set =>
          cases raised
          rw [eq_of_shownCode_coded code]
          exact .forged _ List.mem_cons_self
      | exit =>
          have unwinds : Moves RunsTo
              (do setErrorCode exitErrorCode; throw (.script "") : HostM Text) :=
            (runsTo_setErrorCode _).bind fun _ => moves_throw _
          exact .ran (ranExit_of_exit binds unwinds raised code)
      | catchExit =>
          have goesOn : Moves RunsTo (do setErrorCode exitErrorCode; runSteps "1" rest) :=
            (runsTo_setErrorCode _).bind fun _ => runsTo_runSteps "1" rest
          exact .ran (ranExit_of_exit binds goesOn raised code)
      | call name arguments =>
          rw [runSteps, perform_bind] at raised
          rcases called : (call name arguments).perform host with ⟨failure | value, between⟩ <;>
            rw [called] at raised
          · cases raised
            exact absurd code (shownCode_of_call called)
          · have same := interpreter_of_call called
            obtain ⟨events, runs⟩ := (runsTo_call name arguments).of_perform called
            exact (ih (binds.of_shrinks runs.interpreter) raised).cons runs.log
              (shownCode_of_interpreter same)
      | remove name =>
          obtain ⟨events, runs⟩ := runsTo_remove name host
          have same : ((changeInterpreter (·.remove name)).perform host).2.shownCode =
              host.shownCode := by
            rw [shownCode, shownCode]
            cases held : host.interpreter <;> simp [changeInterpreter, held, Interpreter.remove]
          exact (ih (binds.of_shrinks runs.interpreter) raised).cons runs.log same
      | print text =>
          rw [runSteps, perform_bind_of_ok (perform_emit _ _)] at raised
          have stillBinds : BindsExit { host with log := host.log ++ [.printed text] } := binds
          exact (ih stillBinds raised).cons rfl rfl
      | raise failure =>
          cases raised
          exact .stale message List.mem_cons_self code

/-- The same of a whole script, which has no steps if it is refused. -/
theorem codeOfExit_of_evaluate {script message : Text} {host after : Host}
    (binds : host.BindsExit)
    (raised : (evaluate script).perform host = (.error (.script message), after))
    (code : after.shownCode = exitErrorCode) : CodeOfExit (host.stepsOf script) host after := by
  cases held : host.interpreter with
  | none =>
      rw [perform_evaluate_of_released held] at raised
      cases raised
  | some interpreter =>
      rw [evaluate, perform_bind_of_ok (perform_interpreterNow held)] at raised
      split at raised
      · split at raised
        next hidden =>
          cases raised
          have unread : host.shownCode = "" := by
            rw [shownCode, held]
            exact if_pos hidden
          rw [unread] at code
          exact absurd code (by decide)
        · cases raised
      split at raised
      · cases raised
      rw [perform_bind_of_ok (perform_emit _ _)] at raised
      split at raised
      next steps known =>
        have same : host.stepsOf script = steps := by
          simp [stepsOf, held, known]
        have stillBinds : BindsExit { host with log := host.log ++ [.script script] } := binds
        rw [same]
        have explained := codeOfExit_of_runSteps stillBinds raised code
        exact explained.of_recorded rfl rfl
      · split at raised
        · cases raised
        · cases raised
          exact absurd (eq_of_shownCode_coded code) (lookupCode_ne_exitErrorCode _)

/-! ## What stands for the callback -/

/-- No query of the engine stands where the callback of an exit is expected. -/
def NoEngineExit (host : Host) : Prop :=
  ∀ interpreter ∈ host.interpreter, ∀ query,
    (exitCallbackName, Command.engine query) ∉ interpreter.commands

/-- A command stands there that a request has registered in the place of the callback. -/
def ReplacesExit (host : Host) : Prop :=
  ∃ interpreter ∈ host.interpreter, ∃ answer,
    (exitCallbackName, Command.recorder answer) ∈ interpreter.commands

theorem NoEngineExit.binds_or_replaces {host : Host} (noEngine : host.NoEngineExit) :
    host.BindsExit ∨ host.ReplacesExit := by
  rcases Classical.em host.ReplacesExit with replaces | notReplaced
  · exact .inr replaces
  left
  intro interpreter there command bound
  cases command with
  | exitCallback listener => exact ⟨listener, rfl⟩
  | recorder answer => exact absurd ⟨interpreter, there, answer, bound⟩ notReplaced
  | engine query => exact absurd bound (noEngine interpreter there query)

/-- No query of the engine comes to stand for the callback. -/
def KeepsNoEngineExit (before after : Host) : Prop :=
  before.NoEngineExit → after.NoEngineExit

instance : IsPreorder Host KeepsNoEngineExit where
  refl _ := id
  trans _ _ _ := fun ab bc noEngine => bc (ab noEngine)

theorem noEngineExit_of_shrinks {before after : Host}
    (shrinks : Shrinks before.interpreter after.interpreter) : KeepsNoEngineExit before after := by
  intro noEngine last there query bound
  obtain ⟨first, held, _, commands⟩ := shrinks.exists_of_mem there
  exact noEngine first held query (commands bound)

end Host

namespace Evaluator

open Host

theorem noEngineExit_requests : KeptByRequests KeepsNoEngineExit where
  shrinks := noEngineExit_of_shrinks
  define := by
    intro name command registrable host noEngine last defined query bound
    obtain ⟨interpreter, held, rfl⟩ := Option.map_eq_some_iff.mp defined
    rcases List.mem_cons.mp bound with same | kept
    · cases registrable with
      | recorder => cases same
      | exit => cases same
      | query other =>
          have names : exitCallbackName = other.name := congrArg Prod.fst same
          cases other <;> exact absurd names (by decide)
    · exact noEngine interpreter held query (List.mem_filter.mp kept).1
  release := by
    intro before after released noEngine last there
    rw [released] at there
    cases there

/-- **An error is hidden by the code of an exit, and by nothing else.**  After any requests
to a fresh evaluator, let the evaluation of a script end in an error of the language.  If
the error code then is any but that of an exit, the answer is a failure with the message
of the error, whatever exits have been run before or during the evaluation.  If it is
that of an exit, the answer is an empty success, and then the exit was run during the
evaluation, or the script has a step that raises an error with this code, or one that
raises an error without a code where the code of an exit was left from before; or a
request has registered another command in the place of the callback. -/
theorem error_hidden_by_code (words : List String) (files : FileTree) (table : ScriptTable)
    (engine : Engine) (requests : List Request) (script : Text) {message : Text}
    {after : Host} :
    let host := leftBy words files (.fresh table engine) requests
    let answer := (evaluate script).perform host
    (Host.evaluate script).perform { host with exiting := false } =
        (.error (.script message), after) →
      (after.shownCode ≠ exitErrorCode → answer = (.ok (.failure message), after)) ∧
      (after.shownCode = exitErrorCode → answer = (.ok (.success ""), after) ∧
        (CodeOfExit (host.stepsOf script) host after ∨ host.ReplacesExit)) := by
  intro host answer raised
  have answered : answer = (.ok (judged after message), after) :=
    perform_evaluateCommand_of_raised raised
  constructor
  · intro other
    rw [answered, judged, if_neg other]
  · intro code
    refine ⟨by rw [answered, judged, if_pos code], ?_⟩
    have fresh : NoEngineExit (.fresh table engine) := by
      rintro interpreter ⟨⟩ query bound
      cases bound
    have noEngine := noEngineExit_requests.leftBy words files (.fresh table engine) requests fresh
    refine noEngine.binds_or_replaces.imp_left fun binds => ?_
    have cleared : BindsExit { host with exiting := false } := binds
    have explained := codeOfExit_of_evaluate cleared raised code
    exact explained.of_recorded (List.append_nil _).symm rfl

/-- Scripts that end in errors: after an exit that is caught, with the code of an exit, and
without a code. -/
def erring : ScriptTable where
  scripts := [("slip", [.catchExit]), ("stumble", [.catchExit, .error "boom" "NONE"]),
    ("forge", [.error "boom" exitErrorCode]), ("odd", [.raise (.script "boom")])]

/-- An exit that is caught does not hide the error after it. -/
theorem error_hidden_by_code_stumble :
    let host := leftBy [] {} (.fresh erring { version := "1" }) [.registerExit]
    ∃ after,
      (Host.evaluate "stumble").perform { host with exiting := false } =
        (.error (.script "boom"), after) ∧
      after.shownCode ≠ exitErrorCode ∧
      (evaluate "stumble").perform host = (.ok (.failure "boom"), after) := by
  intro host
  have raised : (Host.evaluate "stumble").perform { host with exiting := false } =
      (.error (.script "boom"),
        ((Host.evaluate "stumble").perform { host with exiting := false }).2) :=
    Prod.ext rfl rfl
  have code : ((Host.evaluate "stumble").perform
      { host with exiting := false }).2.shownCode ≠ exitErrorCode := by
    decide +kernel
  exact ⟨_, raised, code,
    (error_hidden_by_code [] {} erring { version := "1" } [.registerExit] "stumble" raised).1 code⟩

/-- Two errors that are hidden although no exit is run while they are raised: one has the
code of an exit from the script itself, and one finds it left from an earlier
evaluation. -/
theorem codes_hide_errors_without_exit :
    let forging := Host.fresh erring { version := "1" }
    let slipped := leftBy [] {} forging [.registerExit, .evaluate "slip"]
    let forged := (Host.evaluate "forge").perform { forging with exiting := false }
    let odd := (Host.evaluate "odd").perform { slipped with exiting := false }
    forged.1 = .error (.script "boom") ∧
      (evaluate "forge").perform forging = (.ok (.success ""), forged.2) ∧
      forged.2.log = forging.log ++ [.script "forge"] ∧
      odd.1 = .error (.script "boom") ∧
      (evaluate "odd").perform slipped = (.ok (.success ""), odd.2) ∧
      odd.2.log = slipped.log ++ [.script "odd"] := by
  refine ⟨rfl, ?_, by decide +kernel, rfl, ?_, by decide +kernel⟩
  · rfl
  · rfl

end Evaluator

end CommandShell
