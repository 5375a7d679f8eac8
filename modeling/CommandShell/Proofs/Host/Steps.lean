/-
# What a script can do

A script changes the host that runs it in a few ways only: it prints and calls,
which is recorded, it sets the error code, it removes commands, and it runs the
exit.  Everything else about the host it leaves as it was.  Whatever is said of
running scripts later on is read off this one description.
-/

import CommandShell.Evaluator
import CommandShell.Proofs.Moves

namespace CommandShell

/-- An event of a running script. -/
def Event.isStep : Event → Bool
  | .printed _ | .called _ | .exitRun | .exitHeard => true
  | _ => false

namespace Host

/-- An interpreter that has lost no more than commands and has another error
code at most. -/
def Shrinks (before after : Option Interpreter) : Prop :=
  (before = none ∧ after = none) ∨
    ∃ first last, before = some first ∧ after = some last ∧ last.table = first.table ∧
      last.commands ⊆ first.commands

theorem Shrinks.refl (interpreter : Option Interpreter) : Shrinks interpreter interpreter := by
  cases interpreter with
  | none => exact .inl ⟨rfl, rfl⟩
  | some interpreter => exact .inr ⟨_, _, rfl, rfl, rfl, List.Subset.refl _⟩

theorem Shrinks.trans {a b c : Option Interpreter} (hab : Shrinks a b) (hbc : Shrinks b c) :
    Shrinks a c := by
  rcases hab with ⟨rfl, rfl⟩ | ⟨first, middle, rfl, rfl, table, commands⟩
  · exact hbc
  · rcases hbc with ⟨impossible, _⟩ | ⟨_, last, heq, rfl, table', commands'⟩
    · cases impossible
    · cases heq
      exact .inr ⟨_, _, rfl, rfl, table'.trans table, List.Subset.trans commands' commands⟩

theorem Shrinks.exists_of_mem {before after : Option Interpreter} (h : Shrinks before after)
    {last : Interpreter} (there : last ∈ after) :
    ∃ first ∈ before, last.table = first.table ∧ last.commands ⊆ first.commands := by
  rcases h with ⟨_, rfl⟩ | ⟨first, _, rfl, rfl, table, commands⟩
  · cases there
  · cases there
    exact ⟨first, rfl, table, commands⟩

/-- The exit command, wherever it is bound, ends the session. -/
def HearsExit (host : Host) : Prop :=
  ∀ interpreter ∈ host.interpreter, ∀ name listener,
    (name, Command.exitCallback listener) ∈ interpreter.commands → listener = .session

/-- A stretch of a running script, with the events it records. -/
structure Runs (before : Host) (events : List Event) (after : Host) : Prop where
  log : after.log = before.log ++ events
  isStep : ∀ event ∈ events, event.isStep = true
  interpreter : Shrinks before.interpreter after.interpreter
  registered : after.registered = before.registered
  engine : after.engine = before.engine
  exiting : before.exiting = true ∨ .exitRun ∈ events → after.exiting = true
  exitingOnly : after.exiting = true → before.exiting = true ∨ .exitRun ∈ events
  staysTerminated : before.terminated = true → after.terminated = true
  terminated : before.HearsExit → .exitRun ∈ events → after.terminated = true

/-- A running script leads from one host to another. -/
def RunsTo (before after : Host) : Prop :=
  ∃ events, Runs before events after

theorem HearsExit.of_shrinks {before after : Host} (hears : before.HearsExit)
    (h : Shrinks before.interpreter after.interpreter) : after.HearsExit := by
  intro last hlast name listener bound
  obtain ⟨first, hfirst, _, commands⟩ := h.exists_of_mem hlast
  exact hears first hfirst name listener (commands bound)

theorem Runs.hearsExit {before after : Host} {events : List Event} (h : Runs before events after)
    (hears : before.HearsExit) : after.HearsExit :=
  hears.of_shrinks h.interpreter

theorem Runs.refl (host : Host) : Runs host [] host where
  log := (List.append_nil _).symm
  isStep := by simp
  interpreter := Shrinks.refl _
  registered := rfl
  engine := rfl
  exiting := by simp
  exitingOnly := .inl
  staysTerminated := id
  terminated := by simp

theorem Runs.trans {a b c : Host} {first second : List Event} (hab : Runs a first b)
    (hbc : Runs b second c) : Runs a (first ++ second) c where
  log := by rw [hbc.log, hab.log, List.append_assoc]
  isStep := by
    intro event member
    rcases List.mem_append.mp member with inFirst | inSecond
    · exact hab.isStep event inFirst
    · exact hbc.isStep event inSecond
  interpreter := hab.interpreter.trans hbc.interpreter
  registered := hbc.registered.trans hab.registered
  engine := hbc.engine.trans hab.engine
  exiting := by
    intro h
    apply hbc.exiting
    rw [List.mem_append, ← or_assoc] at h
    exact h.imp_left hab.exiting
  exitingOnly := by
    intro noted
    rw [List.mem_append, ← or_assoc]
    exact (hbc.exitingOnly noted).imp_left hab.exitingOnly
  staysTerminated := fun h => hbc.staysTerminated (hab.staysTerminated h)
  terminated := by
    intro hears member
    rcases List.mem_append.mp member with inFirst | inSecond
    · exact hbc.staysTerminated (hab.terminated hears inFirst)
    · exact hbc.terminated (hab.hearsExit hears) inSecond

instance : IsPreorder Host RunsTo where
  refl host := ⟨[], Runs.refl host⟩
  trans _ _ _ := fun ⟨first, hab⟩ ⟨second, hbc⟩ => ⟨first ++ second, hab.trans hbc⟩

/-! ## The operations of a script -/

open Act

/-- Asking for the interpreter changes nothing. -/
theorem moves_interpreterNow {R : Host → Host → Prop} [IsPreorder Host R] :
    Moves R interpreterNow := by
  refine moves_get.bind fun host => ?_
  cases host.interpreter with
  | none => exact moves_throw _
  | some interpreter => exact moves_pure _

theorem runsTo_emit {event : Event} (step : event.isStep = true) (quiet : event ≠ .exitRun) :
    Moves RunsTo (emit event) := by
  intro host
  refine ⟨[event], ?_⟩
  exact
    { log := rfl
      isStep := by simpa using step
      interpreter := Shrinks.refl _
      registered := rfl
      engine := rfl
      exiting := by
        rintro (already | member)
        · exact already
        · exact absurd (List.mem_singleton.mp member).symm quiet
      exitingOnly := .inl
      staysTerminated := id
      terminated := by
        intro _ member
        exact absurd (List.mem_singleton.mp member).symm quiet }

theorem runsTo_changeInterpreter {change : Interpreter → Interpreter}
    (table : ∀ interpreter, (change interpreter).table = interpreter.table)
    (commands : ∀ interpreter, (change interpreter).commands ⊆ interpreter.commands) :
    Moves RunsTo (changeInterpreter change) := by
  intro host
  refine ⟨[], { Runs.refl host with interpreter := ?_ }⟩
  cases h : host.interpreter with
  | none => exact .inl ⟨rfl, by simp [changeInterpreter, h]⟩
  | some interpreter =>
      exact .inr ⟨_, _, rfl, by simp [changeInterpreter, h], table interpreter,
        commands interpreter⟩

theorem runsTo_setErrorCode (code : Text) : Moves RunsTo (setErrorCode code) :=
  runsTo_changeInterpreter (fun _ => rfl) fun _ => List.Subset.refl _

theorem runsTo_remove (name : String) : Moves RunsTo (changeInterpreter (·.remove name)) :=
  runsTo_changeInterpreter (fun _ => rfl) fun _ _ member => (List.mem_filter.mp member).1

theorem runsTo_refuseCommand (name : Text) : Moves RunsTo (refuseCommand name) :=
  (runsTo_setErrorCode _).bind fun _ => moves_throw _

/-- The exit command is run: from now on an exit was noted, and if it is bound to
the session, the session has ended. -/
theorem runs_hearExit (host : Host) (listener : ExitListener)
    (bound : host.HearsExit → listener = .session) :
    RunsTo host ((hearExit listener).perform host).2 := by
  cases listener with
  | session =>
      exact ⟨[.exitRun],
        { Runs.refl host with
          log := rfl
          isStep := by simp [Event.isStep]
          exiting := fun _ => rfl
          exitingOnly := fun _ => .inr (by simp)
          staysTerminated := fun _ => rfl
          terminated := fun _ _ => rfl }⟩
  | observer =>
      exact ⟨[.exitRun, .exitHeard],
        { Runs.refl host with
          log := by simp [hearExit]
          isStep := by simp [Event.isStep]
          exiting := fun _ => rfl
          exitingOnly := fun _ => .inr (by simp)
          terminated := fun hears _ => by cases bound hears }⟩

theorem mem_of_lookup {name : String} {command : Command} {commands : List (String × Command)}
    (h : commands.lookup name = some command) : (name, command) ∈ commands := by
  obtain ⟨before, after, rfl, _⟩ := List.lookup_eq_some_iff.mp h
  simp

/-- A command of the engine answers with what the engine says. -/
theorem perform_run_engine (query : Engine.Query) (host : Host) :
    (run (.engine query) []).perform host = ((host.engine.answer query).map .plain, host) := by
  cases answered : host.engine.answer query <;> simp [run, answered, Except.map]

theorem runsTo_run (host : Host) (command : Command) (arguments : List Text)
    (bound : host.HearsExit → ∀ listener, command = .exitCallback listener → listener = .session) :
    RunsTo host ((run command arguments).perform host).2 := by
  cases command with
  | recorder answer =>
      exact (runsTo_emit rfl (by simp)).bind (fun _ => moves_pure _) host
  | exitCallback listener =>
      by_cases given : arguments.isEmpty
      · have heard := runs_hearExit host listener fun hears => bound hears listener rfl
        simp only [run, given]
        exact related_bind heard fun _ between _ => refl_of RunsTo between
      · simpa [run, given] using refl_of RunsTo host
  | engine query =>
      cases arguments with
      | nil =>
          rw [perform_run_engine]
          exact refl_of RunsTo host
      | cons argument rest => exact refl_of RunsTo host

theorem runsTo_call (name : String) (arguments : List Text) :
    Moves RunsTo (call name arguments) := by
  intro host
  cases released : host.interpreter with
  | none =>
      have same := perform_interpreterNow_of_released released
      simpa [call, same] using refl_of RunsTo host
  | some interpreter =>
      have now : interpreterNow.perform host = (.ok interpreter, host) := by
        simp [interpreterNow, released]
      rw [call, perform_bind_of_ok now]
      cases known : interpreter.command? name with
      | none => exact runsTo_refuseCommand name host
      | some command =>
          apply runsTo_run host command arguments
          rintro hears listener rfl
          have entry : (name, Command.exitCallback listener) ∈ interpreter.commands :=
            mem_of_lookup known
          exact hears interpreter released name listener entry

theorem runsTo_runSteps (result : Text) (steps : List Step) :
    Moves RunsTo (runSteps result steps) := by
  induction steps generalizing result with
  | nil => exact moves_pure _
  | cons step rest ih =>
      cases step with
      | result text => exact ih text
      | error message code => exact (runsTo_setErrorCode code).bind fun _ => moves_throw _
      | exit =>
          apply (runsTo_call _ _).discard.bind
          intro _
          exact (runsTo_setErrorCode _).bind fun _ => moves_throw _
      | catchExit =>
          apply (runsTo_call _ _).discard.bind
          intro _
          exact (runsTo_setErrorCode _).bind fun _ => ih "1"
      | call name arguments => exact (runsTo_call name arguments).bind ih
      | remove name => exact (runsTo_remove name).bind fun _ => ih result
      | print text => exact (runsTo_emit rfl (by simp)).bind fun _ => ih ""
      | raise failure => exact moves_throw failure

/-- A script that the host asks for itself, of which no trace is left. -/
def isOwnQuery (script : Text) : Bool :=
  script = errorCodeQuery || script = releaseQuery

/-- What is recorded when a script is handed to the interpreter: the script, unless it
is a query of the host itself or there is no interpreter. -/
def handing (host : Host) (script : Text) : List Event :=
  if host.interpreter.isNone || isOwnQuery script then [] else [.script script]

theorem handing_eq_nil_or (host : Host) (script : Text) :
    host.handing script = [] ∨ host.handing script = [.script script] := by
  rw [handing]
  split
  · exact .inl rfl
  · exact .inr rfl

/-- A script is handed to the interpreter and then runs. -/
def Evaluates (script : Text) (before after : Host) : Prop :=
  ∃ steps, Runs { before with log := before.log ++ before.handing script } steps after

theorem Evaluates.of_silent {script : Text} {host : Host} (h : host.handing script = []) :
    Evaluates script host host :=
  ⟨[], by simpa [h] using Runs.refl host⟩

theorem perform_evaluate_of_released {script : Text} {host : Host}
    (released : host.interpreter = none) :
    (evaluate script).perform host = (.error .finalized, host) := by
  rw [evaluate, perform_bind_of_error (perform_interpreterNow_of_released released)]

theorem evaluates_evaluate (script : Text) : Moves (Evaluates script) (evaluate script) := by
  intro host
  cases released : host.interpreter with
  | none =>
      rw [perform_evaluate_of_released released]
      exact Evaluates.of_silent (by simp [handing, released])
  | some interpreter =>
      rw [evaluate, perform_bind_of_ok (perform_interpreterNow released)]
      by_cases codeQuery : script = errorCodeQuery
      · have unchanged : Evaluates script host host :=
          Evaluates.of_silent (by simp [handing, isOwnQuery, codeQuery])
        rw [if_pos codeQuery]
        split <;> exact unchanged
      by_cases versionQuery : script = releaseQuery
      · rw [if_neg codeQuery, if_pos versionQuery]
        exact Evaluates.of_silent (by simp [handing, isOwnQuery, versionQuery])
      · have handed : host.handing script = [.script script] := by
          simp [handing, isOwnQuery, released, codeQuery, versionQuery]
        rw [if_neg codeQuery, if_neg versionQuery, perform_bind_of_ok (perform_emit _ _)]
        have running : ∀ act : HostM Text, Moves RunsTo act →
            Evaluates script host
              (act.perform { host with log := host.log ++ [.script script] }).2 := by
          intro act runs
          rw [Evaluates, handed]
          exact runs _
        apply running
        split
        · exact runsTo_runSteps "" _
        · split
          · exact moves_pure _
          · exact runsTo_refuseCommand _

end Host

namespace Evaluator

open Act

/-- Reading the error code changes nothing. -/
theorem moves_errorCode : Moves Eq errorCode := by
  have query : Moves Eq (Host.evaluate errorCodeQuery) := by
    refine Host.moves_interpreterNow.bind fun interpreter => ?_
    rw [if_pos rfl]
    split
    · exact moves_throw _
    · exact moves_pure _
  apply query.tryCatch
  intro failure
  cases failure <;> first | exact moves_pure _ | exact moves_throw _

theorem moves_judge (message : Text) : Moves Eq (judge message) := by
  apply moves_errorCode.bind
  intro code
  split <;> exact moves_pure _

/-- Judging what an evaluation came to adds nothing to it. -/
theorem evaluates_evaluateCommand (script : Text) :
    Moves (Host.Evaluates script) (evaluateCommand script) := by
  intro host
  have evaluated := Host.evaluates_evaluate script host
  rw [evaluateCommand, perform_tryCatch, perform_map]
  rcases hact : (Host.evaluate script).perform host with ⟨failure | value, after⟩ <;>
    rw [hact] at evaluated
  · cases failure with
    | script message =>
        have judged := moves_judge message after
        exact judged ▸ evaluated
    | _ => exact evaluated
  · exact evaluated

/-- A text is shown if that is asked for. -/
def showIf (asked : Bool) (text : Text) : HostM Unit :=
  if asked then Host.emit (.output text) else return

/-- One round of the evaluation of a file. -/
theorem runCommands_cons (echo verbose : Bool) (last : Outcome) (command : String)
    (rest : List String) :
    runCommands echo verbose last (command :: rest) =
      if Script.isIdle command then runCommands echo verbose last rest
      else (do
        showIf echo command
        let outcome ← evaluateCommand command
        if !outcome.isSuccess then return outcome
        else if (← get).exiting then return .success ""
        else do
          showIf (verbose && outcome.text != "") outcome.text
          runCommands echo verbose outcome rest) := by
  have shown (asked : Bool) (text : Text) (next : HostM Outcome) :
      (do showIf asked text; next) =
        if asked then (do Host.emit (.output text); next) else next := by
    cases asked with
    | false => exact pure_bind _ _
    | true => rfl
  simp only [runCommands, shown]

end Evaluator

end CommandShell
