/-
# The release of the interpreter

Before the interpreter is let go, each name that was registered is removed once, in order.
One that is gone by then, because a script has removed it or because it was registered
twice, is noted and passed over, so a release never fails.  Afterwards every request that
needs the interpreter is refused, and nothing is recorded any more.
-/

import CommandShell.Proofs.Evaluator.Reading
import CommandShell.Proofs.Evaluator.Requests

namespace CommandShell

open Act

namespace Event

/-- The name of the command that is to be removed. -/
def deleted? : Event → Option String
  | .deleteCommand name => some name
  | _ => none

/-- An event of a release: a command is to be removed, or was gone already. -/
def isRemoval : Event → Bool
  | .deleteCommand _ | .diagnostic .evaluator _ => true
  | _ => false

end Event

namespace Interpreter

theorem remove_of_command?_eq_none {interpreter : Interpreter} {name : String}
    (unknown : interpreter.command? name = none) : interpreter.remove name = interpreter := by
  have kept : interpreter.commands.filter (fun entry => entry.1 != name) =
      interpreter.commands := by
    rw [List.filter_eq_self]
    intro entry member
    exact bne_comm.trans (List.lookup_eq_none_iff.mp unknown entry member)
  rw [remove, kept]

theorem mem_commands_foldl_remove {entry : String × Command} (interpreter : Interpreter)
    (names : List String) :
    entry ∈ (names.foldl remove interpreter).commands ↔
      entry ∈ interpreter.commands ∧ entry.1 ∉ names := by
  induction names generalizing interpreter with
  | nil => simp
  | cons name rest ih =>
      rw [List.foldl_cons, ih]
      simp [remove, and_assoc]

end Interpreter

namespace Host

/-- What is recorded of the removal of names, one after another. -/
def removals (interpreter : Interpreter) : List String → List Event
  | [] => []
  | name :: rest =>
    let noted : List Event :=
      if (interpreter.command? name).isSome then []
      else [.diagnostic .evaluator ("command " ++ name ++ " already deleted")]
    .deleteCommand name :: noted ++ removals (interpreter.remove name) rest

/-- The removal of every name is attempted once, in order. -/
theorem deleted_removals (interpreter : Interpreter) (names : List String) :
    (removals interpreter names).filterMap Event.deleted? = names := by
  induction names generalizing interpreter with
  | nil => rfl
  | cons name rest ih =>
      rw [removals]
      split <;> simp [List.filterMap_cons, Event.deleted?, ih]

theorem isRemoval_of_mem_removals {interpreter : Interpreter} {names : List String} :
    ∀ event ∈ removals interpreter names, event.isRemoval = true := by
  induction names generalizing interpreter with
  | nil => simp [removals]
  | cons name rest ih =>
      intro event member
      rw [removals] at member
      rcases List.mem_cons.mp member with rfl | member
      · rfl
      rcases List.mem_append.mp member with noted | later
      · split at noted
        · cases noted
        · rw [List.mem_singleton.mp noted]
          rfl
      · exact ih event later

variable {host : Host} {interpreter : Interpreter}

theorem perform_unregister (held : host.interpreter = some interpreter) (name : String) :
    (unregister name).perform host =
      (.ok (), { host with
        interpreter := some (interpreter.remove name)
        log := host.log ++ removals interpreter [name] }) := by
  cases known : interpreter.command? name with
  | none =>
      have same := Interpreter.remove_of_command?_eq_none known
      simp [unregister, interpreterNow, held, known, removals, same]
  | some command => simp [unregister, interpreterNow, held, known, changeInterpreter, removals]

theorem perform_forM_unregister (held : host.interpreter = some interpreter)
    (names : List String) :
    (names.forM unregister).perform host =
      (.ok (), { host with
        interpreter := some (names.foldl Interpreter.remove interpreter)
        log := host.log ++ removals interpreter names }) := by
  induction names generalizing host interpreter with
  | nil =>
      obtain ⟨_⟩ := host
      cases held
      simp [removals]
  | cons name rest ih =>
      let between : Host := { host with
        interpreter := some (interpreter.remove name)
        log := host.log ++ removals interpreter [name] }
      have still : between.interpreter = some (interpreter.remove name) := rfl
      refine ((perform_bind_of_ok (perform_unregister held name) _).trans (ih still)).trans ?_
      simp [between, removals]

end Host

namespace Evaluator

open Host

variable {host : Host} {interpreter : Interpreter}

theorem perform_release_of_held (held : host.interpreter = some interpreter) :
    release.perform host =
      (.ok (), { host with
        interpreter := none
        registered := []
        log := host.log ++ removals interpreter host.registered }) := by
  rw [release, perform_bind_of_ok (perform_get host)]
  simp only [held]
  rw [perform_bind_of_ok (perform_get host),
    perform_bind_of_ok (perform_forM_unregister held host.registered)]
  rfl

/-- Once the interpreter is released, there is nothing to do. -/
theorem perform_release_of_released (released : host.interpreter = none) :
    release.perform host = (.ok (), host) := by
  simp [release, released]

/-- The interpreter can always be released; only removals are recorded. -/
theorem exists_perform_release (host : Host) :
    ∃ registered removed, release.perform host =
        (.ok (), { host with
          interpreter := none
          registered
          log := host.log ++ removed }) ∧
      ∀ event ∈ removed, event.isRemoval = true := by
  cases held : host.interpreter with
  | none =>
      refine ⟨host.registered, [], ?_, by simp⟩
      rw [perform_release_of_released held, List.append_nil, ← held]
  | some interpreter =>
      exact ⟨[], _, perform_release_of_held held, isRemoval_of_mem_removals⟩

/-! ## Requests after the release -/

/-- The request cannot be served without an interpreter: all but a release, and the texts
that have no line to ask about. -/
def Request.NeedsInterpreter (files : FileTree) : Request → Prop
  | .source path _ _ => ∃ text, TextFile.read files path = .ok text ∧ Text.lines text.toList ≠ []
  | .commandsIn script => Text.lines script.toList ≠ []
  | .release => False
  | _ => True

section Released

variable (released : host.interpreter = none)

include released

theorem perform_register_of_released (name : String) (command : Command) :
    (register name command).perform host = (.error .finalized, host) := by
  simp [register, perform_interpreterNow_of_released released]

theorem perform_setVariable_of_released (name : String) (value : Setting) :
    (setVariable name value).perform host = (.error .finalized, host) := by
  simp [setVariable, perform_interpreterNow_of_released released]

theorem perform_evaluateCommand_of_released (script : Text) :
    (evaluateCommand script).perform host = (.error .finalized, host) := by
  simp [evaluateCommand, perform_evaluate_of_released released]

/-- A file is refused if it has a line. -/
theorem exists_perform_source_of_released (words : List String) (files : FileTree)
    (path : Path) (echo verbose : Bool) :
    ∃ answer exiting,
      (serve words files (.source path echo verbose)).perform host =
        (answer, { host with exiting }) ∧
      (answer = .error .finalized ↔
        ∃ text, TextFile.read files path = .ok text ∧ Text.lines text.toList ≠ []) := by
  have replied {answer : Except Failure Outcome} {after : Host}
      (performed : (sourceFile files path echo verbose).perform host = (answer, after)) :
      (serve words files (.source path echo verbose)).perform host =
        (answer.map .outcome, after) := by
    rw [serve, perform_bind, performed]
    cases answer <;> rfl
  cases damaged : TextFile.damage? files path with
  | some failure =>
      have other : failure ≠ .finalized := by
        rcases TextFile.damage?_eq_some_iff.mp damaged with ⟨_, rfl⟩ | ⟨_, _, _, _, rfl⟩ <;> simp
      have unread : ∀ text, TextFile.read files path ≠ .ok text := by
        intro text readable
        rw [TextFile.damage?, readable] at damaged
        cases damaged
      refine ⟨_, host.exiting, replied (perform_sourceFile_of_damage damaged), ?_⟩
      simp [Except.map, other, unread]
  | none =>
      rcases TextFile.exists_text_or_fault damaged with ⟨text, readable⟩ | ⟨error, place, refused⟩
      · refine ⟨_, false, replied (perform_sourceFile_of_released readable released), ?_⟩
        by_cases noLines : Text.lines text.toList = [] <;> simp [Except.map, readable, noLines]
      · refine ⟨_, host.exiting, replied (perform_sourceFile_of_fault refused), ?_⟩
        simp [Except.map, TextFile.read_of_refusal refused]

/-- Without an interpreter a request is refused exactly if it needs one, and nothing comes of
any request but what the host notes for itself. -/
theorem exists_perform_serve_of_released (words : List String) (files : FileTree)
    (request : Request) :
    ∃ answer exiting engine,
      (serve words files request).perform host = (answer, { host with exiting, engine }) ∧
      (answer = .error .finalized ↔ request.NeedsInterpreter files) := by
  cases request with
  | evaluate script =>
      have refused : (evaluateCommand script).perform { host with exiting := false } =
          (.error .finalized, { host with exiting := false }) := by
        apply perform_evaluateCommand_of_released
        exact released
      refine ⟨.error .finalized, false, host.engine, ?_, by simp [Request.NeedsInterpreter]⟩
      simp [serve, evaluate, perform_setExiting, refused]
  | source path echo verbose =>
      obtain ⟨answer, exiting, performed, refused_iff⟩ :=
        exists_perform_source_of_released released words files path echo verbose
      exact ⟨answer, exiting, host.engine, performed, refused_iff⟩
  | isComplete text =>
      refine ⟨.error .finalized, host.exiting, host.engine, ?_, by simp [Request.NeedsInterpreter]⟩
      simp [serve, isComplete, perform_interpreterNow_of_released released]
  | commandsIn script =>
      have cut := perform_commandsIn_of_released released script
      by_cases noLines : Text.lines script.toList = []
      · refine ⟨.ok (.commands []), host.exiting, host.engine, ?_, ?_⟩
        · simp [serve, cut, noLines]
        · simp [Request.NeedsInterpreter, noLines]
      · refine ⟨.error .finalized, host.exiting, host.engine, ?_, ?_⟩
        · simp [serve, cut, noLines]
        · simp [Request.NeedsInterpreter, noLines]
  | register name answer =>
      refine ⟨.error .finalized, host.exiting, host.engine, ?_, by simp [Request.NeedsInterpreter]⟩
      simp [serve, perform_register_of_released released]
  | registerExit =>
      refine ⟨.error .finalized, host.exiting, host.engine, ?_, by simp [Request.NeedsInterpreter]⟩
      simp [serve, registerExit, perform_register_of_released released]
  | registerEngine engine =>
      have refused (command : Command) (name : String) :
          (register name command).perform { host with engine } =
            (.error .finalized, { host with engine }) := by
        apply perform_register_of_released
        exact released
      refine ⟨.error .finalized, host.exiting, engine, ?_, by simp [Request.NeedsInterpreter]⟩
      simp [serve, registerEngine, Engine.queries, refused]
  | publish =>
      refine ⟨.error .finalized, host.exiting, host.engine, ?_, by simp [Request.NeedsInterpreter]⟩
      simp [serve, publish, perform_setVariable_of_released released]
  | release =>
      refine ⟨.ok .nothing, host.exiting, host.engine, ?_, by simp [Request.NeedsInterpreter]⟩
      simp [serve, perform_release_of_released released]

end Released

end Evaluator

end CommandShell
