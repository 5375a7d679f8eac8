/-
# Evaluations that do not ask the engine

A script reaches the engine through the commands of the engine and in no other way.  So
as long as an interpreter holds none of them, two hosts that share it answer alike,
whatever their engines, their flags and their records.
-/

import CommandShell.Proofs.Agreement
import CommandShell.Proofs.Host.Records

namespace CommandShell

namespace Interpreter

/-- No command of the interpreter asks the engine. -/
def IsEngineFree (interpreter : Interpreter) : Prop :=
  ∀ name query, (name, Command.engine query) ∉ interpreter.commands

variable {interpreter : Interpreter}

theorem IsEngineFree.remove (free : interpreter.IsEngineFree) (name : String) :
    (interpreter.remove name).IsEngineFree := by
  intro other query member
  exact free other query (List.mem_filter.mp member).1

theorem IsEngineFree.define (free : interpreter.IsEngineFree) (name : String) {command : Command}
    (notEngine : ∀ query, command ≠ .engine query) :
    (interpreter.define name command).IsEngineFree := by
  intro other query member
  rcases List.mem_cons.mp member with same | kept
  · exact notEngine query (congrArg Prod.snd same).symm
  · exact free other query (List.mem_filter.mp kept).1

theorem IsEngineFree.ne_engine (free : interpreter.IsEngineFree) {name : String}
    {command : Command} (known : interpreter.command? name = some command) (query : Engine.Query) :
    command ≠ .engine query := by
  rintro rfl
  exact free name query (Host.mem_of_lookup known)

end Interpreter

namespace Host

open Act

/-- No command of the host's interpreter asks the engine. -/
def IsEngineFree (host : Host) : Prop :=
  ∀ interpreter ∈ host.interpreter, interpreter.IsEngineFree

theorem isEngineFree_fresh (table : ScriptTable) (engine : Engine) :
    (fresh table engine).IsEngineFree := by
  rintro interpreter ⟨⟩ name query member
  cases member

/-- A host that is free of the engine stays so. -/
def StaysFree (before after : Host) : Prop :=
  before.IsEngineFree → after.IsEngineFree

instance : IsPreorder Host StaysFree where
  refl _ := id
  trans _ _ _ := fun first second free => second (first free)

theorem StaysFree.of_shrinks {before after : Host}
    (h : Shrinks before.interpreter after.interpreter) : StaysFree before after := by
  intro free last held name query member
  obtain ⟨first, held', _, commands⟩ := h.exists_of_mem held
  exact free first held' name query (commands member)

theorem staysFree_register (name : String) {command : Command}
    (notEngine : ∀ query, command ≠ .engine query) :
    Moves StaysFree (register name command) := by
  intro host free
  cases held : host.interpreter with
  | none => simpa [register, perform_interpreterNow_of_released held] using free
  | some interpreter =>
      rw [perform_register_of_held held]
      rintro _ ⟨⟩
      exact (free interpreter held).define name notEngine

/-- The two hosts hold the same interpreter, one of the kind, or none. -/
def ShareInterpreter (kind : Interpreter → Prop) (host other : Host) : Prop :=
  other.interpreter = host.interpreter ∧ ∀ interpreter ∈ host.interpreter, kind interpreter

section Kind

variable {kind : Interpreter → Prop}

/-- A change of anything but the interpreter may be a different one on either side. -/
theorem agrees_modify_beside {change change' : Host → Host}
    (kept : ∀ host, (change host).interpreter = host.interpreter)
    (kept' : ∀ host, (change' host).interpreter = host.interpreter) :
    Agrees (ShareInterpreter kind) (modify change : HostM PUnit) (modify change') := by
  apply agrees_modify
  rintro host other ⟨same, ofKind⟩
  exact ⟨by rw [kept, kept', same], by rwa [kept]⟩

theorem agrees_emit (event event' : Event) :
    Agrees (ShareInterpreter kind) (emit event) (emit event') :=
  agrees_modify_beside (fun _ => rfl) fun _ => rfl

theorem agrees_interpreterNow_bind {α : Type} {next next' : Interpreter → HostM α}
    (h : ∀ interpreter, kind interpreter →
      Agrees (ShareInterpreter kind) (next interpreter) (next' interpreter)) :
    Agrees (ShareInterpreter kind) (interpreterNow >>= next) (interpreterNow >>= next') := by
  rintro host other ⟨same, ofKind⟩
  cases held : host.interpreter with
  | none =>
      have held' : other.interpreter = none := same.trans held
      rw [perform_bind_of_error (perform_interpreterNow_of_released held),
        perform_bind_of_error (perform_interpreterNow_of_released held')]
      exact ⟨_, _, _, rfl, rfl, same, ofKind⟩
  | some interpreter =>
      have held' : other.interpreter = some interpreter := same.trans held
      rw [perform_bind_of_ok (perform_interpreterNow held),
        perform_bind_of_ok (perform_interpreterNow held')]
      exact h interpreter (ofKind interpreter held) host other ⟨same, ofKind⟩

theorem agrees_changeInterpreter {change : Interpreter → Interpreter}
    (h : ∀ interpreter, kind interpreter → kind (change interpreter)) :
    Agrees (ShareInterpreter kind) (changeInterpreter change) (changeInterpreter change) := by
  apply agrees_modify
  rintro host other ⟨same, ofKind⟩
  refine ⟨congrArg (Option.map change) same, ?_⟩
  intro changed member
  obtain ⟨interpreter, held, rfl⟩ := Option.map_eq_some_iff.mp member
  exact h interpreter (ofKind interpreter held)

theorem agrees_interpreterNow : Agrees (ShareInterpreter kind) interpreterNow interpreterNow := by
  have asked : Agrees (ShareInterpreter kind) (interpreterNow >>= pure) (interpreterNow >>= pure) :=
    agrees_interpreterNow_bind fun interpreter _ => agrees_pure interpreter
  rwa [bind_pure] at asked

theorem agrees_setVariable (name : String) (value value' : Setting) :
    Agrees (ShareInterpreter kind) (setVariable name value) (setVariable name value') :=
  agrees_interpreterNow.discard.bind fun _ => agrees_emit _ _

theorem agrees_register (name : String) {command : Command}
    (h : ∀ interpreter, kind interpreter → kind (interpreter.define name command)) :
    Agrees (ShareInterpreter kind) (register name command) (register name command) := by
  apply agrees_interpreterNow.discard.bind
  intro _
  apply (agrees_emit _ _).bind
  intro _
  apply (agrees_changeInterpreter h).bind
  intro _
  exact agrees_modify_beside (fun _ => rfl) fun _ => rfl

theorem agrees_hearExit (listener : ExitListener) :
    Agrees (ShareInterpreter kind) (hearExit listener) (hearExit listener) := by
  apply (agrees_emit _ _).bind
  intro _
  refine Agrees.bind (R := ShareInterpreter kind) ?_ fun _ => ?_
  · exact agrees_modify_beside (fun _ => rfl) fun _ => rfl
  cases listener with
  | session => exact agrees_modify_beside (fun _ => rfl) fun _ => rfl
  | observer => exact agrees_emit _ _

theorem agrees_run {command : Command} (notEngine : ∀ query, command ≠ .engine query)
    (arguments : List Text) :
    Agrees (ShareInterpreter kind) (run command arguments) (run command arguments) := by
  cases command with
  | recorder answer => exact (agrees_emit _ _).bind fun _ => agrees_pure _
  | exitCallback listener =>
      cases arguments with
      | nil => exact (agrees_hearExit listener).bind fun _ => agrees_pure _
      | cons argument rest => exact agrees_throw _
  | engine query => exact absurd rfl (notEngine query)

/-- The commands of the engine can be registered whatever the engine is. -/
theorem agrees_registerEngine :
    Agrees (ShareInterpreter fun _ => True) registerEngine registerEngine :=
  agrees_forM _ fun _ => agrees_register _ fun _ _ => trivial

end Kind

/-- The two hosts hold the same interpreter, which does not ask the engine, or none. -/
abbrev ShareEngineFree : Host → Host → Prop :=
  ShareInterpreter Interpreter.IsEngineFree

theorem ShareEngineFree.share {host other : Host} (shared : ShareEngineFree host other) :
    ShareInterpreter (fun _ => True) host other :=
  ⟨shared.1, fun _ _ => trivial⟩

theorem agrees_setErrorCode (code : Text) :
    Agrees ShareEngineFree (setErrorCode code) (setErrorCode code) :=
  agrees_changeInterpreter fun _ free => free

theorem agrees_refuseCommand (name : Text) :
    Agrees ShareEngineFree (refuseCommand name) (refuseCommand name) :=
  (agrees_setErrorCode _).bind fun _ => agrees_throw _

theorem agrees_call (name : String) (arguments : List Text) :
    Agrees ShareEngineFree (call name arguments) (call name arguments) := by
  apply agrees_interpreterNow_bind
  intro interpreter free
  cases known : interpreter.command? name with
  | none => exact agrees_refuseCommand name
  | some command => exact agrees_run (free.ne_engine known) arguments

theorem agrees_runSteps (result : Text) (steps : List Step) :
    Agrees ShareEngineFree (runSteps result steps) (runSteps result steps) := by
  induction steps generalizing result with
  | nil => exact agrees_pure _
  | cons step rest ih =>
      cases step with
      | result text => exact ih text
      | error message code => exact (agrees_setErrorCode code).bind fun _ => agrees_throw _
      | exit =>
          apply (agrees_call _ _).discard.bind
          intro _
          exact (agrees_setErrorCode _).bind fun _ => agrees_throw _
      | catchExit =>
          apply (agrees_call _ _).discard.bind
          intro _
          exact (agrees_setErrorCode _).bind fun _ => ih "1"
      | call name arguments => exact (agrees_call name arguments).bind ih
      | remove name =>
          apply Agrees.bind (R := ShareEngineFree) ?_ fun _ => ih result
          exact agrees_changeInterpreter fun _ free => free.remove name
      | print text => exact (agrees_emit _ _).bind fun _ => ih ""
      | raise failure => exact agrees_throw failure

theorem agrees_evaluate (script : Text) :
    Agrees ShareEngineFree (evaluate script) (evaluate script) := by
  apply agrees_interpreterNow_bind
  intro interpreter _
  split
  · split
    · exact agrees_throw _
    · exact agrees_pure _
  split
  · exact agrees_pure _
  apply (agrees_emit _ _).bind
  intro _
  split
  · exact agrees_runSteps "" _
  split
  · exact agrees_pure _
  · exact agrees_refuseCommand _

end Host

namespace Evaluator

open Act Host

theorem agrees_registerExit (listener : ExitListener) :
    Agrees ShareEngineFree (registerExit listener) (registerExit listener) := by
  apply Agrees.bind (R := ShareEngineFree) ?_ fun _ => (Host.agrees_evaluate _).discard
  exact agrees_register _ fun _ free => free.define _ fun _ => nofun

/-- Any two argument lists are published alike. -/
theorem agrees_publish (words words' : List String) :
    Agrees ShareEngineFree (publish words) (publish words') := by
  apply (agrees_setVariable _ _ _).bind
  intro _
  apply (agrees_setVariable _ _ _).bind
  intro _
  apply (agrees_setVariable _ _ _).bind
  intro _
  apply (agrees_setVariable _ _ _).bind
  intro _
  exact (Host.agrees_evaluate _).bind fun release => agrees_emit _ _

end Evaluator

end CommandShell
