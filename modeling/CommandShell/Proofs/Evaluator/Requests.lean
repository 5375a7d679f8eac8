/-
# What every request to an evaluator keeps

Whatever is requested of an evaluator, its interpreter changes in few ways: commands are
registered that the request brings along, and apart from that they are taken away at most.
What outlives these, every request keeps, and every sequence of requests, whatever fails
on the way.
-/

import CommandShell.Evaluator.Request
import CommandShell.Proofs.Host.Steps

namespace CommandShell

namespace Event

/-- The name of the command that an event creates. -/
def created? : Event → Option String
  | .createCommand name => some name
  | _ => none

/-- The names of the commands that events create, in order and with repetitions. -/
def created (events : List Event) : List String :=
  events.filterMap created?

theorem created_append (front back : List Event) :
    created (front ++ back) = created front ++ created back :=
  List.filterMap_append

theorem created_eq_nil {events : List Event} (h : ∀ event ∈ events, event.created? = none) :
    created events = [] :=
  List.filterMap_eq_nil_iff.mpr h

end Event

namespace Evaluator

open Act Event Host

/-- The host that a sequence of requests leaves, each served from where the one before it
left off. -/
def leftBy (words : List String) (files : FileTree) (host : Host) (requests : List Request) :
    Host :=
  requests.foldl (fun host request => ((serve words files request).perform host).2) host

/-- The names under which a request registers commands, in order. -/
def Request.names : Request → List String
  | .register name _ => [name]
  | .registerExit => [exitCallbackName]
  | .registerEngine _ => Engine.queries.map Engine.Query.name
  | _ => []

/-- The commands that requests register, each under its name. -/
inductive Registrable : String → Command → Prop
  | recorder (name : String) (answer : Option Text) : Registrable name (.recorder answer)
  | exit (listener : ExitListener) : Registrable exitCallbackName (.exitCallback listener)
  | query (query : Engine.Query) : Registrable query.name (.engine query)

/-- Everything that requests do to an interpreter keeps the relation. -/
structure KeptByRequests (R : Host → Host → Prop) : Prop where
  shrinks : ∀ {before after}, Shrinks before.interpreter after.interpreter → R before after
  define : ∀ {name command}, Registrable name command →
    Moves R (changeInterpreter (·.define name command))
  release : ∀ {before after}, after.interpreter = none → R before after

/-! ## Requests that register nothing -/

/-- Nothing is registered: commands are taken away from the interpreter at most, and no event
says that one has been created. -/
structure RegistersNothing (before after : Host) : Prop where
  interpreter : Shrinks before.interpreter after.interpreter
  registered : after.registered = before.registered
  created : created after.log = created before.log

instance : IsPreorder Host RegistersNothing where
  refl _ := ⟨Shrinks.refl _, rfl, rfl⟩
  trans _ _ _ ab bc :=
    ⟨ab.interpreter.trans bc.interpreter, bc.registered.trans ab.registered,
      bc.created.trans ab.created⟩

theorem registersNothing_emit {event : Event} (quiet : event.created? = none) :
    Moves RegistersNothing (emit event) := by
  intro host
  refine ⟨Shrinks.refl _, rfl, ?_⟩
  have none : created [event] = [] := created_eq_nil (by simpa using quiet)
  rw [perform_emit, created_append, none, List.append_nil]

theorem registersNothing_setExiting (exiting : Bool) :
    Moves RegistersNothing (setExiting exiting) := by
  intro host
  exact ⟨Shrinks.refl _, rfl, rfl⟩

theorem registersNothing_remove (name : String) :
    Moves RegistersNothing (changeInterpreter (·.remove name)) := by
  intro host
  obtain ⟨_, runs⟩ := runsTo_remove name host
  exact ⟨runs.interpreter, rfl, rfl⟩

theorem registersNothing_of_evaluates {script : Text} {before after : Host}
    (h : Evaluates script before after) : RegistersNothing before after := by
  obtain ⟨steps, runs⟩ := h
  have handed : created (before.handing script) = [] := by
    rcases before.handing_eq_nil_or script with none | one
    · rw [none]
      rfl
    · rw [one]
      rfl
  have ran : created steps = [] := by
    apply created_eq_nil
    intro event member
    have step := runs.isStep event member
    cases event <;> first | rfl | cases step
  refine ⟨runs.interpreter, runs.registered, ?_⟩
  rw [runs.log, created_append, created_append, handed, ran, List.append_nil, List.append_nil]

theorem registersNothing_hostEvaluate (script : Text) :
    Moves RegistersNothing (Host.evaluate script) :=
  (evaluates_evaluate script).mono registersNothing_of_evaluates

theorem registersNothing_evaluateCommand (script : Text) :
    Moves RegistersNothing (evaluateCommand script) :=
  (evaluates_evaluateCommand script).mono registersNothing_of_evaluates

theorem registersNothing_setVariable (name : String) (value : Setting) :
    Moves RegistersNothing (setVariable name value) :=
  moves_interpreterNow.discard.bind fun _ => registersNothing_emit rfl

theorem registersNothing_unregister (name : String) :
    Moves RegistersNothing (unregister name) := by
  apply (registersNothing_emit rfl).bind
  intro _
  refine moves_interpreterNow.bind fun interpreter => ?_
  split
  · exact registersNothing_remove name
  · exact registersNothing_emit rfl

theorem registersNothing_showIf (asked : Bool) (text : Text) :
    Moves RegistersNothing (showIf asked text) := by
  cases asked with
  | false => exact moves_pure _
  | true => exact registersNothing_emit rfl

/-- Cutting a script changes nothing. -/
theorem moves_commandsIn {R : Host → Host → Prop} [IsPreorder Host R] (script : String) :
    Moves R (commandsIn script) := by
  rw [commandsIn]
  split
  · exact moves_pure _
  · exact moves_interpreterNow.bind fun _ => moves_pure _

theorem registersNothing_runCommands (echo verbose : Bool) (last : Outcome)
    (commands : List String) :
    Moves RegistersNothing (runCommands echo verbose last commands) := by
  induction commands generalizing last with
  | nil => exact moves_pure _
  | cons command rest ih =>
      rw [runCommands_cons]
      split
      · exact ih last
      apply (registersNothing_showIf echo command).bind
      intro _
      apply (registersNothing_evaluateCommand command).bind
      intro outcome
      split
      · exact moves_pure _
      refine moves_get.bind fun host => ?_
      split
      · exact moves_pure _
      · exact (registersNothing_showIf _ _).bind fun _ => ih outcome

theorem registersNothing_sourceFile (files : FileTree) (path : Path) (echo verbose : Bool) :
    Moves RegistersNothing (sourceFile files path echo verbose) := by
  rw [Evaluator.sourceFile]
  split
  · apply (registersNothing_setExiting false).bind
    intro _
    exact (moves_commandsIn _).bind fun commands => registersNothing_runCommands _ _ _ _
  · exact moves_pure _
  · exact moves_throw _

theorem registersNothing_publish (words : List String) :
    Moves RegistersNothing (publish words) := by
  apply (registersNothing_setVariable _ _).bind
  intro _
  apply (registersNothing_setVariable _ _).bind
  intro _
  apply (registersNothing_setVariable _ _).bind
  intro _
  apply (registersNothing_setVariable _ _).bind
  intro _
  exact (registersNothing_hostEvaluate _).bind fun release => registersNothing_emit rfl

theorem registersNothing_serve (words : List String) (files : FileTree) {request : Request}
    (noNames : request.names = []) (held : request ≠ .release) :
    Moves RegistersNothing (serve words files request) := by
  cases request with
  | evaluate script =>
      have evaluated : Moves RegistersNothing (evaluate script) :=
        (registersNothing_setExiting false).bind fun _ => registersNothing_evaluateCommand script
      exact evaluated.bind fun _ => moves_pure _
  | source path echo verbose =>
      exact (registersNothing_sourceFile files path echo verbose).bind fun _ => moves_pure _
  | isComplete text =>
      have asked : Moves RegistersNothing (isComplete text) :=
        moves_interpreterNow.bind fun _ => moves_pure _
      exact asked.bind fun _ => moves_pure _
  | commandsIn script => exact (moves_commandsIn script).bind fun _ => moves_pure _
  | register name answer => cases noNames
  | registerExit => cases noNames
  | registerEngine engine => cases noNames
  | publish => exact (registersNothing_publish words).bind fun _ => moves_pure _
  | release => exact absurd rfl held

/-! ## Requests of any kind -/

section Kept

variable {R : Host → Host → Prop} (kept : KeptByRequests R)

include kept

theorem KeptByRequests.of_registersNothing {before after : Host}
    (h : RegistersNothing before after) : R before after :=
  kept.shrinks h.interpreter

variable [IsPreorder Host R]

theorem KeptByRequests.register {name : String} {command : Command}
    (registrable : Registrable name command) : Moves R (register name command) := by
  have noted : ∀ host : Host, R host { host with registered := host.registered ++ [name] } :=
    fun _ => kept.shrinks (Shrinks.refl _)
  refine moves_interpreterNow.discard.bind fun _ => ?_
  refine Moves.bind (R := R) (fun _ => kept.shrinks (Shrinks.refl _)) fun _ => ?_
  apply (kept.define registrable).bind
  intro _
  exact moves_modify noted

theorem KeptByRequests.releaseInterpreter : Moves R Evaluator.release := by
  refine moves_get.bind fun host => ?_
  split
  · exact moves_pure _
  refine moves_get.bind fun host => ?_
  refine Moves.bind (R := R) (moves_forM fun name _ => ?_) fun _ => ?_
  · exact (registersNothing_unregister name).mono kept.of_registersNothing
  · exact moves_modify fun _ => kept.release rfl

theorem KeptByRequests.serve (words : List String) (files : FileTree) (request : Request) :
    Moves R (serve words files request) := by
  cases request with
  | register name answer =>
      exact (kept.register (.recorder name answer)).bind fun _ => moves_pure _
  | registerExit =>
      have evaluated : Moves R (Host.evaluate exitProcedure) :=
        (registersNothing_hostEvaluate _).mono kept.of_registersNothing
      have bound : Moves R (registerExit .observer) :=
        (kept.register (.exit .observer)).bind fun _ => evaluated.discard
      exact bound.bind fun _ => moves_pure _
  | registerEngine engine =>
      refine Moves.bind (R := R) (fun _ => kept.shrinks (Shrinks.refl _)) fun _ => ?_
      refine Moves.bind (R := R) ?_ fun _ => moves_pure _
      exact moves_forM fun query _ => kept.register (.query query)
  | release => exact kept.releaseInterpreter.bind fun _ => moves_pure _
  | _ => exact (registersNothing_serve words files rfl (by simp)).mono kept.of_registersNothing

theorem KeptByRequests.leftBy (words : List String) (files : FileTree) (host : Host)
    (requests : List Request) : R host (leftBy words files host requests) := by
  induction requests generalizing host with
  | nil => exact refl_of R host
  | cons first rest ih => exact trans_of R (kept.serve words files first host) (ih _)

end Kept

end Evaluator

end CommandShell
