/-
# A host does not read its record

No computation on a host looks at what has been recorded.  So two hosts that differ
in their records only do the same, come to the same answers and add the same events,
and a relation between records that survives the addition of one event to both
survives every computation.
-/

import CommandShell.Proofs.Agreement
import CommandShell.Proofs.Host.Records

namespace CommandShell

/-- The relation between records outlives a further event of a host on both sides. -/
def Event.GrowsAlike (L : List Event → List Event → Prop) : Prop :=
  ∀ event, event.isHostEvent = true → ∀ first second, L first second →
    L (first ++ [event]) (second ++ [event])

namespace Host

open Act

/-- The other host has another record, and is the same but for that. -/
def Mirrors (L : List Event → List Event → Prop) (host other : Host) : Prop :=
  ∃ log, L host.log log ∧ other = { host with log }

/-- The computation does the same whatever the record holds. -/
abbrev Blind {α : Type} (L : List Event → List Event → Prop) (act : HostM α) : Prop :=
  Agrees (Mirrors L) act act

section Grows

variable {L : List Event → List Event → Prop}

/-- A change that leaves the record alone and does not look at it. -/
theorem blind_modify {change : Host → Host} (kept : ∀ host, (change host).log = host.log)
    (blind : ∀ (host : Host) log, change { host with log } = { change host with log }) :
    Blind L (modify change : HostM PUnit) := by
  apply agrees_modify
  rintro host other ⟨log, related, rfl⟩
  exact ⟨log, by rwa [kept], blind host log⟩

theorem blind_interpreterNow : Blind L interpreterNow := by
  apply agrees_get_bind
  rintro host other ⟨log, related, rfl⟩
  dsimp only
  cases host.interpreter with
  | none => exact agrees_throw _
  | some interpreter => exact agrees_pure _

theorem blind_changeInterpreter (change : Interpreter → Interpreter) :
    Blind L (changeInterpreter change) :=
  blind_modify (fun _ => rfl) fun _ _ => rfl

theorem blind_refuseCommand (name : Text) : Blind L (refuseCommand name) :=
  (blind_changeInterpreter _).bind fun _ => agrees_throw _

variable (grows : Event.GrowsAlike L)

include grows

theorem blind_emit {event : Event} (own : event.isHostEvent = true) : Blind L (emit event) := by
  apply agrees_modify
  rintro host other ⟨log, related, rfl⟩
  exact ⟨log ++ [event], grows event own _ _ related, rfl⟩

theorem blind_hearExit (listener : ExitListener) : Blind L (hearExit listener) := by
  apply (blind_emit grows rfl).bind
  intro _
  refine Agrees.bind (R := Mirrors L) ?_ fun _ => ?_
  · exact blind_modify (fun _ => rfl) fun _ _ => rfl
  cases listener with
  | session => exact blind_modify (fun _ => rfl) fun _ _ => rfl
  | observer => exact blind_emit grows rfl

theorem blind_run (command : Command) (arguments : List Text) :
    Blind L (run command arguments) := by
  cases command with
  | recorder answer => exact (blind_emit grows rfl).bind fun _ => agrees_pure _
  | exitCallback listener =>
      cases arguments with
      | nil => exact (blind_hearExit grows listener).bind fun _ => agrees_pure _
      | cons argument rest => exact agrees_throw _
  | engine query =>
      cases arguments with
      | nil =>
          apply agrees_get_bind
          rintro host other ⟨log, related, rfl⟩
          exact (agrees_lift _).bind fun _ => agrees_pure _
      | cons argument rest => exact agrees_throw _

theorem blind_call (name : String) (arguments : List Text) : Blind L (call name arguments) := by
  apply blind_interpreterNow.bind
  intro interpreter
  cases interpreter.command? name with
  | none => exact blind_refuseCommand name
  | some command => exact blind_run grows command arguments

theorem blind_runSteps (result : Text) (steps : List Step) : Blind L (runSteps result steps) := by
  induction steps generalizing result with
  | nil => exact agrees_pure _
  | cons step rest ih =>
      cases step with
      | result text => exact ih text
      | error message code =>
          exact (blind_changeInterpreter _).bind fun _ => agrees_throw _
      | exit =>
          apply (blind_call grows _ _).discard.bind
          intro _
          exact (blind_changeInterpreter _).bind fun _ => agrees_throw _
      | catchExit =>
          apply (blind_call grows _ _).discard.bind
          intro _
          exact (blind_changeInterpreter _).bind fun _ => ih "1"
      | call name arguments => exact (blind_call grows name arguments).bind ih
      | remove name => exact (blind_changeInterpreter _).bind fun _ => ih result
      | print text => exact (blind_emit grows rfl).bind fun _ => ih ""
      | raise failure => exact agrees_throw failure

theorem blind_evaluate (script : Text) : Blind L (evaluate script) := by
  apply blind_interpreterNow.bind
  intro interpreter
  split
  · split
    · exact agrees_throw _
    · exact agrees_pure _
  split
  · exact agrees_pure _
  apply (blind_emit grows rfl).bind
  intro _
  split
  · exact blind_runSteps grows "" _
  split
  · exact agrees_pure _
  · exact blind_refuseCommand _

theorem blind_setVariable (name : String) (value : Setting) : Blind L (setVariable name value) :=
  blind_interpreterNow.discard.bind fun _ => blind_emit grows rfl

theorem blind_register (name : String) (command : Command) : Blind L (register name command) := by
  apply blind_interpreterNow.discard.bind
  intro _
  apply (blind_emit grows rfl).bind
  intro _
  apply (blind_changeInterpreter _).bind
  intro _
  exact blind_modify (fun _ => rfl) fun _ _ => rfl

theorem blind_unregister (name : String) : Blind L (unregister name) := by
  apply (blind_emit grows rfl).bind
  intro _
  apply blind_interpreterNow.bind
  intro interpreter
  cases interpreter.command? name with
  | none => exact blind_emit grows rfl
  | some command => exact blind_changeInterpreter _

theorem blind_registerEngine : Blind L registerEngine :=
  agrees_forM _ fun _ => blind_register grows _ _

end Grows

end Host

namespace Evaluator

open Act Host

section Grows

variable {L : List Event → List Event → Prop}

theorem blind_setExiting (exiting : Bool) : Blind L (setExiting exiting) :=
  blind_modify (fun _ => rfl) fun _ _ => rfl

theorem blind_commandsIn (script : String) : Blind L (commandsIn script) := by
  rw [commandsIn]
  split
  · exact agrees_pure _
  · exact blind_interpreterNow.bind fun _ => agrees_pure _

variable (grows : Event.GrowsAlike L)

include grows

theorem blind_evaluateCommand (script : Text) : Blind L (evaluateCommand script) := by
  have code : Blind L errorCode := by
    apply (Host.blind_evaluate grows errorCodeQuery).tryCatch
    intro failure
    cases failure <;> first | exact agrees_pure _ | exact agrees_throw _
  have judged (message : Text) : Blind L (judge message) := by
    apply code.bind
    intro code
    split <;> exact agrees_pure _
  apply ((Host.blind_evaluate grows script).map _).tryCatch
  intro failure
  cases failure <;> first | exact judged _ | exact agrees_throw _

theorem blind_evaluate (script : Text) : Blind L (evaluate script) :=
  (blind_setExiting false).bind fun _ => blind_evaluateCommand grows script

theorem blind_showIf (asked : Bool) (text : Text) : Blind L (showIf asked text) := by
  cases asked with
  | false => exact agrees_pure _
  | true => exact blind_emit grows rfl

theorem blind_runCommands (echo verbose : Bool) (last : Outcome) (commands : List String) :
    Blind L (runCommands echo verbose last commands) := by
  induction commands generalizing last with
  | nil => exact agrees_pure _
  | cons command rest ih =>
      rw [runCommands_cons]
      split
      · exact ih last
      apply (blind_showIf grows echo command).bind
      intro _
      apply (blind_evaluateCommand grows command).bind
      intro outcome
      split
      · exact agrees_pure _
      apply agrees_get_bind
      rintro host other ⟨log, related, rfl⟩
      dsimp only
      split
      · exact agrees_pure _
      · exact (blind_showIf grows _ _).bind fun _ => ih outcome

theorem blind_sourceFile (files : FileTree) (path : Path) (echo verbose : Bool) :
    Blind L (sourceFile files path echo verbose) := by
  rw [sourceFile]
  split
  · apply (blind_setExiting false).bind
    intro _
    exact (blind_commandsIn _).bind fun commands => blind_runCommands grows _ _ _ _
  · exact agrees_pure _
  · exact agrees_throw _

theorem blind_registerExit (listener : ExitListener) : Blind L (registerExit listener) :=
  (blind_register grows _ _).bind fun _ => (Host.blind_evaluate grows _).discard

theorem blind_publish (words : List String) : Blind L (publish words) := by
  apply (blind_setVariable grows _ _).bind
  intro _
  apply (blind_setVariable grows _ _).bind
  intro _
  apply (blind_setVariable grows _ _).bind
  intro _
  apply (blind_setVariable grows _ _).bind
  intro _
  exact (Host.blind_evaluate grows _).bind fun release => blind_emit grows rfl

theorem blind_release : Blind L release := by
  apply agrees_get_bind
  rintro host other ⟨log, related, rfl⟩
  dsimp only
  split
  · exact agrees_pure _
  apply agrees_get_bind
  rintro host other ⟨log, related, rfl⟩
  apply (agrees_forM _ fun name => blind_unregister grows name).bind
  intro _
  exact blind_modify (fun _ => rfl) fun _ _ => rfl

end Grows

end Evaluator

end CommandShell
