/-
# What evaluations record

A host only ever adds to its record of events, and what it adds is of its own kind:
requests made of the interpreter, events of running scripts and lines of output.  It
never asks for a line and never speaks for the session.

Every script that is handed to the interpreter is recorded, but for the two queries of
the host itself.  So the scripts among the events of a computation are bounded by
what the computation asks for: one script for an evaluation, the commands of a file
in order for the evaluation of a file, and none for all that only sets up or takes
down.
-/

import CommandShell.Proofs.Host.Steps

namespace CommandShell

namespace Event

/-- The script that an event hands over. -/
def script? : Event → Option Text
  | .script text => some text
  | _ => none

/-- The scripts among events, in order. -/
def scripts (events : List Event) : List Text :=
  events.filterMap script?

theorem scripts_append (front back : List Event) :
    scripts (front ++ back) = scripts front ++ scripts back :=
  List.filterMap_append

theorem scripts_eq_nil {events : List Event} (h : ∀ event ∈ events, event.script? = none) :
    scripts events = [] :=
  List.filterMap_eq_nil_iff.mpr h

/-- A script that runs hands over no other. -/
theorem scripts_of_isStep {events : List Event} (h : ∀ event ∈ events, event.isStep = true) :
    scripts events = [] := by
  apply scripts_eq_nil
  intro event member
  have step := h event member
  cases event <;> first | rfl | cases step

/-- An event of an evaluation: a script is handed over, or runs. -/
def isEvaluation : Event → Bool
  | .script _ => true
  | event => event.isStep

/-- An event of setting up the interpreter: nothing is shown and nothing taken down. -/
def isSetUp : Event → Bool
  | .setVariable _ _ | .createCommand _ | .diagnostic .evaluator _ => true
  | event => event.isEvaluation

/-- An event that a computation on the host may record. -/
def isHostEvent : Event → Bool
  | .script _ | .setVariable _ _ | .createCommand _ | .deleteCommand _ | .output _
  | .diagnostic .evaluator _ => true
  | event => event.isStep

theorem isSetUp_of_isEvaluation {event : Event} (h : event.isEvaluation = true) :
    event.isSetUp = true := by
  cases event <;> first | rfl | cases h

theorem isHostEvent_of_isSetUp {event : Event} (h : event.isSetUp = true) :
    event.isHostEvent = true := by
  cases event with
  | diagnostic topic text => cases topic <;> first | rfl | cases h
  | _ => first | rfl | cases h

theorem isHostEvent_of_isEvaluation {event : Event} (h : event.isEvaluation = true) :
    event.isHostEvent = true :=
  isHostEvent_of_isSetUp (isSetUp_of_isEvaluation h)

end Event

namespace Host

open Act Event

/-- Events of a kind are added to the record. -/
def Records (kind : Event → Prop) (before after : Host) : Prop :=
  ∃ events, after.log = before.log ++ events ∧ ∀ event ∈ events, kind event

/-- Events of a kind are added to the record, and the scripts among them are some of
those given, in order. -/
def Hands (kind : Event → Prop) (given : List Text) (before after : Host) : Prop :=
  ∃ events, after.log = before.log ++ events ∧ (scripts events).Sublist given ∧
    ∀ event ∈ events, kind event

/-- Events of the host are added to the record. -/
abbrev RecordsOwn : Host → Host → Prop :=
  Records (·.isHostEvent = true)

instance (kind : Event → Prop) : IsPreorder Host (Records kind) where
  refl host := ⟨[], (List.append_nil _).symm, by simp⟩
  trans _ _ _ := by
    rintro ⟨first, hlog, hfirst⟩ ⟨second, hlog', hsecond⟩
    refine ⟨first ++ second, by rw [hlog', hlog, List.append_assoc], ?_⟩
    intro event member
    exact (List.mem_append.mp member).elim (hfirst event) (hsecond event)

section Kind

variable {kind weaker : Event → Prop}

theorem records_of_log_eq {before after : Host} (h : after.log = before.log) :
    Records kind before after :=
  ⟨[], by rw [h, List.append_nil], by simp⟩

theorem Hands.records {given : List Text} {before after : Host} :
    Hands kind given before after → Records kind before after := by
  rintro ⟨events, log, _, ofKind⟩
  exact ⟨events, log, ofKind⟩

theorem Hands.mono (h : ∀ event, kind event → weaker event) {given : List Text}
    {before after : Host} : Hands kind given before after → Hands weaker given before after := by
  rintro ⟨events, log, handed, ofKind⟩
  exact ⟨events, log, handed, fun event member => h event (ofKind event member)⟩

theorem Hands.more {given more : List Text} (h : given.Sublist more) {before after : Host} :
    Hands kind given before after → Hands kind more before after := by
  rintro ⟨events, log, handed, ofKind⟩
  exact ⟨events, log, handed.trans h, ofKind⟩

theorem Hands.trans {first second : List Text} {a b c : Host} (hab : Hands kind first a b)
    (hbc : Hands kind second b c) : Hands kind (first ++ second) a c := by
  obtain ⟨events, log, handed, ofKind⟩ := hab
  obtain ⟨events', log', handed', ofKind'⟩ := hbc
  refine ⟨events ++ events', by rw [log', log, List.append_assoc], ?_, ?_⟩
  · rw [scripts_append]
    exact handed.append handed'
  · intro event member
    exact (List.mem_append.mp member).elim (ofKind event) (ofKind' event)

theorem hands_of_log_eq {before after : Host} (h : after.log = before.log) :
    Hands kind [] before after :=
  ⟨[], by rw [h, List.append_nil], List.Sublist.refl _, by simp⟩

instance (kind : Event → Prop) : IsPreorder Host (Hands kind []) where
  refl _ := hands_of_log_eq rfl
  trans _ _ _ := Hands.trans

theorem moves_hands_bind {α β : Type} {first second : List Text} {act : HostM α}
    {next : α → HostM β} (begun : Moves (Hands kind first) act)
    (rest : ∀ value, Moves (Hands kind second) (next value)) :
    Moves (Hands kind (first ++ second)) (act >>= next) :=
  begun.seq rest Hands.trans (Hands.more (List.sublist_append_left _ _))

theorem hands_emit {event : Event} (own : kind event) (noScript : event.script? = none) :
    Moves (Hands kind []) (emit event) := by
  intro host
  have none : scripts [event] = [] := scripts_eq_nil (by simpa using noScript)
  exact ⟨[event], rfl, none ▸ List.Sublist.refl _, by simpa using own⟩

end Kind

/-! ## Computations on the host -/

theorem Evaluates.hands {script : Text} {before after : Host}
    (h : Evaluates script before after) :
    Hands (·.isEvaluation = true) [script] before after := by
  obtain ⟨steps, runs⟩ := h
  have script_handed := before.handing_eq_nil_or script
  generalize before.handing script = handed at script_handed runs
  have noScript : scripts steps = [] := scripts_of_isStep runs.isStep
  refine ⟨handed ++ steps, by rw [runs.log, List.append_assoc], ?_, ?_⟩
  · rw [scripts_append, noScript, List.append_nil]
    rcases script_handed with rfl | rfl
    · exact List.nil_sublist _
    · exact List.Sublist.refl _
  · intro event member
    rcases List.mem_append.mp member with inHanded | inSteps
    · rcases script_handed with rfl | rfl
      · cases inHanded
      · rw [List.mem_singleton.mp inHanded]
        rfl
    · have step := runs.isStep event inSteps
      cases event <;> first | rfl | cases step

/-- With an interpreter a script is handed over once, unless it is a query of the host
itself. -/
theorem Evaluates.exists_scripts {script : Text} {before after : Host}
    (h : Evaluates script before after) (held : before.interpreter.isSome = true) :
    ∃ events, after.log = before.log ++ events ∧
      scripts events = [script].filter (!isOwnQuery ·) := by
  obtain ⟨steps, runs⟩ := h
  have noScript : scripts steps = [] := scripts_of_isStep runs.isStep
  have there : before.interpreter.isNone = false := by
    rwa [Option.isNone_eq_false_iff]
  refine ⟨before.handing script ++ steps, by rw [runs.log, List.append_assoc], ?_⟩
  rw [scripts_append, noScript, List.append_nil, handing, there, Bool.false_or]
  cases own : isOwnQuery script <;> simp [own, scripts, script?]

theorem hands_evaluate (script : Text) :
    Moves (Hands (·.isEvaluation = true) [script]) (evaluate script) :=
  (evaluates_evaluate script).mono Evaluates.hands

/-- Asking for the release of the language leaves no trace. -/
theorem moves_evaluate_releaseQuery : Moves Eq (evaluate releaseQuery) := by
  refine moves_interpreterNow.bind fun interpreter => ?_
  rw [if_neg (by decide), if_pos rfl]
  exact moves_pure _

theorem hands_setVariable (name : String) (value : Setting) :
    Moves (Hands (·.isSetUp = true) []) (setVariable name value) :=
  moves_interpreterNow.discard.bind fun _ => hands_emit rfl rfl

theorem hands_register (name : String) (command : Command) :
    Moves (Hands (·.isSetUp = true) []) (register name command) := by
  refine moves_interpreterNow.discard.bind fun _ => ?_
  refine Moves.bind (hands_emit rfl rfl) fun _ => ?_
  refine Moves.bind (R := Hands _ []) ?_ fun _ => ?_
  · exact moves_modify fun _ => hands_of_log_eq rfl
  · exact moves_modify fun _ => hands_of_log_eq rfl

theorem perform_register_of_held {host : Host} {interpreter : Interpreter}
    (held : host.interpreter = some interpreter) (name : String) (command : Command) :
    (register name command).perform host =
      (.ok (), { host with
        interpreter := some (interpreter.define name command)
        registered := host.registered ++ [name]
        log := host.log ++ [.createCommand name] }) := by
  simp [register, perform_interpreterNow held, changeInterpreter, held]

/-- A command is registered with an interpreter that is held. -/
theorem exists_eq_of_register {name : String} {command : Command} {host after : Host}
    (h : (register name command).perform host = (.ok (), after)) :
    ∃ interpreter, host.interpreter = some interpreter ∧
      after =
        { host with
          interpreter := some (interpreter.define name command)
          registered := host.registered ++ [name]
          log := host.log ++ [.createCommand name] } := by
  cases held : host.interpreter with
  | none => simp [register, perform_interpreterNow_of_released held] at h
  | some interpreter =>
      rw [perform_register_of_held held] at h
      cases h
      exact ⟨interpreter, rfl, rfl⟩

theorem hands_registerEngine : Moves (Hands (·.isSetUp = true) []) registerEngine :=
  moves_forM fun _ _ => hands_register _ _

theorem hands_unregister (name : String) :
    Moves (Hands (·.isHostEvent = true) []) (unregister name) := by
  refine Moves.bind (hands_emit rfl rfl) fun _ => ?_
  refine moves_interpreterNow.bind fun interpreter => ?_
  split
  · exact moves_modify fun _ => hands_of_log_eq rfl
  · exact hands_emit rfl rfl

/-- Setting up is a part of what a host does. -/
theorem recordsOwn_of_setUp {α : Type} {act : HostM α} {given : List Text}
    (h : Moves (Hands (·.isSetUp = true) given) act) : Moves RecordsOwn act :=
  (h.mono (Hands.mono fun _ => isHostEvent_of_isSetUp)).mono Hands.records

theorem recordsOwn_evaluate (script : Text) : Moves RecordsOwn (evaluate script) :=
  recordsOwn_of_setUp ((hands_evaluate script).mono (Hands.mono fun _ => isSetUp_of_isEvaluation))

theorem recordsOwn_registerEngine : Moves RecordsOwn registerEngine :=
  recordsOwn_of_setUp hands_registerEngine

end Host

namespace Evaluator

open Act Host Event

theorem hands_evaluateCommand (script : Text) :
    Moves (Hands (·.isEvaluation = true) [script]) (evaluateCommand script) :=
  (evaluates_evaluateCommand script).mono Evaluates.hands

theorem hands_setExiting {kind : Event → Prop} (exiting : Bool) :
    Moves (Hands kind []) (setExiting exiting) :=
  moves_modify fun _ => hands_of_log_eq rfl

theorem hands_evaluate (script : Text) :
    Moves (Hands (·.isEvaluation = true) [script]) (evaluate script) :=
  moves_hands_bind (hands_setExiting false) fun _ => hands_evaluateCommand script

theorem hands_showIf (asked : Bool) (text : Text) :
    Moves (Hands (·.isHostEvent = true) []) (showIf asked text) := by
  cases asked with
  | false => exact moves_pure _
  | true => exact hands_emit rfl rfl

/-- The commands of a file are handed over in order, each at most once. -/
theorem hands_runCommands (echo verbose : Bool) (last : Outcome) (commands : List String) :
    Moves (Hands (·.isHostEvent = true) (commands.map .plain))
      (runCommands echo verbose last commands) := by
  have none (outcome : Outcome) {given : List Text} :
      Moves (Hands (·.isHostEvent = true) given) (pure outcome : HostM Outcome) :=
    (moves_pure _).mono (Hands.more (List.nil_sublist _))
  induction commands generalizing last with
  | nil => exact none last
  | cons command rest ih =>
      rw [runCommands_cons]
      split
      · exact (ih last).mono (Hands.more (List.sublist_cons_self _ _))
      refine moves_hands_bind (hands_showIf echo command) fun _ => ?_
      have evaluated := (hands_evaluateCommand command).mono
        (Hands.mono fun _ => isHostEvent_of_isEvaluation)
      refine moves_hands_bind evaluated fun outcome => ?_
      split
      · exact none outcome
      have looked : Moves (Hands (·.isHostEvent = true) []) (get : HostM Host) := moves_get
      refine moves_hands_bind looked fun host => ?_
      split
      · exact none _
      · exact moves_hands_bind (hands_showIf _ _) fun _ => ih outcome

/-- The commands of a file, none if it cannot be read or there is no interpreter to cut
it. -/
def commandsOf (host : Host) (files : FileTree) (path : Path) : List String :=
  match host.interpreter, TextFile.read files path with
  | some interpreter, .ok text => Script.commands interpreter.table.complete text
  | _, _ => []

/-- A file hands over its commands, as the interpreter of the host cuts it. -/
theorem hands_sourceFile (files : FileTree) (path : Path) (echo verbose : Bool) (host : Host) :
    Hands (·.isHostEvent = true) ((commandsOf host files path).map .plain) host
      ((sourceFile files path echo verbose).perform host).2 := by
  cases reading : TextFile.read files path with
  | ok text =>
      let cleared : Host := { host with exiting := false }
      have cleans : (setExiting false).perform host = (.ok (), cleared) := rfl
      rw [sourceFile, reading, perform_bind_of_ok cleans, perform_bind]
      cases held : host.interpreter with
      | some interpreter =>
          have there : cleared.interpreter = some interpreter := held
          have cut := perform_commandsIn there text
          rw [cut, commandsOf, held, reading]
          exact hands_runCommands echo verbose (.success "") _ cleared
      | none =>
          have released : cleared.interpreter = none := held
          have cut := perform_commandsIn_of_released released text
          rw [cut, commandsOf, held]
          cases (Text.lines text.toList).isEmpty <;> exact hands_of_log_eq rfl
  | error failure =>
      have none_given : (commandsOf host files path).map Text.plain = [] := by
        rw [commandsOf, reading]
        cases host.interpreter <;> rfl
      have silent :
          Moves (Hands (·.isHostEvent = true) []) (sourceFile files path echo verbose) := by
        rw [sourceFile, reading]
        split
        next impossible => cases impossible
        · exact moves_pure _
        · exact moves_throw _
      exact none_given ▸ silent host

theorem hands_registerExit (listener : ExitListener) :
    Moves (Hands (·.isSetUp = true) [exitProcedure]) (registerExit listener) := by
  have evaluated := (Host.hands_evaluate exitProcedure).mono
    (Hands.mono fun _ => isSetUp_of_isEvaluation)
  exact moves_hands_bind (hands_register _ _) fun _ => evaluated.discard

theorem hands_publish (words : List String) :
    Moves (Hands (·.isSetUp = true) []) (publish words) := by
  have asked : Moves (Hands (·.isSetUp = true) []) (Host.evaluate releaseQuery) :=
    moves_evaluate_releaseQuery.mono fun same => hands_of_log_eq (by rw [same])
  apply (hands_setVariable _ _).bind
  intro _
  apply (hands_setVariable _ _).bind
  intro _
  apply (hands_setVariable _ _).bind
  intro _
  apply (hands_setVariable _ _).bind
  intro _
  exact asked.bind fun release => hands_emit rfl rfl

theorem hands_release : Moves (Hands (·.isHostEvent = true) []) release := by
  refine moves_get.bind fun host => ?_
  split
  · exact moves_pure _
  refine moves_get.bind fun host => ?_
  refine Moves.bind (R := Hands _ []) (moves_forM fun name _ => hands_unregister name) fun _ => ?_
  exact moves_modify fun _ => hands_of_log_eq rfl

theorem recordsOwn_evaluate (script : Text) : Moves RecordsOwn (evaluate script) :=
  recordsOwn_of_setUp ((hands_evaluate script).mono (Hands.mono fun _ => isSetUp_of_isEvaluation))

theorem recordsOwn_sourceFile (files : FileTree) (path : Path) (echo verbose : Bool) :
    Moves RecordsOwn (sourceFile files path echo verbose) :=
  fun host => (hands_sourceFile files path echo verbose host).records

theorem recordsOwn_registerExit (listener : ExitListener) :
    Moves RecordsOwn (registerExit listener) :=
  recordsOwn_of_setUp (hands_registerExit listener)

theorem recordsOwn_publish (words : List String) : Moves RecordsOwn (publish words) :=
  recordsOwn_of_setUp (hands_publish words)

theorem recordsOwn_release : Moves RecordsOwn release :=
  hands_release.mono Hands.records

end Evaluator

end CommandShell
