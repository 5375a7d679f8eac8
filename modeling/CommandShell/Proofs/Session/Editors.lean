/-
# A session over either editor

A session over the rich editor does what the same session over the plain one does, with
one event more on its record: the terminal session is opened right before the first
request for a line.  Nothing reads the record, and the two editors, each with a state of
its own, stay side by side through every request.
-/

import CommandShell.Proofs.Host.Mirrors
import CommandShell.Proofs.Session.Rounds
import Mathlib.Data.List.Forall2

namespace CommandShell

namespace Event

/-- A request for a line. -/
def isPrompt : Event → Bool
  | .prompt _ => true
  | _ => false

/-- An event that only a line editor records. -/
def isEditorEvent : Event → Bool
  | .prompt _ | .sessionOpened _ _ => true
  | _ => false

/-- The events with one more, right before the first request for a line.  Events
without such a request are left as they are. -/
def insertAtPrompt (opening : Event) : List Event → List Event
  | [] => []
  | event :: rest =>
      if event.isPrompt then opening :: event :: rest
      else event :: insertAtPrompt opening rest

theorem insertAtPrompt_of_no_prompt (opening : Event) {events : List Event}
    (h : events.any isPrompt = false) : insertAtPrompt opening events = events := by
  induction events with
  | nil => rfl
  | cons event rest ih =>
      rw [List.any_cons, Bool.or_eq_false_iff] at h
      rw [insertAtPrompt, h.1, ih h.2]
      rfl

/-- If earlier events hold a request for a line, the first one is among them. -/
theorem insertAtPrompt_append (opening : Event) (front back : List Event) :
    insertAtPrompt opening (front ++ back) =
      if front.any isPrompt then insertAtPrompt opening front ++ back
      else front ++ insertAtPrompt opening back := by
  induction front with
  | nil => rfl
  | cons event rest ih =>
      rw [List.cons_append, insertAtPrompt, insertAtPrompt, ih, List.any_cons]
      cases event.isPrompt <;> cases rest.any isPrompt <;> rfl

theorem insertAtPrompt_append_of_no_prompt (opening : Event) (front : List Event)
    {back : List Event} (h : back.any isPrompt = false) :
    insertAtPrompt opening (front ++ back) = insertAtPrompt opening front ++ back := by
  rw [insertAtPrompt_append, insertAtPrompt_of_no_prompt opening h]
  split
  · rfl
  next none => rw [insertAtPrompt_of_no_prompt opening (by simpa using none)]

/-- No editor has a part in the events. -/
def NoEditor (events : List Event) : Prop :=
  ∀ event ∈ events, event.isEditorEvent = false

theorem NoEditor.any_isPrompt {events : List Event} (h : NoEditor events) :
    events.any isPrompt = false := by
  rw [List.any_eq_false]
  intro event member
  have notEditor := h event member
  cases event <;> first | cases notEditor; done | exact Bool.false_ne_true

theorem NoEditor.not_mem_sessionOpened {events : List Event} (h : NoEditor events)
    (completes hooked : Bool) : .sessionOpened completes hooked ∉ events := by
  intro member
  cases h _ member

theorem noEditor_of_isHostEvent {events : List Event}
    (h : ∀ event ∈ events, event.isHostEvent = true) : NoEditor events := by
  intro event member
  have own := h event member
  cases event <;> first | rfl | cases own

theorem noEditor_load (files : FileTree) (path : Path) : NoEditor (History.load files path).2 := by
  rw [History.load]
  split <;> simp [NoEditor, isEditorEvent]

theorem noEditor_save (files : FileTree) (path : Path) (entries : List Text) :
    NoEditor (History.save files path entries).2.1 := by
  rw [History.save]
  split <;> simp [NoEditor, isEditorEvent]

theorem noEditor_addEntry (editor : Editor) (line : Text) :
    NoEditor (editor.addEntry line).2 := by
  rw [Editor.events_addEntry, addEntryTo]
  split <;> simp [NoEditor, isEditorEvent]

end Event

namespace Session

open Act Event

/-- The same session over another editor, which has opened its terminal session right
before the first request for a line. -/
def overEditor (session : Session) (completes : Bool) (editor : Editor) : Session :=
  { session with
    host.log := insertAtPrompt (.sessionOpened completes true) session.host.log
    editor }

/-- What is known of a session over the plain editor and of a rich editor that stands
beside: a request for a line stands on the record, a completion hook is installed from
the first phase on, and no terminal session is opened. -/
structure Accompanied (completes : Bool) (session : Session) (editor : Editor) : Prop where
  beside : Editor.Beside completes (session.host.log.any isPrompt) session.editor editor
  hooked : session.phase ≠ .created → ∀ typed, (session.editor.complete typed).isSome = true
  unopened : ∀ typing hooked, .sessionOpened typing hooked ∉ session.host.log

/-- A session over the plain editor beside the same one over the rich editor. -/
def Twins (completes : Bool) (plain rich : Session) : Prop :=
  ∃ editor, Accompanied completes plain editor ∧ rich = plain.overEditor completes editor

/-- The computation does the same over both editors. -/
abbrev Indifferent {α : Type} (completes : Bool) (act : SessionM α) : Prop :=
  Agrees (Twins completes) act act

section Twins

variable {completes : Bool} {session : Session} {editor : Editor}

/-- Events in which no editor has a part are recorded over both editors alike. -/
theorem Accompanied.log_append (h : Accompanied completes session editor) (host : Host)
    {events : List Event} (noEditor : NoEditor events)
    (log : host.log = session.host.log ++ events) :
    Accompanied completes { session with host } editor where
  beside := by
    rw [log, List.any_append, noEditor.any_isPrompt, Bool.or_false]
    exact h.beside
  hooked := h.hooked
  unopened := by
    intro typing hooked
    rw [log, List.mem_append, not_or]
    exact ⟨h.unopened typing hooked, noEditor.not_mem_sessionOpened typing hooked⟩

theorem overEditor_log_append {events : List Event} (noEditor : NoEditor events) :
    { session.overEditor completes editor with
      host.log := (session.overEditor completes editor).host.log ++ events } =
      Session.overEditor { session with host.log := session.host.log ++ events } completes
        editor := by
  simp only [overEditor, insertAtPrompt_append_of_no_prompt _ _ noEditor.any_isPrompt]

theorem indifferent_emitAll {events : List Event} (noEditor : NoEditor events) :
    Indifferent completes (emitAll events) := by
  apply agrees_modify
  rintro plain _ ⟨editor, h, rfl⟩
  exact ⟨editor, h.log_append _ noEditor rfl, overEditor_log_append noEditor⟩

theorem indifferent_emit {event : Event} (notEditor : event.isEditorEvent = false) :
    Indifferent completes (emit event) :=
  indifferent_emitAll (by simpa [NoEditor] using notEditor)

/-- A computation on the host takes no part of an editor and does not read the
record. -/
theorem indifferent_onHost {α : Type} {act : HostM α} (records : Moves Host.RecordsOwn act)
    (blind : ∀ {L : List Event → List Event → Prop}, GrowsAlike L → Host.Blind L act) :
    Indifferent completes (onHost act) := by
  rintro plain _ ⟨editor, h, rfl⟩
  let opening := Event.sessionOpened completes true
  have grows : GrowsAlike fun first second => second = insertAtPrompt opening first := by
    rintro event own first second rfl
    have noEditor : NoEditor [event] := noEditor_of_isHostEvent (by simpa using own)
    exact (insertAtPrompt_append_of_no_prompt opening first noEditor.any_isPrompt).symm
  obtain ⟨answer, host, _, ran, ran', log, rfl, rfl⟩ :=
    blind grows plain.host (plain.overEditor completes editor).host ⟨_, rfl, rfl⟩
  obtain ⟨events, recorded, own⟩ := records.of_perform ran
  refine ⟨answer, { plain with host }, _, ?_, ?_,
    editor, h.log_append host (noEditor_of_isHostEvent own) recorded, rfl⟩
  · rw [onHost, perform_zoom, ran]
  · rw [onHost, perform_zoom, ran']
    rfl

theorem indifferent_onFiles {α : Type} (act : Act FileTree α) :
    Indifferent completes (onFiles act) := by
  rintro plain _ ⟨editor, h, rfl⟩
  exact ⟨_, _, _, perform_zoom .., perform_zoom .., editor,
    ⟨h.beside, h.hooked, h.unopened⟩, rfl⟩

theorem indifferent_report (outcome : Outcome) : Indifferent completes (report outcome) := by
  rw [report]
  split
  · exact indifferent_emit rfl
  · exact agrees_pure _

theorem indifferent_evaluate (script : Text) : Indifferent completes (evaluate script) :=
  (indifferent_onHost (Evaluator.recordsOwn_evaluate script)
    fun grows => Evaluator.blind_evaluate grows script).bind indifferent_report

theorem indifferent_source (path : Path) : Indifferent completes (source path) := by
  apply agrees_get_bind
  rintro plain _ ⟨editor, h, rfl⟩
  apply (indifferent_onHost (Evaluator.recordsOwn_sourceFile plain.files path true true)
    fun grows => Evaluator.blind_sourceFile grows plain.files path true true).bind
  exact indifferent_report

theorem indifferent_isTerminated : Indifferent completes isTerminated := by
  apply agrees_get_bind
  rintro plain _ ⟨editor, h, rfl⟩
  exact agrees_pure _

theorem perform_addEntry_eq (line : Text) (session : Session) :
    (addEntry line).perform session =
      (.ok (), { session with
        host.log := session.host.log ++ (session.editor.addEntry line).2
        editor := (session.editor.addEntry line).1 }) :=
  rfl

theorem indifferent_addEntry (line : Text) : Indifferent completes (addEntry line) := by
  rintro plain _ ⟨editor, h, rfl⟩
  have noEditor := noEditor_addEntry plain.editor line
  obtain ⟨still, sameEvents⟩ := h.beside.addEntry line
  have recorded := h.log_append
    { plain.host with log := plain.host.log ++ (plain.editor.addEntry line).2 } noEditor rfl
  refine ⟨.ok (), _, _, perform_addEntry_eq .., perform_addEntry_eq ..,
    (editor.addEntry line).1, ⟨?_, ?_, recorded.unopened⟩, ?_⟩
  · rw [List.any_append, noEditor.any_isPrompt, Bool.or_false]
    exact still
  · intro started typed
    rw [Editor.complete_addEntry]
    exact h.hooked started typed
  · rw [show (plain.overEditor completes editor).editor = editor from rfl, sameEvents]
    simp only [overEditor, insertAtPrompt_append_of_no_prompt _ _ noEditor.any_isPrompt]

/-- Entering a phase other than the first takes a session that has been set up. -/
theorem exists_enter_of_twins {plain rich : Session} (twins : Twins completes plain rich)
    (target : Phase)
    (hooked : plain.phase.precedes target = true →
      ∀ typed, (plain.editor.complete typed).isSome = true) :
    ∃ answer after after', (enter target).perform plain = (answer, after) ∧
      (enter target).perform rich = (answer, after') ∧ Twins completes after after' := by
  obtain ⟨editor, h, rfl⟩ := twins
  have samePhase : (plain.overEditor completes editor).phase = plain.phase := rfl
  rw [perform_enter, perform_enter, samePhase]
  by_cases next : plain.phase.precedes target = true
  · have noEditor : NoEditor [.diagnostic .shell target.entryText] := by
      simp [NoEditor, isEditorEvent]
    have recorded := h.log_append (plain.entering target).host noEditor rfl
    refine ⟨.ok (), plain.entering target, (plain.entering target).overEditor completes editor,
      if_pos next, ?_, editor, ?_, rfl⟩
    · rw [if_pos next]
      simp only [entering, overEditor, insertAtPrompt_append_of_no_prompt _ _ noEditor.any_isPrompt]
    · exact ⟨recorded.beside, fun _ => hooked next, recorded.unopened⟩
  · exact ⟨_, plain, plain.overEditor completes editor, if_neg next, if_neg next, editor, h, rfl⟩

theorem indifferent_enter (target : Phase) (later : target ≠ .initialized) :
    Indifferent completes (enter target) := by
  intro plain rich twins
  apply exists_enter_of_twins twins
  intro next
  obtain ⟨editor, h, _⟩ := twins
  apply h.hooked
  intro created
  rw [created] at next
  exact later (Phase.eq_of_precedes next rfl)

/-- A change that reaches neither the editor nor the record. -/
theorem indifferent_modify {change : Session → Session}
    (accompanied : ∀ session editor, Accompanied completes session editor →
      Accompanied completes (change session) editor)
    (same : ∀ session editor, change (overEditor session completes editor) =
      overEditor (change session) completes editor) :
    Indifferent completes (modify change : SessionM PUnit) := by
  apply agrees_modify
  rintro plain _ ⟨editor, h, rfl⟩
  exact ⟨editor, accompanied plain editor h, same plain editor⟩

/-- The completion hook is installed in both editors. -/
theorem indifferent_setHook (hook : Completion.Hook) :
    Indifferent completes (modify fun session =>
      { session with editor := session.editor.setHook hook } : SessionM PUnit) := by
  apply agrees_modify
  rintro plain _ ⟨editor, h, rfl⟩
  refine ⟨editor.setHook hook, ⟨h.beside.setHook hook, ?_, h.unopened⟩, rfl⟩
  intro _ typed
  rw [Editor.complete_setHook]
  rfl

section Setup

variable (setup : Setup)

theorem indifferent_applyThreadHint : Indifferent completes (applyThreadHint setup) := by
  rw [applyThreadHint]
  split
  · exact agrees_pure _
  next count _ =>
    apply agrees_get_bind
    rintro plain _ ⟨editor, h, rfl⟩
    have noEditor : NoEditor (plain.host.engine.setThreads count).2 := by
      simp [Engine.setThreads, NoEditor, isEditorEvent]
    apply (indifferent_emitAll noEditor).bind
    intro _
    refine Agrees.bind (R := Twins completes) ?_ fun _ => agrees_pure _
    refine indifferent_modify (fun session editor h => ?_) fun _ _ => rfl
    exact ⟨h.beside, h.hooked, h.unopened⟩
  · exact (indifferent_emit rfl).bind fun _ => agrees_pure _
  · exact agrees_throw _

theorem indifferent_prepare : Indifferent completes (prepare setup) := by
  apply (indifferent_applyThreadHint setup).discard.bind
  intro _
  apply (indifferent_onHost (Evaluator.recordsOwn_registerExit _)
    fun grows => Evaluator.blind_registerExit grows _).bind
  intro _
  apply (indifferent_setHook Completion.builtin).bind
  intro _
  apply (indifferent_onHost (Evaluator.recordsOwn_publish _)
    fun grows => Evaluator.blind_publish grows _).bind
  intro _
  exact indifferent_onHost Host.recordsOwn_registerEngine fun grows =>
    Host.blind_registerEngine grows

theorem editor_of_onHost {α : Type} (act : HostM α) :
    Moves (fun before after => after.editor = before.editor) (onHost act) :=
  fun _ => rfl

/-- Setting up installs the completion hook. -/
theorem complete_of_prepare {session after : Session}
    (h : (prepare setup).perform session = (.ok (), after)) (typed : String) :
    after.editor.complete typed = some (Completion.builtin typed) := by
  obtain ⟨_, hinted, _, h⟩ := perform_bind_eq_ok h
  obtain ⟨_, bound, _, h⟩ := perform_bind_eq_ok h
  obtain ⟨_, hooked, installs, h⟩ := perform_bind_eq_ok h
  obtain ⟨_, published, publishes, registers⟩ := perform_bind_eq_ok h
  cases installs
  rw [(editor_of_onHost _).of_perform registers, (editor_of_onHost _).of_perform publishes,
    Editor.complete_setHook]

theorem indifferent_start : Indifferent completes (start setup) := by
  intro plain rich twins
  have samePhase : rich.phase = plain.phase := by
    obtain ⟨editor, _, rfl⟩ := twins
    rfl
  by_cases created : plain.phase = .created
  · rw [perform_start_of_created setup created,
      perform_start_of_created setup (samePhase.trans created)]
    obtain ⟨answer, between, between', ran, ran', related⟩ :=
      indifferent_prepare setup plain rich twins
    cases answer with
    | error failure =>
        exact ⟨_, _, _, perform_bind_of_error ran _, perform_bind_of_error ran' _, related⟩
    | ok value =>
        rw [perform_bind_of_ok ran, perform_bind_of_ok ran']
        apply exists_enter_of_twins related
        intro _ typed
        rw [complete_of_prepare setup ran]
        rfl
  · rw [perform_start_of_not_created setup created,
      perform_start_of_not_created setup (samePhase ▸ created), samePhase]
    exact ⟨_, _, _, rfl, rfl, twins⟩

theorem indifferent_sourceInitFile : Indifferent completes (sourceInitFile setup) := by
  apply (agrees_lift _).bind
  intro path
  apply agrees_get_bind
  rintro plain _ ⟨editor, h, rfl⟩
  apply (agrees_lift _).bind
  intro found
  split
  · exact indifferent_source path
  · exact indifferent_emit rfl

theorem indifferent_runPayload : Indifferent completes (runPayload setup) := by
  have evaluated (script : Text) :
      Indifferent completes (onHost (Evaluator.evaluate script)) :=
    indifferent_onHost (Evaluator.recordsOwn_evaluate script)
      fun grows => Evaluator.blind_evaluate grows script
  rw [runPayload]
  split
  · exact agrees_throw _
  apply (evaluated _).bind
  intro outcome
  cases outcome with
  | success text => exact agrees_pure _
  | failure text =>
      apply (evaluated errorTraceQuery).bind
      intro trace
      cases trace <;> exact agrees_throw _

theorem indifferent_bootstrap : Indifferent completes (bootstrap setup) := by
  have banner : Indifferent completes (showBanner setup) := by
    rw [showBanner]
    split
    · exact agrees_pure _
    · exact indifferent_evaluate _
  have initFile : Indifferent completes (runInitFile setup) := by
    rw [runInitFile]
    split
    · exact agrees_pure _
    · exact indifferent_sourceInitFile setup
  rw [bootstrap_eq]
  apply (indifferent_enter _ (by decide)).bind
  intro _
  refine Agrees.bind (R := Twins completes) ?_ fun _ => initFile
  apply (indifferent_runPayload setup).bind
  intro _
  apply banner.bind
  intro _
  exact (indifferent_evaluate _).bind fun _ => indifferent_evaluate _

theorem indifferent_runOneShots : Indifferent completes (runOneShots setup) := by
  have launchFile : Indifferent completes (sourceLaunchFile setup) := by
    rw [sourceLaunchFile]
    split
    · exact indifferent_source _
    · exact agrees_pure _
  rw [runOneShots_eq]
  apply indifferent_isTerminated.bind
  intro ended
  split
  · exact agrees_pure _
  split
  · exact launchFile
  apply (indifferent_evaluate _).bind
  intro _
  apply indifferent_isTerminated.bind
  intro ended
  split
  · exact agrees_pure _
  · exact launchFile

theorem indifferent_answerLine (line : Text) : Indifferent completes (answerLine setup line) := by
  have crash (failure : Failure) : Indifferent completes (reportCrash setup failure line) := by
    apply (indifferent_onFiles _).bind
    intro written
    split
    · exact indifferent_emit rfl
    · exact (indifferent_emit rfl).bind fun _ => indifferent_emit rfl
  refine Agrees.bind (R := Twins completes) ?_ fun _ => ?_
  · apply (indifferent_evaluate line).tryCatch
    intro failure
    split
    · exact crash failure
    · exact agrees_throw _
  · split
    · exact agrees_pure _
    · exact indifferent_addEntry line

/-! ## The conversation -/

/-- Two such sessions once they have been set up. -/
def TwinsReady (completes : Bool) (plain rich : Session) : Prop :=
  Twins completes plain rich ∧ plain.phase ≠ .created

theorem ready_of_indifferent {α : Type} {act : SessionM α} (h : Indifferent completes act)
    (kept : Moves (fun before after => after.phase = before.phase) act) :
    Agrees (TwinsReady completes) act act := by
  rintro plain rich ⟨twins, ready⟩
  obtain ⟨answer, after, after', ran, ran', related⟩ := h plain rich twins
  refine ⟨answer, after, after', ran, ran', related, ?_⟩
  rwa [kept.of_perform ran]

/-- The terminal session is opened before the first request for a line, and at no other. -/
theorem indifferent_readLine (prompt : String) :
    Agrees (TwinsReady completes) (readLine prompt) (readLine prompt) := by
  rintro plain _ ⟨⟨editor, h, rfl⟩, ready⟩
  obtain ⟨sameAnswer, prompted, opening, still⟩ := h.beside.readLine prompt
  have asked := perform_readLine prompt plain
  have asked' := perform_readLine prompt (plain.overEditor completes editor)
  have itsEditor : (plain.overEditor completes editor).editor = editor := rfl
  rw [itsEditor, sameAnswer, opening, h.hooked ready] at asked'
  rw [prompted] at asked
  refine ⟨_, _, _, asked, asked', ⟨(editor.readLine prompt).2.2, ⟨?_, ?_, ?_⟩, ?_⟩, ready⟩
  · simpa [isPrompt] using still
  · intro started typed
    rw [Editor.complete_readLine]
    exact h.hooked started typed
  · intro typing hooked
    simp [h.unopened typing hooked]
  · simp only [overEditor, insertAtPrompt_append]
    by_cases before : plain.host.log.any isPrompt = true
    · simp only [before, if_true, List.nil_append]
    · rw [insertAtPrompt_of_no_prompt _ (by simpa using before)]
      simp only [before, insertAtPrompt, isPrompt, if_true]
      rfl

/-- The rounds of the conversation are answered alike over both editors. -/
theorem indifferent_converse (prompt : String) (readings : List Reading) :
    Agrees (TwinsReady completes) (converse setup prompt readings)
      (converse setup prompt readings) := by
  have looked : Agrees (TwinsReady completes) isTerminated isTerminated :=
    ready_of_indifferent indifferent_isTerminated fun _ => rfl
  induction readings with
  | nil =>
      rw [converse_nil]
      apply looked.bind
      intro ended
      split
      · exact agrees_pure _
      · exact (indifferent_readLine prompt).discard
  | cons reading later ih =>
      rw [converse_cons]
      apply looked.bind
      intro ended
      split
      · exact agrees_pure _
      apply (indifferent_readLine prompt).bind
      intro answer
      cases answer with
      | line text =>
          have answered : Agrees (TwinsReady completes) (answerLine setup text)
              (answerLine setup text) :=
            ready_of_indifferent (indifferent_answerLine setup text)
              ((stays_answerLine setup text).mono fun stays => stays.1)
          exact answered.bind fun _ => ih
      | interrupted message => exact ih
      | ended => exact agrees_pure _
      | failed failure => exact agrees_throw _

theorem indifferent_takeUpHistory : Indifferent completes (takeUpHistory setup) := by
  apply agrees_get_bind
  rintro plain _ ⟨editor, h, rfl⟩
  apply (indifferent_emitAll (noEditor_load plain.files _)).bind
  intro _
  exact (agrees_lift _).bind fun entries => agrees_forM _ fun entry => indifferent_addEntry entry

theorem indifferent_interact : Indifferent completes (interact setup) := by
  have talk : Agrees (TwinsReady completes) (do
      takeUpHistory setup
      converse setup (Config.prompt setup.config) (← get).editor.readings) (do
      takeUpHistory setup
      converse setup (Config.prompt setup.config) (← get).editor.readings) := by
    apply (ready_of_indifferent (indifferent_takeUpHistory setup)
      ((remarks_takeUpHistory setup).mono fun remarks => remarks.phase)).bind
    intro _
    apply agrees_get_bind
    rintro plain _ ⟨⟨editor, h, rfl⟩, ready⟩
    have sameReadings : (plain.overEditor completes editor).editor.readings =
      plain.editor.readings := h.beside.readings
    rw [sameReadings]
    exact indifferent_converse setup _ _
  intro plain rich twins
  obtain ⟨answer, talking, talking', entered, entered', related⟩ :=
    indifferent_enter .interactive (by decide) plain rich twins
  rw [interact_eq]
  cases answer with
  | error failure =>
      exact ⟨_, _, _, perform_bind_of_error entered _, perform_bind_of_error entered' _, related⟩
  | ok value =>
      rw [perform_bind_of_ok entered, perform_bind_of_ok entered']
      have ready : talking.phase ≠ .created := by
        rw [phase_of_enter entered]
        decide
      obtain ⟨answer, after, after', ran, ran', related, _⟩ :=
        talk talking talking' ⟨related, ready⟩
      exact ⟨answer, after, after', ran, ran', related⟩

/-! ## Requests -/

theorem indifferent_settleSave (saved : Except Failure Unit) :
    Indifferent completes (settleSave saved) := by
  rcases saved with failure | ⟨⟩
  · cases failure with
    | file refusal =>
        cases refusal with
        | system error place => exact indifferent_emit rfl
        | nulInPath => exact agrees_throw _
    | _ => exact agrees_throw _
  · exact agrees_pure _

theorem indifferent_saveHistory : Indifferent completes (saveHistory setup) := by
  rw [saveHistory_eq]
  apply agrees_get_bind
  rintro plain _ ⟨editor, h, rfl⟩
  have same : (plain.overEditor completes editor).editor.entries = plain.editor.entries :=
    h.beside.entries
  have sameFiles : (plain.overEditor completes editor).files = plain.files := rfl
  simp only [same, sameFiles]
  apply (indifferent_emitAll (noEditor_save plain.files _ plain.editor.entries)).bind
  intro _
  refine Agrees.bind (R := Twins completes) ?_ fun _ => ?_
  · refine indifferent_modify (fun session editor h => ?_) fun _ _ => rfl
    exact ⟨h.beside, h.hooked, h.unopened⟩
  · exact indifferent_settleSave _

theorem indifferent_shutdown : Indifferent completes (shutdown setup) := by
  apply (indifferent_enter _ (by decide)).bind
  intro _
  apply (indifferent_saveHistory setup).bind
  intro _
  apply (indifferent_onHost Evaluator.recordsOwn_release
    fun grows => Evaluator.blind_release grows).bind
  intro _
  exact indifferent_enter _ (by decide)

theorem indifferent_run : Indifferent completes (run setup) := by
  apply (indifferent_start setup).bind
  intro _
  apply (indifferent_bootstrap setup).bind
  intro _
  apply (indifferent_runOneShots setup).bind
  intro _
  exact (indifferent_interact setup).bind fun _ => indifferent_shutdown setup

theorem indifferent_serve (request : Request) : Indifferent completes (serve setup request) := by
  cases request with
  | start => exact (indifferent_start setup).bind fun _ => agrees_pure _
  | bootstrap => exact (indifferent_bootstrap setup).bind fun _ => agrees_pure _
  | runOneShots => exact (indifferent_runOneShots setup).bind fun _ => agrees_pure _
  | interact => exact (indifferent_interact setup).bind fun _ => agrees_pure _
  | saveHistory => exact (indifferent_saveHistory setup).bind fun _ => agrees_pure _
  | shutdown => exact (indifferent_shutdown setup).bind fun _ => agrees_pure _
  | run => exact (indifferent_run setup).bind fun _ => agrees_pure _
  | sourceInitFile => exact (indifferent_sourceInitFile setup).bind fun _ => agrees_pure _
  | applyThreadHint =>
      apply (indifferent_applyThreadHint setup).bind
      intro count
      cases count <;> exact agrees_pure _
  | complete typed =>
      apply agrees_get_bind
      rintro plain _ ⟨editor, h, rfl⟩
      have same : (plain.overEditor completes editor).editor.complete typed =
        plain.editor.complete typed := h.beside.complete typed
      rw [same]
      split <;> exact agrees_pure _
  | addEntry line => exact (indifferent_addEntry line).bind fun _ => agrees_pure _

/-- Both sessions go from twins to twins, request by request, with the same replies. -/
theorem forall₂_serveAll {plain rich : Session} (twins : Twins completes plain rich)
    (requests : List Request) :
    List.Forall₂ (fun step other => other.1 = step.1 ∧ Twins completes step.2 other.2)
      (serveAll setup requests plain) (serveAll setup requests rich) := by
  induction requests generalizing plain rich with
  | nil => exact .nil
  | cons request rest ih =>
      obtain ⟨reply, after, after', served, served', still⟩ :=
        indifferent_serve setup request plain rich twins
      rw [serveAll, serveAll, served, served']
      exact .cons ⟨rfl, still⟩ (ih still)

/-- What a step of a session over the plain editor and the same step over the rich one
have in common: everything but the editor's own state, and one event.  A terminal
session is opened right before the first request for a line, with a completer, and it
offers what the plain editor's hook does. -/
structure StepsAlike (completes : Bool) (step other : Except Failure Reply × Session) :
    Prop where
  reply : other.1 = step.1
  phase : other.2.phase = step.2.phase
  files : other.2.files = step.2.files
  /-- The interpreter, its registrations and its end, the engine and its thread count. -/
  host : ∃ log, other.2.host = { step.2.host with log }
  entries : other.2.editor.entries = step.2.editor.entries
  readings : other.2.editor.readings = step.2.editor.readings
  complete : ∀ typed, other.2.editor.complete typed = step.2.editor.complete typed
  offers : ∀ own, other.2.editor = .rich own → own.session.isSome = true →
    ∀ typed, own.completeInSession typed = step.2.editor.complete typed
  unopened : ∀ typing hooked, .sessionOpened typing hooked ∉ step.2.host.log
  unasked : step.2.host.log.any isPrompt = false → other.2.host.log = step.2.host.log
  asked : ∀ before prompt after, before.any isPrompt = false →
    step.2.host.log = before ++ .prompt prompt :: after →
    other.2.host.log = before ++ .sessionOpened completes true :: .prompt prompt :: after

theorem stepsAlike_of_twins {step other : Except Failure Reply × Session}
    (reply : other.1 = step.1) (twins : Twins completes step.2 other.2) :
    StepsAlike completes step other := by
  obtain ⟨answer, plain⟩ := step
  obtain ⟨_, _⟩ := other
  obtain ⟨editor, h, rfl⟩ := twins
  refine ⟨reply, rfl, rfl, ⟨_, rfl⟩, h.beside.entries, h.beside.readings, h.beside.complete,
    ?_, h.unopened, insertAtPrompt_of_no_prompt _, ?_⟩
  · rintro own rfl isOpen typed
    exact h.beside.completeInSession isOpen typed
  · intro before prompt after none_before recorded
    have inserted : (plain.overEditor completes editor).host.log =
        insertAtPrompt (.sessionOpened completes true) plain.host.log := rfl
    rw [inserted, recorded, insertAtPrompt_append, none_before]
    rfl

/-- **The two editors are interchangeable.**  Serve any requests to a fresh session
over the plain editor and to the same one over the rich editor.  Step by step the
replies are the same, and so is the session that a step leaves, its phase, its end,
its interpreter and engine, its entries and files, but for one event on the record
of the rich one: a terminal session is opened, with a completer, right before the
first request for a line.  As long as no line has been asked for the records are the
same, and the plain editor never opens a terminal session at all. -/
theorem editors_interchangeable (table : ScriptTable) (engine : Engine)
    (readings : List Reading) (files : FileTree) (completes : Bool) (requests : List Request) :
    List.Forall₂ (StepsAlike completes)
      (serveAll setup requests (fresh table engine (.plain { readings }) files))
      (serveAll setup requests
        (fresh table engine (.rich { completesWhileTyping := completes, readings }) files)) := by
  let plain := fresh table engine (.plain { readings }) files
  let editor : Editor := .rich { completesWhileTyping := completes, readings }
  have accompanied : Accompanied completes plain editor := by
    refine ⟨.fresh completes readings, fun started => absurd rfl started, ?_⟩
    intro typing hooked
    exact List.not_mem_nil
  have served := forall₂_serveAll setup ⟨editor, accompanied, rfl⟩ requests
  exact served.imp fun step other ⟨reply, twins⟩ => stepsAlike_of_twins reply twins

end Setup

end Twins

end Session

end CommandShell
