/-
# The course of the phases

A session records every entry into a phase, so its record of events tells the
whole course of its phases.  That course is always an initial piece of the one
line of phases, it ends in the present phase, and lines are asked for only where
it has led to the conversation.  What every request keeps of this, every
sequence of requests keeps, whatever fails on the way.
-/

import CommandShell.Proofs.Session.Requests

namespace CommandShell.Session

open Act

/-- Lines are asked for only where the phases entered so far, those before the
events among them, have led to the conversation. -/
def PromptsInPlace : (course : List Phase) → List Event → Prop
  | _, [] => True
  | course, event :: rest =>
      ((∃ text, event = .prompt text) → course = Phase.path .interactive) ∧
        PromptsInPlace (course ++ event.enters?.toList) rest

theorem promptsInPlace_append (course : List Phase) (front back : List Event) :
    PromptsInPlace course (front ++ back) ↔
      PromptsInPlace course front ∧ PromptsInPlace (course ++ Event.entered front) back := by
  induction front generalizing course with
  | nil => simp [PromptsInPlace, Event.entered]
  | cons event front ih =>
      have split : course ++ event.enters?.toList ++ Event.entered front =
          course ++ Event.entered (event :: front) := by
        cases h : event.enters? <;> simp [Event.entered, h]
      rw [List.cons_append, PromptsInPlace, PromptsInPlace, ih, split, and_assoc]

theorem promptsInPlace_of_no_prompt {events : List Event} (course : List Phase)
    (h : ∀ event ∈ events, ∀ text, event ≠ .prompt text) : PromptsInPlace course events := by
  induction events generalizing course with
  | nil => trivial
  | cons event rest ih =>
      refine ⟨?_, ih _ fun other member => h other (List.mem_cons_of_mem _ member)⟩
      rintro ⟨text, rfl⟩
      exact absurd rfl (h _ List.mem_cons_self text)

theorem promptsInPlace_of_no_entry {events : List Event}
    (h : ∀ event ∈ events, event.enters? = none) :
    PromptsInPlace (Phase.path .interactive) events := by
  induction events with
  | nil => trivial
  | cons event rest ih =>
      refine ⟨fun _ => rfl, ?_⟩
      rw [h event List.mem_cons_self, Option.toList_none, List.append_nil]
      exact ih fun other member => h other (List.mem_cons_of_mem _ member)

/-- A session goes on: what is added to its record continues the course of its
phases to the phase it is in then, and lines are asked for in place. -/
def Advances (before after : Session) : Prop :=
  ∃ events, after.host.log = before.host.log ++ events ∧
    after.phase.path = before.phase.path ++ Event.entered events ∧
      PromptsInPlace before.phase.path events

instance : IsPreorder Session Advances where
  refl session := ⟨[], by simp, by simp [Event.entered], trivial⟩
  trans _ _ _ := by
    rintro ⟨first, log, path, inPlace⟩ ⟨second, log', path', inPlace'⟩
    refine ⟨first ++ second, by rw [log', log, List.append_assoc], ?_, ?_⟩
    · rw [path', path, Event.entered_append, List.append_assoc]
    · rw [promptsInPlace_append]
      exact ⟨inPlace, path ▸ inPlace'⟩

theorem entered_eq_nil {events : List Event} (h : ∀ event ∈ events, event.enters? = none) :
    Event.entered events = [] :=
  List.filterMap_eq_nil_iff.mpr h

theorem Advances.of_asides {before after : Session} (h : Keeps Event.IsAside before after) :
    Advances before after := by
  obtain ⟨phase, events, log, asides⟩ := h
  refine ⟨events, log, ?_, ?_⟩
  · rw [phase, entered_eq_nil fun event member => (asides event member).1, List.append_nil]
  · exact promptsInPlace_of_no_prompt _ fun event member => (asides event member).2

/-- In the conversation lines may be asked for. -/
theorem Advances.of_talk {before after : Session} (talking : before.phase = .interactive)
    (h : Keeps (·.enters? = none) before after) : Advances before after := by
  obtain ⟨phase, events, log, noEntry⟩ := h
  refine ⟨events, log, ?_, ?_⟩
  · rw [phase, entered_eq_nil noEntry, List.append_nil]
  · rw [talking]
    exact promptsInPlace_of_no_entry noEntry

theorem advances_of_stays {α : Type} {act : SessionM α} (h : Stays act) : Moves Advances act :=
  h.mono Advances.of_asides

theorem advances_of_remarks {α : Type} {act : SessionM α} (h : Moves Remarks act) :
    Moves Advances act :=
  advances_of_stays (stays_of_remarks h)

theorem advances_scripts : KeptByScripts Advances :=
  stays_scripts.mono Advances.of_asides

/-- The session once it has entered a phase, which is recorded. -/
def entering (session : Session) (phase : Phase) : Session :=
  { session with
    host.log := session.host.log ++ [.diagnostic .shell phase.entryText]
    phase }

/-- Entering a phase is one step along the line, or fails and changes nothing. -/
theorem perform_enter (target : Phase) (session : Session) :
    (enter target).perform session =
      if session.phase.precedes target then (.ok (), session.entering target)
      else (.error (.outOfOrder target session.phase), session) := by
  by_cases next : session.phase.precedes target = true
  · rw [if_pos next, entering, ← Phase.entryText_of_precedes next]
    simp [enter, next, emit, emitAll]
  · rw [if_neg next]
    exact perform_enter_of_not_precedes (by simpa using next)

theorem phase_of_enter {target : Phase} {session after : Session} {answer : Unit}
    (h : (enter target).perform session = (.ok answer, after)) : after.phase = target := by
  rw [perform_enter] at h
  split at h <;> cases h
  rfl

theorem advances_enter (target : Phase) : Moves Advances (enter target) := by
  intro session
  rw [perform_enter]
  split
  next h =>
    have notFirst : target ≠ .created := by
      rintro rfl
      simp [Phase.precedes, Phase.rank] at h
    refine ⟨[.diagnostic .shell target.entryText], rfl, ?_, ?_⟩
    · have entered : Event.entered [.diagnostic .shell target.entryText] = [target] := by
        simp [Event.entered, Event.enters?_entryText notFirst]
      rw [entered]
      exact Phase.path_of_precedes h
    · exact promptsInPlace_of_no_prompt _ (by simp)
  next => exact refl_of Advances session

section Setup

variable (setup : Setup)

/-- Asking for a line records no entry into a phase. -/
theorem keeps_readLine (prompt : String) : Moves (Keeps (·.enters? = none)) (readLine prompt) := by
  refine moves_get.bind fun session => ?_
  have noEntry : ∀ event ∈ (session.editor.readLine prompt).2.1, event.enters? = none := by
    rw [Editor.readLine_eq]
    intro event member
    rcases List.mem_append.mp member with isOpening | isPrompt
    · obtain ⟨_, _, rfl⟩ := Editor.exists_sessionOpened_of_mem_opening isOpening
      rfl
    · rw [List.mem_singleton.mp isPrompt]
      rfl
  apply (keeps_emitAll noEntry).bind
  intro _
  exact Moves.bind (R := Keeps (·.enters? = none)) (moves_modify fun _ => keeps_of_eq rfl rfl)
    fun _ => moves_pure _

theorem keeps_converse (prompt : String) (readings : List Reading) :
    Moves (Keeps (·.enters? = none)) (converse setup prompt readings) := by
  induction readings with
  | nil =>
      rw [converse_nil]
      refine moves_isTerminated.bind fun ended => ?_
      split
      · exact moves_pure _
      · exact (keeps_readLine prompt).discard
  | cons reading later ih =>
      rw [converse_cons]
      refine moves_isTerminated.bind fun ended => ?_
      split
      · exact moves_pure _
      apply (keeps_readLine prompt).bind
      intro answer
      cases answer with
      | line text =>
          have answered := (stays_answerLine setup text).mono
            (Keeps.mono fun _ aside => aside.1)
          exact answered.bind fun _ => ih
      | interrupted message => exact ih
      | ended => exact moves_pure _
      | failed failure => exact moves_throw _

theorem stays_prepare : Stays (prepare setup) := by
  apply (stays_of_remarks (remarks_applyThreadHint setup)).discard.bind
  intro _
  apply (stays_onHost (Evaluator.recordsOwn_registerExit _)).bind
  intro _
  refine Moves.bind (R := Keeps Event.IsAside) ?_ fun _ => ?_
  · exact moves_modify fun _ => keeps_of_eq rfl rfl
  exact (stays_onHost (Evaluator.recordsOwn_publish _)).bind fun _ =>
    stays_onHost Host.recordsOwn_registerEngine

/-- Once the conversation is entered, the phase is kept. -/
theorem keeps_talk : Moves (Keeps (·.enters? = none)) (do
    takeUpHistory setup
    converse setup (Config.prompt setup.config) (← get).editor.readings) := by
  have takenUp := (stays_of_remarks (remarks_takeUpHistory setup)).mono
    (Keeps.mono fun _ aside => aside.1)
  exact takenUp.bind fun _ => moves_get.bind fun _ => keeps_converse setup _ _

theorem advances_interact : Moves Advances (interact setup) := by
  intro session
  rw [interact_eq]
  refine related_bind (advances_enter .interactive session) fun _ talking entered => ?_
  exact Advances.of_talk (phase_of_enter entered) (keeps_talk setup talking)

theorem phase_of_interact {session after : Session} {answer : Unit}
    (h : (interact setup).perform session = (.ok answer, after)) : after.phase = .interactive := by
  rw [interact_eq] at h
  obtain ⟨_, talking, entered, talked⟩ := perform_bind_eq_ok h
  have kept := (keeps_talk setup).of_perform talked
  exact kept.1.trans (phase_of_enter entered)

theorem advances_requests : KeptByRequests setup Advances where
  toKeptByScripts := advances_scripts
  hint := advances_of_remarks (remarks_applyThreadHint setup)
  prepare := advances_of_stays (stays_prepare setup)
  enter := advances_enter
  interact := advances_interact setup
  entry line := advances_of_remarks (remarks_addEntry line)
  saveHistory := advances_of_remarks (remarks_saveHistory setup)
  release := advances_of_stays (stays_onHost Evaluator.recordsOwn_release)

end Setup

/-- The phase in which a request can be served, if there is only one. -/
def Request.phase? : Request → Option Phase
  | .start | .run => some .created
  | .bootstrap => some .initialized
  | .interact => some .bootstrapping
  | .shutdown => some .interactive
  | _ => none

section Setup

variable (setup : Setup)

/-- A request that is out of place is refused and changes nothing. -/
theorem perform_serve_of_misplaced {request : Request} {needed : Phase} {session : Session}
    (needs : request.phase? = some needed) (elsewhere : session.phase ≠ needed) :
    ∃ target, (serve setup request).perform session =
      (.error (.outOfOrder target session.phase), session) := by
  have refused (target : Phase) (next : needed.precedes target = true) :
      (enter target).perform session = (.error (.outOfOrder target session.phase), session) := by
    rw [perform_enter, if_neg]
    intro alsoNext
    exact elsewhere (Phase.eq_of_precede alsoNext next)
  cases request with
  | start =>
      cases needs
      exact ⟨_, perform_bind_of_error (perform_start_of_not_created setup elsewhere) _⟩
  | bootstrap =>
      cases needs
      have fails := refused .bootstrapping rfl
      exact ⟨_, perform_bind_of_error (perform_bind_of_error fails _) _⟩
  | interact =>
      cases needs
      have fails := refused .interactive rfl
      exact ⟨_, perform_bind_of_error (perform_bind_of_error fails _) _⟩
  | shutdown =>
      cases needs
      have fails := refused .terminating rfl
      exact ⟨_, perform_bind_of_error (perform_bind_of_error fails _) _⟩
  | run =>
      cases needs
      have fails := perform_start_of_not_created setup elsewhere
      exact ⟨_, perform_bind_of_error (perform_bind_of_error fails _) _⟩
  | _ => cases needs

theorem perform_enter_of_precedes {target : Phase} {session : Session}
    (next : session.phase.precedes target = true) :
    (enter target).perform session = (.ok (), session.entering target) := by
  rw [perform_enter, if_pos next]

/-- Setting up is complete only with the entry into the first phase. -/
theorem eq_entering_of_start {session after : Session}
    (h : (start setup).perform session = (.ok (), after)) :
    ∃ between, (prepare setup).perform session = (.ok (), between) ∧
      after = between.entering .initialized := by
  by_cases created : session.phase = .created
  · rw [perform_start_of_created setup created] at h
    obtain ⟨_, between, prepared, entered⟩ := perform_bind_eq_ok h
    refine ⟨between, prepared, ?_⟩
    rw [perform_enter] at entered
    split at entered <;> cases entered
    rfl
  · rw [perform_start_of_not_created setup created] at h
    cases h

theorem perform_bootstrap_of_initialized {session : Session} (h : session.phase = .initialized) :
    (bootstrap setup).perform session =
      (startUp setup >>= fun _ => runInitFile setup).perform
        (session.entering .bootstrapping) := by
  rw [bootstrap_eq, perform_bind_of_ok (perform_enter_of_precedes (by rw [h]; rfl))]

theorem perform_interact_of_bootstrapping {session : Session}
    (h : session.phase = .bootstrapping) :
    (interact setup).perform session = (do
      takeUpHistory setup
      converse setup (Config.prompt setup.config) (← get).editor.readings : SessionM Unit).perform
        (session.entering .interactive) := by
  rw [interact_eq, perform_bind_of_ok (perform_enter_of_precedes (by rw [h]; rfl))]

/-- **The phases of a session are passed in one line, each at most once.**  After
any requests to a fresh session, the entries on record are the way to its phase,
and every request goes on from there.  A request that is out of place is refused
and changes nothing.  So each phase is entered at most once: the first together
with the one completion of `start`, the second right before the one evaluation of
the start-up script, the third right before the one conversation.  A line is
asked for only in the conversation. -/
theorem phases_in_line (table : ScriptTable) (engine : Engine) (editor : Editor)
    (files : FileTree) (requests : List Request) :
    let session := leftBy setup (fresh table engine editor files) requests
    Event.entered session.host.log = session.phase.path ∧
      (∀ request, ∃ events,
        ((serve setup request).perform session).2.host.log = session.host.log ++ events ∧
          ((serve setup request).perform session).2.phase.path =
            session.phase.path ++ Event.entered events) ∧
      (∀ request needed, request.phase? = some needed → session.phase ≠ needed →
        ∃ failure, (serve setup request).perform session = (.error failure, session) ∧
          failure.kind = "RuntimeError") ∧
      (∀ phase, (Event.entered session.host.log).count phase ≤ 1) ∧
      (∀ after, (start setup).perform session = (.ok (), after) →
        ∃ between, (prepare setup).perform session = (.ok (), between) ∧
          after = between.entering .initialized) ∧
      (session.phase = .initialized →
        (bootstrap setup).perform session = (do
          runPayload setup
          showBanner setup
          importCommands
          runInitFile setup : SessionM Unit).perform (session.entering .bootstrapping)) ∧
      (session.phase = .bootstrapping →
        (interact setup).perform session = (do
          takeUpHistory setup
          converse setup (Config.prompt setup.config) (← get).editor.readings :
            SessionM Unit).perform (session.entering .interactive)) ∧
      ∀ before text after, session.host.log = before ++ .prompt text :: after →
        Event.entered before = Phase.path .interactive := by
  intro session
  obtain ⟨events, log, path, inPlace⟩ :=
    (advances_requests setup).leftBy (fresh table engine editor files) requests
  have entered : Event.entered session.host.log = session.phase.path := by
    rw [log, path, Event.entered_append]
    rfl
  refine ⟨entered, ?_, ?_, ?_, ?_, ?_, ?_, ?_⟩
  · intro request
    obtain ⟨more, log', path', _⟩ := (advances_requests setup).serve request session
    exact ⟨more, log', path'⟩
  · intro request needed needs elsewhere
    obtain ⟨target, refused⟩ := perform_serve_of_misplaced setup needs elsewhere
    exact ⟨_, refused, rfl⟩
  · intro phase
    rw [entered]
    exact Phase.path_count_le_one session.phase phase
  · intro after started
    exact eq_entering_of_start setup started
  · intro initialized
    rw [perform_bootstrap_of_initialized setup initialized, startUp]
    simp only [bind_assoc]
  · intro bootstrapping
    exact perform_interact_of_bootstrapping setup bootstrapping
  · intro before text after recorded
    have all : PromptsInPlace [] session.host.log := by
      rw [log]
      exact inPlace
    rw [recorded, promptsInPlace_append] at all
    exact all.2.1 ⟨text, rfl⟩

end Setup

end CommandShell.Session
