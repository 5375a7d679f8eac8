/-
# What the parts of a session keep

A session changes in few ways: scripts are evaluated, remarks are made, lines are
asked for and phases are entered.  A property that outlives evaluations and
remarks outlives all the parts that consist of them.  In particular those parts
keep the phase, and nothing they record can be taken for an entry into one.
-/

import CommandShell.Proofs.Session.Entries
import CommandShell.Proofs.Session.Parts

namespace CommandShell

namespace Session

open Act

/-- The phase is kept, and events of a kind are added to the record. -/
def Keeps (kind : Event → Prop) (before after : Session) : Prop :=
  after.phase = before.phase ∧ Host.Records kind before.host after.host

instance (kind : Event → Prop) : IsPreorder Session (Keeps kind) where
  refl session := ⟨rfl, refl session.host⟩
  trans _ _ _ := fun ⟨phase, log⟩ ⟨phase', log'⟩ => ⟨phase'.trans phase, trans_of _ log log'⟩

/-- A computation that keeps the phase and records nothing but asides. -/
abbrev Stays {α : Type} (act : SessionM α) : Prop :=
  Moves (Keeps Event.IsAside) act

/-- The phase, the interpreter and the end of the session are kept, and remarks are
added to the record. -/
structure Remarks (before after : Session) : Prop where
  phase : after.phase = before.phase
  interpreter : after.host.interpreter = before.host.interpreter
  terminated : after.host.terminated = before.host.terminated
  records : Host.Records Event.IsRemark before.host after.host

instance : IsPreorder Session Remarks where
  refl session := ⟨rfl, rfl, rfl, refl session.host⟩
  trans _ _ _ := by
    rintro ⟨phase, interpreter, terminated, log⟩ ⟨phase', interpreter', terminated', log'⟩
    exact ⟨phase'.trans phase, interpreter'.trans interpreter, terminated'.trans terminated,
      trans_of _ log log'⟩

theorem Keeps.mono {kind weaker : Event → Prop} (h : ∀ event, kind event → weaker event)
    {before after : Session} : Keeps kind before after → Keeps weaker before after := by
  rintro ⟨phase, events, log, ofKind⟩
  exact ⟨phase, events, log, fun event member => h event (ofKind event member)⟩

theorem keeps_of_eq {kind : Event → Prop} {before after : Session}
    (phase : after.phase = before.phase) (host : after.host.log = before.host.log) :
    Keeps kind before after :=
  ⟨phase, Host.records_of_log_eq host⟩

theorem remarks_of_host_eq {before after : Session} (phase : after.phase = before.phase)
    (host : after.host = before.host) : Remarks before after where
  phase
  interpreter := by rw [host]
  terminated := by rw [host]
  records := Host.records_of_log_eq (by rw [host])

theorem Remarks.keeps {before after : Session} (h : Remarks before after) :
    Keeps Event.IsAside before after := by
  obtain ⟨events, log, remarks⟩ := h.records
  exact ⟨h.phase, events, log, fun event member => (remarks event member).1⟩

theorem stays_of_remarks {α : Type} {act : SessionM α} (h : Moves Remarks act) : Stays act :=
  h.mono Remarks.keeps

theorem keeps_emitAll {kind : Event → Prop} {events : List Event}
    (h : ∀ event ∈ events, kind event) : Moves (Keeps kind) (emitAll events) :=
  moves_modify fun _ => ⟨rfl, events, rfl, h⟩

theorem stays_onHost {α : Type} {act : HostM α} (h : Moves Host.RecordsOwn act) :
    Stays (onHost act) := by
  refine moves_zoom h fun session host recorded => ⟨rfl, ?_⟩
  obtain ⟨events, log, own⟩ := recorded
  exact ⟨events, log, fun event member => Event.isAside_of_isHostEvent (own event member)⟩

/-! ## Parts that only remark -/

theorem remarks_emitAll {events : List Event} (h : ∀ event ∈ events, event.IsRemark) :
    Moves Remarks (emitAll events) :=
  moves_modify fun _ => ⟨rfl, rfl, rfl, events, rfl, h⟩

theorem remarks_emit {event : Event} (h : event.IsRemark) : Moves Remarks (emit event) :=
  remarks_emitAll (by simpa using h)

theorem remarks_report (outcome : Outcome) : Moves Remarks (report outcome) := by
  rw [report]
  split
  · exact remarks_emit (Event.isRemark_errorLine _)
  · exact moves_pure _

theorem remarks_addEntry (line : Text) : Moves Remarks (addEntry line) := by
  refine moves_get.bind fun session => ?_
  have remarks : ∀ event ∈ (session.editor.addEntry line).2, event.IsRemark := by
    rw [Editor.events_addEntry, addEntryTo]
    split
    · simp
    · simpa using Event.isRemark_diagnostic (by decide)
  exact (remarks_emitAll remarks).bind fun _ => moves_modify fun _ => remarks_of_host_eq rfl rfl

section Setup

variable (setup : Setup)

theorem remarks_applyThreadHint : Moves Remarks (applyThreadHint setup) := by
  rw [applyThreadHint]
  split
  · exact moves_pure _
  · refine moves_get.bind fun session => ?_
    refine (remarks_emitAll ?_).bind fun _ => ?_
    · simpa [Engine.setThreads] using Event.isRemark_diagnostic (by decide)
    refine Moves.bind (R := Remarks) ?_ fun _ => moves_pure _
    exact moves_modify fun _ => ⟨rfl, rfl, rfl, Host.records_of_log_eq rfl⟩
  · exact (remarks_emit (Event.isRemark_errorLine _)).bind fun _ => moves_pure _
  · exact moves_throw _

theorem remarks_takeUpHistory : Moves Remarks (takeUpHistory setup) := by
  refine moves_get.bind fun session => ?_
  have remarks : ∀ event ∈ (History.load session.files (Config.historyPath setup.config)).2,
      event.IsRemark := by
    rw [History.load]
    split
    · simpa using Event.isRemark_diagnostic (by decide)
    · simp
    · simpa using Event.isRemark_diagnostic (by decide)
  apply (remarks_emitAll remarks).bind
  intro _
  exact (moves_lift _).bind fun entries => moves_forM fun entry _ => remarks_addEntry entry

theorem remarks_reportCrash (failure : Failure) (line : Text) :
    Moves Remarks (reportCrash setup failure line) := by
  have files : Moves Remarks
      (onFiles (CrashLog.write setup.environment setup.stamp failure line)) :=
    fun session => remarks_of_host_eq rfl rfl
  apply files.bind
  intro written
  cases written with
  | true => exact remarks_emit (Event.isRemark_errorLine _)
  | false =>
      exact (remarks_emit Event.isRemark_noCrashLog).bind fun _ =>
        remarks_emit (Event.isRemark_errorLine _)

theorem remarks_saveHistory : Moves Remarks (saveHistory setup) := by
  rw [saveHistory_eq]
  refine moves_get.bind fun session => ?_
  have remarks : ∀ event ∈ (History.save session.files (Config.historyPath setup.config)
      session.editor.entries).2.1, event.IsRemark := by
    rw [History.save]
    split
    · rintro event member
      obtain rfl | rfl := by simpa using member
      · exact Event.isRemark_saving
      · exact Event.isRemark_diagnostic (by decide)
    · simpa using Event.isRemark_saving
  apply (remarks_emitAll remarks).bind
  intro _
  refine Moves.bind (R := Remarks) (moves_modify fun _ => remarks_of_host_eq rfl rfl) fun _ => ?_
  rw [settleSave.eq_def]
  split
  · exact moves_pure _
  · exact remarks_emit (Event.isRemark_errorLine _)
  · exact moves_throw _

end Setup

/-! ## Parts that evaluate -/

/-- An evaluation hands over its script, and what is handed over adds up. -/
structure HandsOver (R : List Text → Session → Session → Prop) : Prop where
  nothing : ∀ session, R [] session session
  append : ∀ {first second a b c}, R first a b → R second b c → R (first ++ second) a c
  more : ∀ {first more : List Text} {a b}, first.Sublist more → R first a b → R more a b
  script : ∀ text, Moves (R [text]) (onHost (Evaluator.evaluate text))

theorem HandsOver.bind {R : List Text → Session → Session → Prop} (hands : HandsOver R)
    {α β : Type} {first second : List Text} {act : SessionM α} {next : α → SessionM β}
    (begun : Moves (R first) act) (rest : ∀ value, Moves (R second) (next value)) :
    Moves (R (first ++ second)) (act >>= next) :=
  begun.seq rest hands.append (hands.more (List.sublist_append_left _ _))

/-- The scripts that the start-up may hand over: itself, and after a failure the
query for its trace. -/
def payloadScripts (setup : Setup) : List Text :=
  match Payload.decode setup.payload with
  | .ok text => [text, errorTraceQuery]
  | .error _ => []

theorem HandsOver.runPayload {R : List Text → Session → Session → Prop} (hands : HandsOver R)
    (setup : Setup) : Moves (R (payloadScripts setup)) (Session.runPayload setup) := by
  have stop {given : List Text} (failure : Failure) :
      Moves (R given) (throw failure : SessionM Unit) :=
    fun session => hands.more (List.nil_sublist _) (hands.nothing session)
  rw [Session.runPayload, payloadScripts]
  cases Payload.decode setup.payload with
  | error defect => exact stop _
  | ok text =>
      refine hands.bind (hands.script text) fun outcome => ?_
      cases outcome with
      | success result =>
          exact fun session => hands.more (List.nil_sublist _) (hands.nothing session)
      | failure message =>
          refine hands.bind (hands.script errorTraceQuery) fun trace => ?_
          cases trace <;> exact stop _

/-- Evaluations keep the relation, and so do remarks. -/
structure KeptByScripts (R : Session → Session → Prop) : Prop where
  script : ∀ script, Moves R (onHost (Evaluator.evaluate script))
  file : ∀ files path, Moves R (onHost (Evaluator.sourceFile files path true true))
  remark : ∀ event, event.IsRemark → Moves R (emit event)

theorem KeptByScripts.mono {R S : Session → Session → Prop} (kept : KeptByScripts R)
    (weaker : ∀ {before after}, R before after → S before after) : KeptByScripts S where
  script script := (kept.script script).mono weaker
  file files path := (kept.file files path).mono weaker
  remark event isRemark := (kept.remark event isRemark).mono weaker

theorem moves_isTerminated {R : Session → Session → Prop} [IsPreorder Session R] :
    Moves R isTerminated :=
  moves_get.bind fun _ => moves_pure _

section Kept

variable {R : Session → Session → Prop} [IsPreorder Session R] (kept : KeptByScripts R)
  (setup : Setup)

include kept

theorem KeptByScripts.report (outcome : Outcome) : Moves R (Session.report outcome) := by
  rw [Session.report]
  split
  · exact kept.remark _ (Event.isRemark_errorLine _)
  · exact moves_pure _

theorem KeptByScripts.evaluate (script : Text) : Moves R (Session.evaluate script) :=
  (kept.script script).bind kept.report

theorem KeptByScripts.source (path : Path) : Moves R (Session.source path) := by
  refine moves_get.bind fun session => ?_
  exact (kept.file session.files path).bind kept.report

theorem KeptByScripts.handsOver : HandsOver fun _ => R where
  nothing := refl_of R
  append := trans_of R
  more _ := id
  script := kept.script

theorem KeptByScripts.runPayload : Moves R (Session.runPayload setup) :=
  kept.handsOver.runPayload setup

theorem KeptByScripts.startUp : Moves R (Session.startUp setup) := by
  have banner : Moves R (showBanner setup) := by
    rw [showBanner]
    split
    · exact moves_pure _
    · exact kept.evaluate _
  apply (kept.runPayload setup).bind
  intro _
  apply banner.bind
  intro _
  exact (kept.evaluate _).bind fun _ => kept.evaluate _

theorem KeptByScripts.sourceInitFile : Moves R (Session.sourceInitFile setup) := by
  refine (moves_lift _).bind fun path => ?_
  refine moves_get.bind fun session => ?_
  refine (moves_lift _).bind fun found => ?_
  split
  · exact kept.source path
  · exact kept.remark _ (Event.isRemark_noInitFile path)

theorem KeptByScripts.runInitFile : Moves R (Session.runInitFile setup) := by
  rw [Session.runInitFile]
  split
  · exact moves_pure _
  · exact kept.sourceInitFile setup

theorem KeptByScripts.runOneShots : Moves R (Session.runOneShots setup) := by
  have launchFile : Moves R (sourceLaunchFile setup) := by
    rw [sourceLaunchFile]
    split
    · exact kept.source _
    · exact moves_pure _
  rw [runOneShots_eq]
  refine moves_isTerminated.bind fun ended => ?_
  split
  · exact moves_pure _
  split
  · exact launchFile
  · apply (kept.evaluate _).bind
    intro _
    refine moves_isTerminated.bind fun ended => ?_
    split
    · exact moves_pure _
    · exact launchFile

end Kept

theorem stays_scripts : KeptByScripts (Keeps Event.IsAside) where
  script script := stays_onHost (Evaluator.recordsOwn_evaluate script)
  file files path := stays_onHost (Evaluator.recordsOwn_sourceFile files path true true)
  remark _ isRemark := stays_of_remarks (remarks_emit isRemark)

theorem stays_answerLine (setup : Setup) (line : Text) : Stays (answerLine setup line) := by
  apply Moves.bind (R := Keeps Event.IsAside)
  · apply (stays_scripts.evaluate line).tryCatch
    intro failure
    split
    · exact stays_of_remarks (remarks_reportCrash setup failure line)
    · exact moves_throw _
  · intro _
    split
    · exact moves_pure _
    · exact stays_of_remarks (remarks_addEntry line)

end Session

end CommandShell
