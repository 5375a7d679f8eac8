/-
# The end by an exit

Two notes are taken of an exit.  One is cleared before each evaluation and ends
the evaluation of a file; the other is final and ends the session.  They are set
together, whoever runs the exit and whatever becomes of its error, so no part of
the session goes on to a further script or a further line after it.  What is left
then is to save the history and to release the interpreter.
-/

import CommandShell.Proofs.Session.Closing

namespace CommandShell.Session

open Act Event

/-! ## Parts that hear of an exit -/

/-- The hosts of two sessions are related. -/
def OnHost (R : Host → Host → Prop) (before after : Session) : Prop :=
  R before.host after.host

instance (R : Host → Host → Prop) [IsPreorder Host R] : IsPreorder Session (OnHost R) where
  refl session := refl_of R session.host
  trans _ _ _ := trans_of R

theorem moves_onHost {R : Host → Host → Prop} {α : Type} {act : HostM α} (h : Moves R act) :
    Moves (OnHost R) (onHost act) :=
  moves_zoom h fun _ _ related => related

theorem Remarks.avoidsExit {before after : Session} (h : Remarks before after) :
    before.host.AvoidsExit after.host := by
  obtain ⟨events, log, remarks⟩ := h.records
  refine Host.avoidsExit_of_log events log h.interpreter h.terminated ?_
  intro member
  exact (remarks _ member).2.2 rfl

theorem Remarks.obeysExit {before after : Session} (h : Remarks before after) :
    OnHost Host.ObeysExit before after := by
  obtain ⟨events, log, remarks⟩ := h.records
  exact h.avoidsExit.obeys_of_log events log fun event member => (remarks event member).2.1

theorem obeysExit_of_remarks {α : Type} {act : SessionM α} (h : Moves Remarks act) :
    Moves (OnHost Host.ObeysExit) act :=
  h.mono Remarks.obeysExit

theorem stopsAtExit_of_obeys {α : Type} {act : SessionM α} (h : Moves (OnHost Host.ObeysExit) act) :
    Moves (OnHost Host.StopsAtExit) act :=
  h.mono Host.ObeysExit.stops

theorem keepsHearing_of_stops {α : Type} {act : SessionM α}
    (h : Moves (OnHost Host.StopsAtExit) act) : Moves (OnHost Host.KeepsHearing) act :=
  h.mono Host.StopsAtExit.keepsHearing

theorem keepsHearing_of_obeys {α : Type} {act : SessionM α}
    (h : Moves (OnHost Host.ObeysExit) act) : Moves (OnHost Host.KeepsHearing) act :=
  keepsHearing_of_stops (stopsAtExit_of_obeys h)

/-- What follows a computation that stops at an exit has to respect the exit. -/
theorem stopsAtExit_bind_obeys {α β : Type} {act : SessionM α} {next : α → SessionM β}
    (first : Moves (OnHost Host.StopsAtExit) act)
    (second : ∀ value, Moves (OnHost Host.ObeysExit) (next value)) :
    Moves (OnHost Host.StopsAtExit) (act >>= next) :=
  first.seq second Host.StopsAtExit.trans_obeys id

theorem avoidsExit_bind_stops {α β : Type} {act : SessionM α} {next : α → SessionM β}
    (first : Moves (OnHost Host.AvoidsExit) act)
    (second : ∀ value, Moves (OnHost Host.StopsAtExit) (next value)) :
    Moves (OnHost Host.StopsAtExit) (act >>= next) :=
  first.seq second Host.AvoidsExit.trans_stops Host.AvoidsExit.stops

theorem stopsAtExit_tryCatch {α : Type} {act : SessionM α} {recover : Failure → SessionM α}
    (tried : Moves (OnHost Host.StopsAtExit) act)
    (recovered : ∀ failure, Moves (OnHost Host.ObeysExit) (recover failure)) :
    Moves (OnHost Host.StopsAtExit) (tryCatch act recover) := by
  intro session
  have begun := tried session
  rw [perform_tryCatch]
  rcases hact : act.perform session with ⟨failure | value, between⟩ <;> rw [hact] at begun
  · exact Host.StopsAtExit.trans_obeys begun (recovered failure between)
  · exact begun

/-- A look at the end of the session is enough to respect it. -/
theorem obeysExit_unlessTerminated {act : SessionM Unit}
    (h : Moves (OnHost Host.StopsAtExit) act) :
    Moves (OnHost Host.ObeysExit) (do if ← isTerminated then return else act) := by
  intro session
  rw [perform_unlessTerminated]
  split
  · exact refl_of (OnHost Host.ObeysExit) session
  next running => exact (h session).obeys (by simpa using running)

theorem stopsAtExit_evaluate (script : Text) :
    Moves (OnHost Host.StopsAtExit) (evaluate script) :=
  stopsAtExit_bind_obeys (moves_onHost (Evaluator.stopsAtExit_evaluate script)) fun outcome =>
    obeysExit_of_remarks (remarks_report outcome)

theorem stopsAtExit_source (path : Path) : Moves (OnHost Host.StopsAtExit) (source path) := by
  apply avoidsExit_bind_stops moves_get
  intro session
  have sourced := Evaluator.stopsAtExit_sourceFile session.files path true true
  exact stopsAtExit_bind_obeys (moves_onHost sourced) fun outcome =>
    obeysExit_of_remarks (remarks_report outcome)

/-- Asking for a line runs no exit. -/
theorem avoidsExit_readLine (prompt : String) :
    Moves (OnHost Host.AvoidsExit) (readLine prompt) := by
  intro session
  have noExit : .exitRun ∉ (session.editor.readLine prompt).2.1 := by
    rw [Editor.readLine_eq]
    intro member
    rcases List.mem_append.mp member with isOpening | isPrompt
    · obtain ⟨_, _, impossible⟩ := Editor.exists_sessionOpened_of_mem_opening isOpening
      cases impossible
    · cases List.mem_singleton.mp isPrompt
  exact Host.avoidsExit_of_log _ rfl rfl rfl noExit

theorem obeysExit_enter (target : Phase) : Moves (OnHost Host.ObeysExit) (enter target) := by
  intro session
  rw [perform_enter]
  split
  · have emitted := Host.obeysExit_emit (.diagnostic .shell target.entryText) (by simp) rfl
    exact emitted session.host
  · exact refl_of (OnHost Host.ObeysExit) session

section Setup

variable (setup : Setup)

theorem stopsAtExit_sourceInitFile : Moves (OnHost Host.StopsAtExit) (sourceInitFile setup) := by
  apply avoidsExit_bind_stops (moves_lift _)
  intro path
  apply avoidsExit_bind_stops moves_get
  intro session
  apply avoidsExit_bind_stops (moves_lift _)
  intro found
  split
  · exact stopsAtExit_source path
  · have remarks := remarks_emit (Event.isRemark_noInitFile path)
    exact stopsAtExit_of_obeys (obeysExit_of_remarks remarks)

theorem stopsAtExit_runInitFile : Moves (OnHost Host.StopsAtExit) (runInitFile setup) := by
  rw [runInitFile]
  split
  · exact stopsAtExit_of_obeys (moves_pure _)
  · exact stopsAtExit_sourceInitFile setup

theorem stopsAtExit_sourceLaunchFile :
    Moves (OnHost Host.StopsAtExit) (sourceLaunchFile setup) := by
  rw [sourceLaunchFile]
  split
  · exact stopsAtExit_source _
  · exact stopsAtExit_of_obeys (moves_pure _)

theorem obeysExit_runOneShots : Moves (OnHost Host.ObeysExit) (runOneShots setup) := by
  rw [runOneShots_eq]
  apply obeysExit_unlessTerminated
  split
  · exact stopsAtExit_sourceLaunchFile setup
  · apply stopsAtExit_bind_obeys (stopsAtExit_evaluate _)
    intro _
    exact obeysExit_unlessTerminated (stopsAtExit_sourceLaunchFile setup)

theorem stopsAtExit_answerLine (line : Text) :
    Moves (OnHost Host.StopsAtExit) (answerLine setup line) := by
  refine stopsAtExit_bind_obeys ?_ fun _ => ?_
  · apply stopsAtExit_tryCatch (stopsAtExit_evaluate line)
    intro failure
    split
    · exact obeysExit_of_remarks (remarks_reportCrash setup failure line)
    · exact moves_throw _
  · split
    · exact moves_pure _
    · exact obeysExit_of_remarks (remarks_addEntry line)

/-- Before each request for a line the conversation looks whether the session has
ended, and between two looks there is one evaluation at most. -/
theorem obeysExit_converse (prompt : String) (readings : List Reading) :
    Moves (OnHost Host.ObeysExit) (converse setup prompt readings) := by
  induction readings with
  | nil =>
      rw [converse_nil]
      apply obeysExit_unlessTerminated
      apply avoidsExit_bind_stops (avoidsExit_readLine prompt)
      intro _
      exact stopsAtExit_of_obeys (moves_pure _)
  | cons reading later ih =>
      rw [converse_cons]
      apply obeysExit_unlessTerminated
      apply avoidsExit_bind_stops (avoidsExit_readLine prompt)
      intro answer
      cases answer with
      | line text => exact stopsAtExit_bind_obeys (stopsAtExit_answerLine setup text) fun _ => ih
      | interrupted message => exact stopsAtExit_of_obeys ih
      | ended => exact stopsAtExit_of_obeys (moves_pure _)
      | failed failure => exact stopsAtExit_of_obeys (moves_throw _)

theorem obeysExit_interact : Moves (OnHost Host.ObeysExit) (interact setup) := by
  rw [interact_eq]
  apply (obeysExit_enter _).bind
  intro _
  apply (obeysExit_of_remarks (remarks_takeUpHistory setup)).bind
  intro _
  exact moves_get.bind fun session => obeysExit_converse setup _ _

theorem obeysExit_shutdown : Moves (OnHost Host.ObeysExit) (shutdown setup) := by
  apply (obeysExit_enter _).bind
  intro _
  apply (obeysExit_of_remarks (remarks_saveHistory setup)).bind
  intro _
  exact (moves_onHost Evaluator.obeysExit_release).bind fun _ => obeysExit_enter _

/-! ## Requests -/

theorem keepsHearing_prepare : Moves (OnHost Host.KeepsHearing) (prepare setup) := by
  have hinted : Moves (OnHost Host.KeepsHearing) (applyThreadHint setup) :=
    keepsHearing_of_obeys (obeysExit_of_remarks (remarks_applyThreadHint setup))
  apply hinted.discard.bind
  intro _
  apply (moves_onHost Evaluator.keepsHearing_registerExit).bind
  intro _
  refine Moves.bind (R := OnHost Host.KeepsHearing) ?_ fun _ => ?_
  · exact moves_modify fun session => refl_of Host.KeepsHearing session.host
  apply (moves_onHost (Evaluator.keepsHearing_publish _)).bind
  intro _
  exact moves_onHost Evaluator.keepsHearing_registerEngine

theorem keepsHearing_enter (target : Phase) : Moves (OnHost Host.KeepsHearing) (enter target) :=
  keepsHearing_of_obeys (obeysExit_enter target)

theorem keepsHearing_scripts : KeptByScripts (OnHost Host.KeepsHearing) where
  script script :=
    keepsHearing_of_stops (moves_onHost (Evaluator.stopsAtExit_evaluate script))
  file files path :=
    keepsHearing_of_stops (moves_onHost (Evaluator.stopsAtExit_sourceFile files path true true))
  remark _ isRemark :=
    keepsHearing_of_obeys (obeysExit_of_remarks (remarks_emit isRemark))

/-- Every request leaves exits as they are heard, and the end of the session is
final. -/
theorem keepsHearing_requests : KeptByRequests setup (OnHost Host.KeepsHearing) where
  toKeptByScripts := keepsHearing_scripts
  hint := keepsHearing_of_obeys (obeysExit_of_remarks (remarks_applyThreadHint setup))
  prepare := keepsHearing_prepare setup
  enter := keepsHearing_enter
  interact := keepsHearing_of_obeys (obeysExit_interact setup)
  entry line := keepsHearing_of_obeys (obeysExit_of_remarks (remarks_addEntry line))
  saveHistory := keepsHearing_of_obeys (obeysExit_of_remarks (remarks_saveHistory setup))
  release := keepsHearing_of_obeys (moves_onHost Evaluator.obeysExit_release)

/-- Everything before the first script of the user. -/
def beginning : SessionM Unit := do
  start setup
  enter .bootstrapping
  startUp setup

/-- The parts in which scripts of the user are evaluated, in order. -/
def userParts : List (SessionM Unit) :=
  [runInitFile setup, runOneShots setup, interact setup]

theorem run_eq :
    run setup = (do
      beginning setup
      (userParts setup).forM id
      shutdown setup) := by
  simp only [run, bootstrap_eq, beginning, userParts, List.forM, id, bind_assoc, pure_bind]

theorem keepsHearing_beginning : Moves (OnHost Host.KeepsHearing) (beginning setup) := by
  apply (keepsHearing_requests setup).start.bind
  intro _
  exact (keepsHearing_enter _).bind fun _ => keepsHearing_scripts.startUp setup

theorem hearsExit_fresh (table : ScriptTable) (engine : Engine) (editor : Editor)
    (files : FileTree) : (fresh table engine editor files).host.HearsExit := by
  rintro interpreter held name listener bound
  cases held
  cases bound

/-! ## After an exit -/

theorem perform_runOneShots_of_terminated {session : Session}
    (ended : session.host.terminated = true) :
    (runOneShots setup).perform session = (.ok (), session) := by
  rw [runOneShots_eq, perform_unlessTerminated, if_pos ended]

/-- The history can be saved, as far as it is entered by now, but for faults of the file
system. -/
def SavesButForFaults (session : Session) : Prop :=
  History.SavesButForFaults session.files (Config.historyPath setup.config) session.editor.entries

/-- A session that has ended still takes up the history, and asks for no line. -/
theorem exists_perform_interact {session : Session} (ready : session.phase = .bootstrapping)
    (ended : session.host.terminated = true) (clean : SavesButForFaults setup session) :
    ∃ after, (interact setup).perform session = (.ok (), after) ∧
      SavesButForFaults setup after := by
  have noNul := (History.savesButForFaults_iff.mp clean).1
  cases loading : (History.load session.files (Config.historyPath setup.config)).1 with
  | error failure =>
      rw [History.load_eq_error_iff, noNul] at loading
      cases loading.1
  | ok loaded =>
      let talking := session.entering .interactive
      obtain ⟨events, takenUp⟩ := perform_takeUpHistory setup talking loading
      refine ⟨talking.taking events ((loaded.map .plain).filter History.isStorable), ?_, ?_⟩
      · rw [perform_interact_of_bootstrapping setup ready, perform_bind_of_ok takenUp,
          perform_bind_of_ok (perform_get _)]
        exact perform_converse_of_terminated setup _ _ ended
      · rw [SavesButForFaults, taking, Editor.entries_withEntries]
        exact History.SavesButForFaults.append clean loaded

/-- The session has come to its end: the save of the history has been announced and
the interpreter is released. -/
structure EndsFrom (before final : Session) : Prop where
  phase : final.phase = .done
  released : final.host.interpreter = none
  announced : ∃ events, final.host.log = before.host.log ++ events ∧
    .output History.saveMessage ∈ events

theorem exists_endsFrom_of_interactive {session : Session} (talking : session.phase = .interactive)
    (clean : SavesButForFaults setup session) :
    ∃ final, (shutdown setup).perform session = (.ok (), final) ∧ EndsFrom session final := by
  obtain ⟨final, shut, phase, released, announced⟩ :=
    exists_perform_shutdown setup talking clean
  exact ⟨final, shut, phase, released, announced⟩

theorem exists_endsFrom_of_bootstrapping {session : Session}
    (ready : session.phase = .bootstrapping) (ended : session.host.terminated = true)
    (clean : SavesButForFaults setup session) :
    ∃ final, (do interact setup; shutdown setup : SessionM Unit).perform session =
      (.ok (), final) ∧ EndsFrom session final := by
  obtain ⟨after, interacted, clean'⟩ := exists_perform_interact setup ready ended clean
  have talked := phase_of_interact setup interacted
  obtain ⟨final, shut, phase, released, events, log, announced⟩ :=
    exists_endsFrom_of_interactive setup talked clean'
  obtain ⟨before, log', _⟩ := (advances_interact setup).of_perform interacted
  refine ⟨final, by rw [perform_bind_of_ok interacted, shut], phase, released, ?_⟩
  exact ⟨before ++ events, by rw [log, log', List.append_assoc],
    List.mem_append_right _ announced⟩

theorem phase_of_beginning {session ready : Session}
    (h : (beginning setup).perform session = (.ok (), ready)) : ready.phase = .bootstrapping := by
  obtain ⟨_, _, _, h⟩ := perform_bind_eq_ok h
  obtain ⟨_, entered, entering, h⟩ := perform_bind_eq_ok h
  have kept := (stays_scripts.startUp setup).of_perform h
  exact kept.1.trans (phase_of_enter entering)

theorem prefix_userParts {front : List (SessionM Unit)} (h : front <+: userParts setup) :
    front = [] ∨ front = [runInitFile setup] ∨ front = [runInitFile setup, runOneShots setup] ∨
      front = [runInitFile setup, runOneShots setup, interact setup] := by
  rcases List.prefix_cons_iff.mp h with rfl | ⟨afterFirst, rfl, inSecond⟩
  · exact .inl rfl
  rcases List.prefix_cons_iff.mp inSecond with rfl | ⟨afterSecond, rfl, inThird⟩
  · exact .inr (.inl rfl)
  rcases List.prefix_cons_iff.mp inThird with rfl | ⟨afterThird, rfl, inNone⟩
  · exact .inr (.inr (.inl rfl))
  · rw [List.prefix_nil.mp inNone]
    exact .inr (.inr (.inr rfl))

theorem stopsAtExit_userParts {front : List (SessionM Unit)} (h : front <+: userParts setup) :
    Moves (OnHost Host.StopsAtExit) (front.forM id) := by
  have initFile := stopsAtExit_runInitFile setup
  have oneShots := obeysExit_runOneShots setup
  have talk := obeysExit_interact setup
  have none : Moves (OnHost Host.ObeysExit) (pure ⟨⟩ : SessionM PUnit) := moves_pure _
  rcases prefix_userParts setup h with rfl | rfl | rfl | rfl
  · exact stopsAtExit_of_obeys none
  · exact stopsAtExit_bind_obeys initFile fun _ => none
  · exact stopsAtExit_bind_obeys initFile fun _ => oneShots.bind fun _ => none
  · exact stopsAtExit_bind_obeys initFile fun _ => oneShots.bind fun _ => talk.bind fun _ => none

/-- A session that has ended by the time some parts are through with success comes
to its end from there. -/
theorem exists_endsFrom_of_userParts {front : List (SessionM Unit)}
    (h : front <+: userParts setup) (some_part : front ≠ []) {ready reached : Session}
    (begun : ready.phase = .bootstrapping)
    (through : (front.forM id).perform ready = (.ok (), reached))
    (ended : reached.host.terminated = true) (clean : SavesButForFaults setup reached) :
    ∃ final, (do (userParts setup).forM id; shutdown setup : SessionM Unit).perform ready =
      (.ok (), final) ∧ EndsFrom reached final := by
  have parts : (do (userParts setup).forM id; shutdown setup : SessionM Unit) = (do
      runInitFile setup
      runOneShots setup
      interact setup
      shutdown setup) := by
    simp only [userParts, List.forM, id, bind_assoc, pure_bind]
  rw [parts]
  rcases prefix_userParts setup h with rfl | rfl | rfl | rfl
  · exact absurd rfl some_part
  all_goals simp only [List.forM, id, bind_pure_unit] at through
  · have phase := ((stays_scripts.runInitFile setup).of_perform through).1.trans begun
    rw [perform_bind_of_ok through,
      perform_bind_of_ok (perform_runOneShots_of_terminated setup ended)]
    exact exists_endsFrom_of_bootstrapping setup phase ended clean
  · obtain ⟨_, first, initialized, shot⟩ := perform_bind_eq_ok through
    have phase := ((stays_scripts.runInitFile setup).of_perform initialized).1.trans begun
    have phase' := ((stays_scripts.runOneShots setup).of_perform shot).1.trans phase
    rw [perform_bind_of_ok initialized, perform_bind_of_ok shot]
    exact exists_endsFrom_of_bootstrapping setup phase' ended clean
  · obtain ⟨_, first, initialized, others⟩ := perform_bind_eq_ok through
    obtain ⟨_, second, shot, talked⟩ := perform_bind_eq_ok others
    rw [perform_bind_of_ok initialized, perform_bind_of_ok shot, perform_bind_of_ok talked]
    exact exists_endsFrom_of_interactive setup (phase_of_interact setup talked) clean

theorem perform_run_of_beginning {session ready : Session}
    (begun : (beginning setup).perform session = (.ok (), ready)) :
    (run setup).perform session =
      (do (userParts setup).forM id; shutdown setup : SessionM Unit).perform ready := by
  rw [run_eq, perform_bind_of_ok begun]

/-- When the scripts of the user come, the session hears every exit. -/
theorem hearsExit_of_beginning (table : ScriptTable) (engine : Engine) (editor : Editor)
    (files : FileTree) (requests : List Request) {ready : Session}
    (begun : (beginning setup).perform
      (leftBy setup (fresh table engine editor files) requests) = (.ok (), ready)) :
    ready.host.HearsExit := by
  have requested :=
    (keepsHearing_requests setup).leftBy (fresh table engine editor files) requests
  have prepared := (keepsHearing_beginning setup).of_perform begun
  exact prepared.1 (requested.1 (hearsExit_fresh table engine editor files))

/-- **An exit is the end of whatever is left.**  Let a run, after any requests to a
fresh session, have come to the scripts of the user.  Whatever it comes to and
wherever an exit is run from then on, nothing is demanded after it: no further
command of the same file, no further command of the launch and no further line.
Both notes are taken as soon as the step of the script that ran it is over, and
the one that ends the session stays, for the rest of the script and for good,
whether the part that ran the script fails or not.  An ended session passes over
the commands of the launch and the conversation.  If the part has not failed and loading
and saving the history meet no other failures than those of the file system, then the run
goes on to save the history and to release the interpreter, and succeeds. -/
theorem exit_ends_session (table : ScriptTable) (engine : Engine) (editor : Editor)
    (files : FileTree) (requests : List Request) {ready : Session}
    (begun : (beginning setup).perform
      (leftBy setup (fresh table engine editor files) requests) = (.ok (), ready)) :
    let session := leftBy setup (fresh table engine editor files) requests
    let final := ((run setup).perform session).2
    (ready.host.HearsExit ∧ ∀ host : Host, host.HearsExit → ∀ result steps,
      let after := ((Host.runSteps result steps).perform host).2
      after.HearsExit ∧ (host.terminated = true → after.terminated = true) ∧
      ∃ events, after.log = host.log ++ events ∧
        (.exitRun ∈ events → after.exiting = true ∧ after.terminated = true)) ∧
    (∃ events, final.host.log = ready.host.log ++ events ∧
      (.exitRun ∈ events → final.host.terminated = true) ∧
      ∀ before after, events = before ++ .exitRun :: after →
        ∀ event ∈ after, event.isDemand = false) ∧
    (∀ ended : Session, ended.host.terminated = true →
      (runOneShots setup).perform ended = (.ok (), ended) ∧
      ∀ prompt readings, (converse setup prompt readings).perform ended = (.ok (), ended)) ∧
    ∀ front, front <+: userParts setup →
      let reached := (front.forM id).perform ready
      ∃ events, reached.2.host.log = ready.host.log ++ events ∧
        (.exitRun ∈ events →
          (∀ later, (leftBy setup reached.2 later).host.terminated = true) ∧
          (reached.1 = .ok () → SavesButForFaults setup reached.2 →
            (run setup).perform session = (.ok (), final) ∧ EndsFrom reached.2 final)) := by
  intro session final
  have hears := hearsExit_of_beginning setup table engine editor files requests begun
  have running := perform_run_of_beginning setup begun
  refine ⟨⟨hears, ?_⟩, ?_, ?_, ?_⟩
  · intro host heard result steps after
    obtain ⟨events, runs⟩ := Host.runsTo_runSteps result steps host
    refine ⟨runs.hearsExit heard, runs.staysTerminated, events, runs.log, ?_⟩
    intro ran
    exact ⟨runs.exiting (.inr ran), runs.terminated heard ran⟩
  · have stops := stopsAtExit_bind_obeys
      (stopsAtExit_userParts setup (List.prefix_refl (userParts setup)))
      fun _ => obeysExit_shutdown setup
    obtain ⟨events, heeds⟩ := stops ready hears
    refine ⟨events, ?_, ?_, ?_⟩
    · exact (congrArg (·.2.host.log) running).trans heeds.log
    · intro ran
      exact (congrArg (·.2.host.terminated) running).trans (heeds.terminated ran)
    · rintro before after rfl
      exact heeds.quiet.not_isDemand
  · intro halted isOver
    refine ⟨perform_runOneShots_of_terminated setup isOver, ?_⟩
    intro prompt readings
    exact perform_converse_of_terminated setup prompt readings isOver
  · intro front isFront reached
    obtain ⟨events, heeds⟩ := stopsAtExit_userParts setup isFront ready hears
    refine ⟨events, heeds.log, ?_⟩
    intro ran
    have ended : reached.2.host.terminated = true := heeds.terminated ran
    constructor
    · intro later
      exact ((keepsHearing_requests setup).leftBy reached.2 later).2 heeds.hearsExit ended
    · intro through clean
      have some_part : front ≠ [] := by
        rintro rfl
        have none : events = [] :=
          List.append_cancel_left (heeds.log.symm.trans (List.append_nil _).symm)
        simp [none] at ran
      obtain ⟨last, finished, ends⟩ := exists_endsFrom_of_userParts setup isFront some_part
        (phase_of_beginning setup begun) (Prod.ext through rfl : reached = (.ok (), reached.2))
        ended clean
      have whole : (run setup).perform session = (.ok (), last) := running.trans finished
      have same : final = last := congrArg Prod.snd whole
      exact ⟨by rw [whole, same], same ▸ ends⟩

end Setup

/-! ## A session to try -/

def sampleSetup : Setup where
  args := ⟨["sta", "-no_init", "-no_splash"]⟩
  config := []
  payload := []
  environment := { home := "home", dataHome := some "data" }
  processors := none

def sampleTable : ScriptTable where
  scripts := [("leave", [.exit]), ("slip", [.call exitCallbackName ["now"]])]

def sampleEngine : Engine where
  version := "1"

/-- A line with a byte that could not be decoded. -/
def undecodedLine : Text := .broken "abc" 0x4ff ""

def sampleEditor (lines : List Text) : Editor :=
  .fresh .plain false (lines.map .line)

/-- A session whose user enters some lines. -/
def sample (lines : List Text) : Session :=
  fresh sampleTable sampleEngine (sampleEditor lines) {}

/-- A line is entered that leaves, and the one after it is never asked for. -/
theorem exit_ends_session_sample :
    let session := sample ["leave", "go on"]
    let ready := ((beginning sampleSetup).perform session).2
    let final := ((run sampleSetup).perform session).2
    (beginning sampleSetup).perform session = (.ok (), ready) ∧
      (run sampleSetup).perform session = (.ok (), final) ∧ final.phase = .done := by
  have begun := @perform_eq_of_isOk _ (beginning sampleSetup) (sample ["leave", "go on"])
    (by decide +kernel)
  have through := @perform_eq_of_isOk _ ((userParts sampleSetup).forM id)
    ((beginning sampleSetup).perform (sample ["leave", "go on"])).2 (by decide +kernel)
  have ends := exit_ends_session sampleSetup sampleTable sampleEngine
    (sampleEditor ["leave", "go on"]) {} [] begun
  have untouched : leftBy sampleSetup (fresh sampleTable sampleEngine
      (sampleEditor ["leave", "go on"]) {}) [] = sample ["leave", "go on"] := rfl
  rw [untouched] at ends
  obtain ⟨events, log, ended⟩ := ends.2.2.2 (userParts sampleSetup) (List.prefix_refl _)
  have ran : .exitRun ∈ events := by
    have recorded : .exitRun ∈ (((userParts sampleSetup).forM id).perform
        ((beginning sampleSetup).perform (sample ["leave", "go on"])).2).2.host.log := by
      decide +kernel
    have notBefore : .exitRun ∉
        ((beginning sampleSetup).perform (sample ["leave", "go on"])).2.host.log := by
      decide +kernel
    rw [log] at recorded
    exact (List.mem_append.mp recorded).resolve_left notBefore
  have clean : SavesButForFaults sampleSetup (((userParts sampleSetup).forM id).perform
      ((beginning sampleSetup).perform (sample ["leave", "go on"])).2).2 :=
    History.savesButForFaults_iff.mpr
      ⟨by decide +kernel, fun _ => ⟨["leave"], by decide +kernel⟩⟩
  have finished := (ended ran).2 (by rw [through]) clean
  exact ⟨begun, finished.1, finished.2.phase⟩

/-- An exit command that is called with arguments refuses them, and so nothing
ends. -/
theorem refused_exit_goes_on :
    let final := ((run sampleSetup).perform (sample ["slip", "go on"])).2
    sampleTable.scripts.lookup (.plain "slip") = some [.call exitCallbackName ["now"]] ∧
      .errorLine ("[ERROR] Unhandled exception: TypeError: " ++
        "TclEvaluator.register_exit.<locals>._exit() takes 0 positional arguments " ++
        "but 1 was given") ∈ final.host.log ∧
      final.host.terminated = false ∧
      final.host.log.filter (·.isDemand) =
        [.script exitProcedure, .script "", .script "sta::define_sta_cmds",
          .script "namespace import sta::*", .prompt "sta> ", .script "slip", .prompt "sta> ",
          .script "go on", .prompt "sta> "] := by
  decide +kernel

end CommandShell.Session
