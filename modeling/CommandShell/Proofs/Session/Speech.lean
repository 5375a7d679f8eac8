/-
# What is said

Three kinds of events matter to the user: scripts that are handed over, lines on the
error channel and requests for a line.  For every computation of a session it is
said which scripts it may hand over, and exactly which complaints it makes and which
prompts it shows, whatever it comes to.  An evaluation complains once or not at all.
-/

import CommandShell.Proofs.CrashLog
import CommandShell.Proofs.Session.History

namespace CommandShell

namespace Event

/-- The line that an event puts on the error channel. -/
def complaint? : Event → Option Text
  | .errorLine text => some text
  | _ => none

/-- The lines on the error channel, in order. -/
def complaints (events : List Event) : List Text :=
  events.filterMap complaint?

/-- The prompt that an event shows. -/
def prompt? : Event → Option String
  | .prompt text => some text
  | _ => none

/-- The prompts shown, in order. -/
def prompts (events : List Event) : List String :=
  events.filterMap prompt?

theorem complaints_append (front back : List Event) :
    complaints (front ++ back) = complaints front ++ complaints back :=
  List.filterMap_append

theorem prompts_append (front back : List Event) :
    prompts (front ++ back) = prompts front ++ prompts back :=
  List.filterMap_append

/-- An event that is none of the three. -/
def isWordless : Event → Bool
  | .script _ | .errorLine _ | .prompt _ => false
  | _ => true

theorem complaint?_of_isHostEvent {event : Event} (h : event.isHostEvent = true) :
    event.complaint? = none := by
  cases event <;> first | rfl | cases h

theorem prompt?_of_isHostEvent {event : Event} (h : event.isHostEvent = true) :
    event.prompt? = none := by
  cases event <;> first | rfl | cases h

end Event

/-- The line that reports a failure which the conversation survives. -/
def Failure.crashText (failure : Failure) : Text :=
  "[ERROR] Unhandled exception: " ++ failure.kind ++ ": " ++ failure.message

namespace Outcome

/-- What is complained of after an evaluation: a failure that has a text. -/
def complaints : Except Failure Outcome → List Text
  | .ok outcome => outcome.report?.toList
  | .error _ => []

/-- What is complained of after the evaluation of a line, which may also come to a
failure that the conversation survives. -/
def lineComplaints : Except Failure Outcome → List Text
  | .ok outcome => outcome.report?.toList
  | .error obstacle => if obstacle.isOrdinary then [obstacle.crashText] else []

end Outcome

namespace Session

open Act Event

theorem perform_onHost {α : Type} {act : HostM α} {session : Session} {answer : Except Failure α}
    {host : Host} (h : act.perform session.host = (answer, host)) :
    (onHost act).perform session = (answer, { session with host }) := by
  rw [onHost, perform_zoom, h]

theorem perform_host_of_onHost {α : Type} {act : HostM α} {session after : Session}
    {answer : Except Failure α} (h : (onHost act).perform session = (answer, after)) :
    act.perform session.host = (answer, after.host) := by
  rw [onHost, perform_zoom] at h
  cases h
  rfl

/-- Some of the scripts given are handed over, in order, and exactly these
complaints are made and these prompts shown. -/
def Tells (given complained : List Text) (prompted : List String) (before after : Session) : Prop :=
  ∃ events, after.host.log = before.host.log ++ events ∧ (scripts events).Sublist given ∧
    complaints events = complained ∧ prompts events = prompted

theorem Tells.trans {given given' complained complained' : List Text}
    {prompted prompted' : List String} {a b c : Session} (hab : Tells given complained prompted a b)
    (hbc : Tells given' complained' prompted' b c) :
    Tells (given ++ given') (complained ++ complained') (prompted ++ prompted') a c := by
  obtain ⟨events, log, handed, rfl, rfl⟩ := hab
  obtain ⟨events', log', handed', rfl, rfl⟩ := hbc
  refine ⟨events ++ events', by rw [log', log, List.append_assoc], ?_, ?_, ?_⟩
  · rw [scripts_append]
    exact handed.append handed'
  · exact complaints_append events events'
  · exact prompts_append events events'

theorem Tells.more {given more complained : List Text} {prompted : List String}
    (h : given.Sublist more) {before after : Session} :
    Tells given complained prompted before after → Tells more complained prompted before after := by
  rintro ⟨events, log, handed, said⟩
  exact ⟨events, log, handed.trans h, said⟩

/-- Nothing is handed over, complained of or asked for. -/
abbrev Wordless : Session → Session → Prop :=
  Tells [] [] []

theorem Wordless.of_log_eq {before after : Session} (h : after.host.log = before.host.log) :
    Wordless before after :=
  ⟨[], by rw [h, List.append_nil], List.Sublist.refl _, rfl, rfl⟩

instance : IsPreorder Session Wordless where
  refl _ := Wordless.of_log_eq rfl
  trans _ _ _ := Tells.trans

/-- What is said before and after a wordless stretch is all that is said. -/
theorem Tells.trans_wordless {given complained : List Text} {prompted : List String}
    {a b c : Session} (hab : Tells given complained prompted a b) (hbc : Wordless b c) :
    Tells given complained prompted a c := by
  have both := hab.trans hbc
  simpa only [List.append_nil] using both

theorem Wordless.trans_tells {given complained : List Text} {prompted : List String}
    {a b c : Session} (hab : Wordless a b) (hbc : Tells given complained prompted b c) :
    Tells given complained prompted a c :=
  hab.trans hbc

theorem wordless_emitAll {events : List Event} (h : ∀ event ∈ events, event.isWordless = true) :
    Moves Wordless (emitAll events) := by
  have none {α : Type} {kind? : Event → Option α}
      (silent : ∀ event : Event, event.isWordless = true → kind? event = none) :
      events.filterMap kind? = [] :=
    List.filterMap_eq_nil_iff.mpr fun event member => silent event (h event member)
  intro session
  have noScript : scripts events = [] := none fun event silent => by
    cases event <;> first | rfl | cases silent
  refine ⟨events, rfl, noScript ▸ List.Sublist.refl _, none ?_, none ?_⟩
  all_goals
    intro event silent
    cases event <;> first | rfl | cases silent

theorem wordless_emit (event : Event) (h : event.isWordless = true) :
    Moves Wordless (emit event) :=
  wordless_emitAll (by simpa using h)

theorem tells_errorLine (text : Text) (session : Session) :
    Tells [] [text] [] session ((emit (.errorLine text)).perform session).2 :=
  ⟨[.errorLine text], rfl, List.Sublist.refl _, rfl, rfl⟩

theorem tells_onHost {α : Type} {act : HostM α} {given : List Text} {session : Session}
    (h : Host.Hands (·.isHostEvent = true) given session.host (act.perform session.host).2) :
    Tells given [] [] session ((onHost act).perform session).2 := by
  obtain ⟨events, log, given, own⟩ := h
  refine ⟨events, log, given, ?_, ?_⟩
  · exact List.filterMap_eq_nil_iff.mpr fun event member =>
      complaint?_of_isHostEvent (own event member)
  · exact List.filterMap_eq_nil_iff.mpr fun event member =>
      prompt?_of_isHostEvent (own event member)

theorem tells_setUp {α : Type} {act : HostM α} {given : List Text}
    (h : Moves (Host.Hands (·.isSetUp = true) given) act) :
    Moves (Tells given [] []) (onHost act) := fun session =>
  tells_onHost (h.mono (Host.Hands.mono fun _ => isHostEvent_of_isSetUp) session.host)

theorem tells_evaluation (script : Text) :
    Moves (Tells [script] [] []) (onHost (Evaluator.evaluate script)) := by
  have evaluated := (Evaluator.hands_evaluate script).mono
    (Host.Hands.mono fun _ => isHostEvent_of_isEvaluation)
  exact fun session => tells_onHost (evaluated session.host)

/-! ## Evaluations -/

/-- Reporting succeeds, and tells what there is to be reported. -/
theorem exists_perform_report (outcome : Outcome) (session : Session) :
    ∃ after, (report outcome).perform session = (.ok (), after) ∧
      Tells [] outcome.report?.toList [] session after := by
  rw [report]
  cases outcome.report? with
  | none => exact ⟨session, rfl, refl_of Wordless session⟩
  | some text => exact ⟨_, rfl, tells_errorLine text session⟩

/-- An evaluation with the report of its outcome. -/
theorem tells_reported {act : HostM Outcome} {given : List Text} {session : Session}
    (h : Host.Hands (·.isHostEvent = true) given session.host (act.perform session.host).2) :
    Tells given (Outcome.complaints (act.perform session.host).1) [] session
      ((onHost act >>= report).perform session).2 := by
  have evaluated := tells_onHost h
  have answers : ((onHost act).perform session).1 = (act.perform session.host).1 := rfl
  rw [perform_bind, ← answers]
  rcases hact : (onHost act).perform session with ⟨failure | outcome, between⟩ <;>
    rw [hact] at evaluated
  · exact evaluated
  · obtain ⟨after, reported, said⟩ := exists_perform_report outcome between
    simp only [reported]
    have both := evaluated.trans said
    rwa [List.append_nil, List.nil_append] at both

theorem tells_evaluate (script : Text) (session : Session) :
    Tells [script] (Outcome.complaints ((Evaluator.evaluate script).perform session.host).1) []
      session ((evaluate script).perform session).2 := by
  have evaluated := (Evaluator.hands_evaluate script).mono
    (Host.Hands.mono fun _ => isHostEvent_of_isEvaluation)
  exact tells_reported (evaluated session.host)

/-- However many commands a file has, its evaluation is reported once. -/
theorem tells_source (path : Path) (session : Session) :
    Tells ((Evaluator.commandsOf session.host session.files path).map .plain)
      (Outcome.complaints
        ((Evaluator.sourceFile session.files path true true).perform session.host).1) []
      session ((source path).perform session).2 := by
  rw [source, perform_bind_of_ok (perform_get session)]
  exact tells_reported (Evaluator.hands_sourceFile session.files path true true session.host)

section Setup

variable (setup : Setup)

/-- The init file, if there is one. -/
def initFile? (session : Session) : Option Path :=
  match Config.initPath setup.config setup.environment with
  | .ok path =>
    match session.files.isFile path with
    | .ok true => some path
    | _ => none
  | .error _ => none

theorem wordless_sourceInitFile {session : Session} (h : initFile? setup session = none) :
    Wordless session ((sourceInitFile setup).perform session).2 := by
  rw [initFile?] at h
  rw [sourceInitFile]
  cases located : Config.initPath setup.config setup.environment with
  | error failure => exact refl_of Wordless session
  | ok path =>
      rw [perform_bind_of_ok (perform_lift _ session), perform_bind_of_ok (perform_get session)]
      cases found : session.files.isFile path with
      | error refusal => exact refl_of Wordless session
      | ok isThere =>
          cases isThere with
          | true => simp [located, found] at h
          | false => exact wordless_emit _ rfl session

theorem perform_sourceInitFile {session : Session} {path : Path}
    (h : initFile? setup session = some path) :
    (sourceInitFile setup).perform session = (source path).perform session := by
  rw [initFile?] at h
  rw [sourceInitFile]
  split at h
  next other located =>
    split at h <;> cases h
    next found =>
      rw [located, perform_bind_of_ok (perform_lift _ session),
        perform_bind_of_ok (perform_get session), found]
      rfl
  · cases h

theorem tells_handsOver : HandsOver fun given => Tells given [] [] where
  nothing session := refl_of Wordless session
  append := Tells.trans
  more fewer := Tells.more fewer
  script := tells_evaluation

/-! ## The launch and the history -/

/-- What is complained of about the thread count of the launch. -/
def threadComplaints : List Text :=
  match setup.args.threadCount setup.processors with
  | .error (.threadCount _) => [threadsWarning]
  | _ => []

theorem tells_applyThreadHint :
    Moves (Tells [] (threadComplaints setup) []) (applyThreadHint setup) := by
  intro session
  rw [applyThreadHint, threadComplaints]
  cases setup.args.threadCount setup.processors with
  | ok hint =>
      cases hint with
      | none => exact refl_of Wordless session
      | some count =>
          exact ⟨[_], rfl, List.Sublist.refl _, rfl, rfl⟩
  | error failure =>
      cases failure with
      | threadCount value => exact tells_errorLine threadsWarning session
      | _ => exact refl_of Wordless session

theorem wordless_addEntry (line : Text) : Moves Wordless (addEntry line) := by
  refine moves_get.bind fun session => ?_
  have silent : ∀ event ∈ (session.editor.addEntry line).2, event.isWordless = true := by
    rw [Editor.events_addEntry, addEntryTo]
    split <;> simp [isWordless]
  exact (wordless_emitAll silent).bind fun _ => moves_modify fun _ => Wordless.of_log_eq rfl

theorem wordless_takeUpHistory : Moves Wordless (takeUpHistory setup) := by
  refine moves_get.bind fun session => ?_
  have silent : ∀ event ∈ (History.load session.files (Config.historyPath setup.config)).2,
      event.isWordless = true := by
    rw [History.load]
    split <;> simp [isWordless]
  apply (wordless_emitAll silent).bind
  intro _
  exact (moves_lift _).bind fun entries => moves_forM fun entry _ => wordless_addEntry entry

/-- The warning that a history file could not be written. -/
def saveWarning (failure : Failure) : Text :=
  "Warning: could not save command history: " ++ failure.message

/-- What is complained of when the history of a session is saved: a fault of the file
system. -/
def saveComplaints (session : Session) : List Text :=
  match (History.save session.files (Config.historyPath setup.config)
    session.editor.entries).1 with
  | .error failure@(.file (.system _ _)) => [saveWarning failure]
  | _ => []

theorem tells_saveHistory (session : Session) :
    Tells [] (saveComplaints setup session) [] session
      ((saveHistory setup).perform session).2 := by
  have silent : ∀ event ∈ (History.save session.files (Config.historyPath setup.config)
      session.editor.entries).2.1, event.isWordless = true := by
    rw [History.save]
    split <;> simp [isWordless]
  rw [perform_saveHistory, saveComplaints]
  generalize History.save session.files (Config.historyPath setup.config)
    session.editor.entries = saved at silent ⊢
  obtain ⟨ending, events, files⟩ := saved
  have announced : Wordless session { session.taking events [] with files } := by
    have said := wordless_emitAll silent session
    rw [perform_emitAll] at said
    exact said.trans_wordless (Wordless.of_log_eq rfl)
  cases ending with
  | ok => exact announced
  | error failure =>
      cases failure with
      | file refusal =>
          cases refusal with
          | system error place => exact announced.trans_tells (tells_errorLine _ _)
          | nulInPath => exact announced
      | _ => exact announced

/-! ## Rounds of the conversation -/

theorem tells_reportCrash (failure : Failure) (line : Text) (session : Session) :
    ∃ after, (reportCrash setup failure line).perform session = (.ok (), after) ∧
      Tells [] [failure.crashText] [] session after ∧
      after.files =
        ((CrashLog.write setup.environment setup.stamp failure line).perform session.files).2 := by
  obtain ⟨written, files, recorded⟩ :=
    CrashLog.exists_perform_write setup.environment setup.stamp failure line session.files
  have logged : (onFiles (CrashLog.write setup.environment setup.stamp failure line)).perform
      session = (.ok written, { session with files }) := by
    rw [onFiles, perform_zoom, recorded]
  have silent : Wordless session { session with files } := Wordless.of_log_eq rfl
  rw [reportCrash, perform_bind_of_ok logged, recorded]
  cases written with
  | true => exact ⟨_, rfl, silent.trans_tells (tells_errorLine _ _), rfl⟩
  | false =>
      have noted := wordless_emit (.diagnostic .shell "could not write crash log") rfl
        { session with files }
      exact ⟨_, rfl, (trans_of Wordless silent noted).trans_tells (tells_errorLine _ _), rfl⟩

/-- An evaluation fails only if its script fails, and with the same failure. -/
theorem perform_evaluate_of_error {text : Text} {session : Session} {failure : Failure}
    {host : Host}
    (h : (Evaluator.evaluate text).perform session.host = (.error failure, host)) :
    (evaluate text).perform session = (.error failure, { session with host }) := by
  rw [evaluate, perform_bind_of_error (perform_onHost h)]

theorem exists_perform_evaluate {text : Text} {session : Session} {outcome : Outcome}
    {host : Host}
    (h : (Evaluator.evaluate text).perform session.host = (.ok outcome, host)) :
    ∃ after, (evaluate text).perform session = (.ok (), after) := by
  obtain ⟨after, reported, _⟩ := exists_perform_report outcome { session with host }
  exact ⟨after, by rw [evaluate, perform_bind_of_ok (perform_onHost h), reported]⟩

/-- A line is handed over once and complained of once at most, whatever its
evaluation comes to. -/
theorem tells_answerLine (line : Text) (session : Session) :
    Tells [line] (Outcome.lineComplaints ((Evaluator.evaluate line).perform session.host).1) []
      session ((answerLine setup line).perform session).2 := by
  have entered : Moves Wordless (unless line = "" do addEntry line : SessionM Unit) := by
    split
    · exact moves_pure _
    · exact wordless_addEntry line
  have evaluated := tells_evaluate line session
  rw [answerLine, perform_bind, perform_tryCatch]
  rcases hact : (Evaluator.evaluate line).perform session.host with ⟨failure | outcome, host⟩ <;>
    rw [hact] at evaluated
  · have failed := perform_evaluate_of_error hact
    rw [failed] at evaluated ⊢
    dsimp only
    by_cases ordinary : failure.isOrdinary = true
    · obtain ⟨after, reported, said, _⟩ :=
        tells_reportCrash setup failure line { session with host }
      have both := evaluated.trans said
      rw [if_pos ordinary, reported, Outcome.lineComplaints, if_pos ordinary]
      exact both.trans_wordless (entered after)
    · rw [if_neg ordinary, perform_throw, Outcome.lineComplaints, if_neg ordinary]
      exact evaluated
  · obtain ⟨after, succeeded⟩ := exists_perform_evaluate hact
    rw [succeeded] at evaluated ⊢
    exact evaluated.trans_wordless (entered after)

/-- The line that a round of the conversation reads, if it reads any, and the session
that has read it. -/
def heard (session : Session) : Option Text × Session :=
  match (readLine (Config.prompt setup.config)).perform session with
  | (.ok (.line text), asked) => (some text, asked)
  | (_, asked) => (none, asked)

/-- What a round of the conversation complains of. -/
def roundComplaints (session : Session) : List Text :=
  match heard setup session with
  | (some line, asked) =>
    Outcome.lineComplaints ((Evaluator.evaluate line).perform asked.host).1
  | (none, _) => []

theorem tells_readLine (prompt : String) : Moves (Tells [] [] [prompt]) (readLine prompt) := by
  intro session
  have opening : ∀ event ∈ session.editor.opening, event.isWordless = true := by
    intro event member
    obtain ⟨_, _, rfl⟩ := Editor.exists_sessionOpened_of_mem_opening member
    rfl
  have opened := wordless_emitAll opening session
  rw [perform_emitAll] at opened
  refine opened.trans_tells ⟨[.prompt prompt], ?_, List.Sublist.refl _, rfl, rfl⟩
  rw [perform_readLine, Editor.readLine_eq]
  simp only [taking, List.append_assoc]

theorem tells_round (session : Session) :
    Tells (heard setup session).1.toList (roundComplaints setup session)
      [Config.prompt setup.config] session ((round setup).perform session).2 := by
  have asked := tells_readLine (Config.prompt setup.config) session
  obtain ⟨answer, after, read⟩ : ∃ answer after,
      (readLine (Config.prompt setup.config)).perform session = (.ok answer, after) :=
    ⟨_, _, perform_readLine _ session⟩
  rw [read] at asked
  rw [roundComplaints, heard, read, round, perform_bind_of_ok read]
  cases answer with
  | line text =>
      have both := asked.trans (tells_answerLine setup text after)
      rwa [List.append_nil, List.nil_append] at both
  | interrupted message => exact asked
  | ended => exact asked
  | failed failure => exact asked

end Setup

end Session

end CommandShell
