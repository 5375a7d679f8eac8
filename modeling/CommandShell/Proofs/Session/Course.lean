/-
# The course of a session

A session is a sequence of stages, each a computation that is made for one purpose.
A course lists the stages that a run has come to, each with the session it started
from: every stage but the last has succeeded, and each starts from where the one
before it left off.  Which stages come, and in which order, is laid down by an
itinerary that depends on the launch alone, but for the one-shots that an exit leaves
out and for the number of rounds of the conversation.
-/

import CommandShell.Proofs.Session.Speech

namespace CommandShell.Session

open Act

/-- The script that shows the banner. -/
def bannerScript : String := "sta::show_splash"

/-- The script that defines the commands. -/
def definitionScript : String := "sta::define_sta_cmds"

/-- The script that imports the commands. -/
def importScript : String := "namespace import sta::*"

/-- What a session consists of. -/
inductive Stage
  /-- The thread count is handed to the engine. -/
  | threads
  /-- The exit command is bound. -/
  | exitCommand
  /-- The editor is given names to complete. -/
  | completion
  /-- The argument list is published. -/
  | arguments
  /-- The commands of the engine are registered. -/
  | engineCommands
  /-- A phase is entered. -/
  | entry (phase : Phase)
  /-- The start-up script is evaluated. -/
  | payload
  /-- The banner is shown. -/
  | banner
  /-- The commands are defined. -/
  | definition
  /-- The commands are imported. -/
  | importing
  /-- The init file is looked for and evaluated. -/
  | initFile
  /-- The command given at launch is evaluated. -/
  | command (text : String)
  /-- The file given at launch is evaluated. -/
  | launchFile (path : Path)
  /-- The history is taken up. -/
  | history
  /-- A line is asked for and answered. -/
  | round
  /-- The history is saved. -/
  | save
  /-- The interpreter is released. -/
  | release
  deriving DecidableEq

namespace Stage

/-- A stage in which scripts of the user are evaluated. -/
def isUser : Stage → Bool
  | .initFile | .command _ | .launchFile _ | .round => true
  | _ => false

section Setup

variable (setup : Setup)

/-- The computation of a stage. -/
def act : Stage → SessionM Unit
  | .threads => discard (applyThreadHint setup)
  | .exitCommand => onHost (Evaluator.registerExit .session)
  | .completion =>
    modify fun session => { session with editor := session.editor.setHook Completion.builtin }
  | .arguments => onHost (Evaluator.publish setup.args.words)
  | .engineCommands => onHost Host.registerEngine
  | .entry phase => enter phase
  | .payload => runPayload setup
  | .banner => evaluate bannerScript
  | .definition => evaluate definitionScript
  | .importing => evaluate importScript
  | .initFile => sourceInitFile setup
  | .command text => evaluate text
  | .launchFile path => source path
  | .history => takeUpHistory setup
  | .round => Session.round setup
  | .save => saveHistory setup
  | .release => onHost Evaluator.release

/-- The scripts that a stage may hand over, in order and each once, from a session. -/
def handed (stage : Stage) (session : Session) : List Text :=
  let ofFile (path : Path) : List Text :=
    (Evaluator.commandsOf session.host session.files path).map .plain
  match stage with
  | .exitCommand => [exitProcedure]
  | .payload => payloadScripts setup
  | .banner => [bannerScript]
  | .definition => [definitionScript]
  | .importing => [importScript]
  | .initFile => ((initFile? setup session).map ofFile).getD []
  | .command text => [text]
  | .launchFile path => ofFile path
  | .round => (heard setup session).1.toList
  | _ => []

/-- What a stage complains of: of the thread count, of the outcome of the script or
the file that it evaluates, or of the save of the history. -/
def complained (stage : Stage) (session : Session) : List Text :=
  let ofScript (text : Text) := Outcome.complaints
    ((Evaluator.evaluate text).perform session.host).1
  let ofFile (path : Path) := Outcome.complaints
    ((Evaluator.sourceFile session.files path true true).perform session.host).1
  match stage with
  | .threads => threadComplaints setup
  | .banner => ofScript bannerScript
  | .definition => ofScript definitionScript
  | .importing => ofScript importScript
  | .initFile => ((initFile? setup session).map ofFile).getD []
  | .command text => ofScript text
  | .launchFile path => ofFile path
  | .round => roundComplaints setup session
  | .save => saveComplaints setup session
  | _ => []

/-- The prompts that a stage shows. -/
def prompted : Stage → List String
  | .round => [Config.prompt setup.config]
  | _ => []

theorem wordless_enter (phase : Phase) : Moves Wordless (enter phase) := by
  intro session
  rw [perform_enter]
  split
  · exact wordless_emit (.diagnostic .shell phase.entryText) rfl session
  · exact refl_of Wordless session

theorem tells_initFile (session : Session) :
    Tells (Stage.initFile.handed setup session) (Stage.initFile.complained setup session) []
      session ((sourceInitFile setup).perform session).2 := by
  simp only [handed, complained]
  cases found : initFile? setup session with
  | none => exact wordless_sourceInitFile setup found
  | some path =>
      rw [perform_sourceInitFile setup found]
      exact tells_source path session

/-- What is said at a stage is laid down by the session that comes to it. -/
theorem tells (stage : Stage) (session : Session) :
    Tells (stage.handed setup session) (stage.complained setup session) (stage.prompted setup)
      session ((stage.act setup).perform session).2 := by
  cases stage with
  | threads => exact (tells_applyThreadHint setup).discard session
  | exitCommand => exact tells_setUp (Evaluator.hands_registerExit .session) session
  | completion => exact Wordless.of_log_eq rfl
  | arguments => exact tells_setUp (Evaluator.hands_publish setup.args.words) session
  | engineCommands => exact tells_setUp Host.hands_registerEngine session
  | entry phase => exact wordless_enter phase session
  | payload => exact tells_handsOver.runPayload setup session
  | banner => exact tells_evaluate _ session
  | definition => exact tells_evaluate _ session
  | importing => exact tells_evaluate _ session
  | initFile => exact tells_initFile setup session
  | command text => exact tells_evaluate text session
  | launchFile path => exact tells_source path session
  | history => exact wordless_takeUpHistory setup session
  | round => exact tells_round setup session
  | save => exact tells_saveHistory setup session
  | release => exact tells_onHost (Evaluator.hands_release session.host)

end Setup

end Stage

/-- A stage that a run has come to, with the session it started from. -/
structure Leg where
  stage : Stage
  before : Session

variable (setup : Setup)

namespace Leg

/-- The session that the stage has left. -/
def after (leg : Leg) : Session :=
  ((leg.stage.act setup).perform leg.before).2

/-- The events of the stage. -/
def events (leg : Leg) : List Event :=
  (leg.after setup).host.log.drop leg.before.host.log.length

theorem tells (leg : Leg) :
    (leg.after setup).host.log = leg.before.host.log ++ leg.events setup ∧
      (Event.scripts (leg.events setup)).Sublist (leg.stage.handed setup leg.before) ∧
      Event.complaints (leg.events setup) = leg.stage.complained setup leg.before ∧
      Event.prompts (leg.events setup) = leg.stage.prompted setup := by
  obtain ⟨events, log, handed, complained, prompted⟩ := leg.stage.tells setup leg.before
  have same : leg.events setup = events := by
    rw [Leg.events, after, log, List.drop_left]
  rw [same]
  exact ⟨log, handed, complained, prompted⟩

end Leg

/-- The stages that a run comes to, what it comes to and the session it leaves. -/
inductive Course : Session → List Leg → Except Failure Unit → Session → Prop
  | stay (session : Session) : Course session [] (.ok ()) session
  | pass {stage : Stage} {before between last : Session} {legs : List Leg}
      {result : Except Failure Unit}
      (passed : (stage.act setup).perform before = (.ok (), between))
      (rest : Course between legs result last) : Course before (⟨stage, before⟩ :: legs) result last
  | fail {stage : Stage} {before last : Session} {failure : Failure}
      (failed : (stage.act setup).perform before = (.error failure, last)) :
      Course before [⟨stage, before⟩] (.error failure) last

namespace Course

variable {setup} {session between last : Session} {legs more : List Leg}
  {result : Except Failure Unit}

theorem append (first : Course setup session legs (.ok ()) between)
    (second : Course setup between more result last) :
    Course setup session (legs ++ more) result last := by
  generalize succeeded : (.ok () : Except Failure Unit) = ok at first
  induction first with
  | stay session => exact second
  | pass passed rest ih => exact .pass passed (ih second succeeded)
  | fail failed => cases succeeded

/-- The events of a run are those of its stages, in order. -/
theorem log (course : Course setup session legs result last) :
    last.host.log = session.host.log ++ legs.flatMap (Leg.events setup) := by
  have leg_log (stage : Stage) (before after : Session) (answer : Except Failure Unit)
      (performed : (stage.act setup).perform before = (answer, after)) :
      after.host.log = before.host.log ++ Leg.events setup ⟨stage, before⟩ := by
    have grown := (Leg.tells setup ⟨stage, before⟩).1
    rwa [Leg.after, performed] at grown
  induction course with
  | stay session => simp
  | pass passed rest ih =>
      rw [ih, leg_log _ _ _ _ passed, List.flatMap_cons, List.append_assoc]
  | fail failed => simpa using leg_log _ _ _ _ failed

theorem split {front back : List Leg} (some_more : back ≠ [])
    (course : Course setup session (front ++ back) result last) :
    ∃ between, Course setup session front (.ok ()) between ∧
      Course setup between back result last := by
  induction front generalizing session with
  | nil => exact ⟨session, .stay session, course⟩
  | cons first rest ih =>
      generalize all : first :: rest ++ back = legs at course
      cases course with
      | stay session => cases all
      | pass passed others =>
          cases all
          obtain ⟨between, begun, later⟩ := ih others
          exact ⟨between, .pass passed begun, later⟩
      | fail failed =>
          have none_left := (List.cons.inj all).2
          exact absurd (List.append_eq_nil_iff.mp none_left).2 some_more

theorem before_eq {leg : Leg} (course : Course setup session (leg :: legs) result last) :
    leg.before = session := by
  cases course <;> rfl

theorem passed_of_ok (course : Course setup session legs result last)
    (succeeded : result = .ok ()) {leg : Leg} (member : leg ∈ legs) :
    (leg.stage.act setup).perform leg.before = (.ok (), leg.after setup) ∧
      (leg.after setup).host.log <+: last.host.log := by
  induction course with
  | stay session => cases member
  | pass passed rest ih =>
      rcases List.mem_cons.mp member with rfl | later
      · have same := congrArg Prod.snd passed
        rw [Leg.after, same]
        exact ⟨passed, _, rest.log.symm⟩
      · exact ih succeeded later
  | fail failed => cases succeeded

/-- A stage that another one follows has succeeded, and its events are on record
when the other comes. -/
theorem passed {front back : List Leg} {leg : Leg}
    (course : Course setup session (front ++ leg :: back) result last) {earlier : Leg}
    (member : earlier ∈ front) :
    (earlier.stage.act setup).perform earlier.before = (.ok (), earlier.after setup) ∧
      (earlier.after setup).host.log <+: leg.before.host.log := by
  obtain ⟨between, begun, later⟩ := course.split (List.cons_ne_nil leg back)
  rw [later.before_eq]
  exact begun.passed_of_ok rfl member

end Course

/-! ## The itinerary -/

/-- The stages in which the interpreter is set up. -/
def preparation : List Stage :=
  [.threads, .exitCommand, .completion, .arguments, .engineCommands]

/-- The stages before any script of the user. -/
def opening : List Stage :=
  preparation ++ [.entry .initialized, .entry .bootstrapping, .payload] ++
    (if setup.args.hasFlag "-no_splash" then [] else [.banner]) ++ [.definition, .importing]

/-- The command and then the file given at launch. -/
def oneShots : List Stage :=
  (setup.args.value? "-x").toList.map .command ++
    (setup.args.value? "-f").toList.map fun file => .launchFile (Path.ofString file)

/-- The stages of a session with some of its one-shots and some rounds of
conversation. -/
def itinerary (shots : List Stage) (rounds : Nat) : List Stage :=
  opening setup ++ (if setup.args.hasFlag "-no_init" then [] else [.initFile]) ++ shots ++
    [.entry .interactive, .history] ++ List.replicate rounds .round ++
    [.entry .terminating, .save, .release, .entry .done]

/-- The stages that a run has come to are the first ones of a plan, and all of them if
the run succeeds. -/
def Covers (plan : List Stage) (legs : List Leg) (result : Except Failure Unit) : Prop :=
  legs.map Leg.stage <+: plan ∧ (result = .ok () → legs.map Leg.stage = plan)

/-- A run takes a course after one of several plans. -/
def TravelsFrom (plans : List Stage → Prop) (session : Session)
    (ended : Except Failure Unit × Session) : Prop :=
  ∃ legs plan, plans plan ∧ Course setup session legs ended.1 ended.2 ∧ Covers plan legs ended.1

/-- From every session the computation takes a course after one of several plans. -/
def Travels (plans : List Stage → Prop) (act : SessionM Unit) : Prop :=
  ∀ session, TravelsFrom setup plans session (act.perform session)

section Travels

variable {setup} {plans others all : List Stage → Prop}

theorem TravelsFrom.stay {session : Session} (h : plans []) :
    TravelsFrom setup plans session (.ok (), session) :=
  ⟨[], [], h, .stay session, List.prefix_refl _, fun _ => rfl⟩

theorem TravelsFrom.pass {stage : Stage} {session between : Session}
    {ended : Except Failure Unit × Session}
    (passed : (stage.act setup).perform session = (.ok (), between))
    (rest : TravelsFrom setup plans between ended)
    (compose : ∀ plan, plans plan → all (stage :: plan)) :
    TravelsFrom setup all session ended := by
  obtain ⟨legs, plan, planned, course, partly, wholly⟩ := rest
  refine ⟨⟨stage, session⟩ :: legs, stage :: plan, compose plan planned, .pass passed course, ?_⟩
  refine ⟨?_, fun succeeded => ?_⟩
  · rw [List.map_cons]
    exact (List.prefix_cons_inj stage).mpr partly
  · rw [List.map_cons, wholly succeeded]

theorem TravelsFrom.fail {stage : Stage} {session last : Session} {failure : Failure}
    (failed : (stage.act setup).perform session = (.error failure, last)) {rest : List Stage}
    (planned : plans (stage :: rest)) :
    TravelsFrom setup plans session (.error failure, last) := by
  refine ⟨[⟨stage, session⟩], stage :: rest, planned, .fail failed, ⟨rest, rfl⟩, ?_⟩
  rintro ⟨⟩

theorem Travels.mono {act : SessionM Unit} (h : Travels setup plans act)
    (weaker : ∀ plan, plans plan → all plan) : Travels setup all act := by
  intro session
  obtain ⟨legs, plan, planned, taken⟩ := h session
  exact ⟨legs, plan, weaker plan planned, taken⟩

theorem Travels.seq {act next : SessionM Unit} (first : Travels setup plans act)
    (second : Travels setup others next) :
    Travels setup (fun plan => ∃ front back, plans front ∧ others back ∧ plan = front ++ back)
      (act >>= fun _ => next) := by
  intro session
  obtain ⟨legs, front, planned, course, partly, wholly⟩ := first session
  rw [perform_bind]
  rcases hact : act.perform session with ⟨failure | ⟨⟩, between⟩ <;> rw [hact] at course wholly
  · -- the second computation is not reached, so any of its plans will do
    obtain ⟨_, back, planned', _⟩ := second session
    refine ⟨legs, _, ⟨front, back, planned, planned', rfl⟩, course, ?_⟩
    exact ⟨partly.trans (List.prefix_append _ _), by rintro ⟨⟩⟩
  · obtain ⟨legs', back, planned', course', partly', wholly'⟩ := second between
    refine ⟨legs ++ legs', _, ⟨front, back, planned, planned', rfl⟩, course.append course', ?_⟩
    rw [Covers, List.map_append, wholly rfl]
    refine ⟨(List.prefix_append_right_inj front).mpr partly', fun succeeded => ?_⟩
    rw [wholly' succeeded]

theorem travels_none (h : plans []) : Travels setup plans (pure ()) := by
  intro session
  exact TravelsFrom.stay h

theorem travels_stage (stage : Stage) : Travels setup (· = [stage]) (stage.act setup) := by
  intro session
  rcases hact : (stage.act setup).perform session with ⟨failure | ⟨⟩, between⟩
  · exact TravelsFrom.fail hact rfl
  · have arrived : TravelsFrom setup (· = []) between (.ok (), between) := TravelsFrom.stay rfl
    exact TravelsFrom.pass hact arrived (by simp)

theorem Travels.append {act next : SessionM Unit} {plan rest : List Stage}
    (first : Travels setup (· = plan) act) (second : Travels setup (· = rest) next) :
    Travels setup (· = plan ++ rest) (act >>= fun _ => next) := by
  refine (first.seq second).mono ?_
  rintro plan ⟨_, _, rfl, rfl, rfl⟩
  rfl

theorem travels_cons (stage : Stage) {next : SessionM Unit} {plan : List Stage}
    (rest : Travels setup (· = plan) next) :
    Travels setup (· = stage :: plan) (stage.act setup >>= fun _ => next) :=
  (travels_stage stage).append rest

theorem travels_unlessTerminated {act : SessionM Unit} (h : Travels setup plans act)
    (skipped : plans []) :
    Travels setup plans (do if ← isTerminated then return else act) := by
  intro session
  rw [perform_unlessTerminated]
  split
  · exact TravelsFrom.stay skipped
  · exact h session

end Travels

theorem travels_prepare : Travels setup (· = preparation) (prepare setup) :=
  travels_cons .threads <| travels_cons .exitCommand <| travels_cons .completion <|
    travels_cons .arguments <| travels_stage .engineCommands

theorem travels_showBanner : Travels setup
    (· = if setup.args.hasFlag "-no_splash" then [] else [.banner]) (showBanner setup) := by
  rw [showBanner]
  split
  · exact travels_none rfl
  · exact travels_stage .banner

/-- Everything before the first script of the user goes by one plan. -/
theorem travels_opening : Travels setup (· = opening setup) (do
    prepare setup
    enter .initialized
    enter .bootstrapping
    startUp setup) := by
  have imported : Travels setup (· = [.definition, .importing]) importCommands :=
    travels_cons .definition <| travels_stage .importing
  have shown := (travels_showBanner setup).append imported
  have started : Travels setup (· = .payload :: _) (startUp setup) := travels_cons .payload shown
  have entered := travels_cons (.entry .initialized) (travels_cons (.entry .bootstrapping) started)
  refine ((travels_prepare setup).append entered).mono fun plan isPlan => ?_
  rw [isPlan, opening, List.append_assoc, List.append_assoc]
  rfl

theorem travels_runInitFile : Travels setup
    (· = if setup.args.hasFlag "-no_init" then [] else [.initFile]) (runInitFile setup) := by
  rw [runInitFile]
  split
  · exact travels_none rfl
  · exact travels_stage .initFile

/-- An exit leaves out what is left of the one-shots. -/
theorem travels_runOneShots : Travels setup (·.Sublist (oneShots setup)) (runOneShots setup) := by
  have nothing : [].Sublist (oneShots setup) := List.nil_sublist _
  have file : Travels setup (·.Sublist ((setup.args.value? "-f").toList.map fun file =>
      .launchFile (Path.ofString file))) (sourceLaunchFile setup) := by
    rw [sourceLaunchFile]
    cases setup.args.value? "-f" with
    | none => exact travels_none (List.Sublist.refl _)
    | some file =>
        refine (travels_stage (.launchFile (Path.ofString file))).mono ?_
        rintro plan rfl
        exact List.Sublist.refl _
  rw [runOneShots_eq]
  refine travels_unlessTerminated ?_ nothing
  rw [oneShots]
  cases setup.args.value? "-x" with
  | none => exact file
  | some command =>
      have later := travels_unlessTerminated file (List.nil_sublist _)
      refine ((travels_stage (.command command)).seq later).mono ?_
      rintro plan ⟨_, back, rfl, isBack, rfl⟩
      exact (List.Sublist.refl [Stage.command command]).append isBack

/-- The legs of a run that are rounds of the conversation. -/
def roundLegs (rounds : List Session) : List Leg :=
  rounds.map (Leg.mk .round)

section Rounds

variable {setup} {session last : Session} {result : Except Failure Unit}

theorem Passes.course {rounds : List Session} (passes : Passes setup session rounds last) :
    Course setup session (roundLegs rounds) (.ok ()) last := by
  induction passes with
  | stay session => exact .stay session
  | pass running asked passed rest ih => exact .pass passed ih

/-- A conversation ends with a round, unless the session has ended before. -/
theorem Ends.exists_course (ends : Ends setup session result last) :
    ∃ rounds, Course setup session (roundLegs rounds) result last := by
  cases ends with
  | halt ended => exact ⟨[], .stay session⟩
  | leave running asked =>
      exact ⟨[session], .pass (perform_round_of_ended setup asked) (.stay _)⟩
  | fail running failed => exact ⟨[session], .fail failed⟩

end Rounds

/-- However the conversation goes, it is made of rounds. -/
theorem travelsFrom_converse {readings : List Reading} {session : Session}
    (coming : session.editor.readings = readings) :
    TravelsFrom setup (fun plan => ∃ rounds, plan = List.replicate rounds .round) session
      ((converse setup (Config.prompt setup.config) readings).perform session) := by
  obtain ⟨rounds, last, passes, ends⟩ := exists_passes_of_converse setup coming
  obtain ⟨more, course⟩ := ends.exists_course
  refine ⟨_, _, ⟨(rounds ++ more).length, rfl⟩, passes.course.append course, ?_⟩
  have stages : (roundLegs rounds ++ roundLegs more).map Leg.stage =
      List.replicate (rounds ++ more).length .round := by
    simp [roundLegs, Function.comp_def, List.map_const']
  exact ⟨stages ▸ List.prefix_refl _, fun _ => stages⟩

theorem travels_interact : Travels setup
    (fun plan => ∃ rounds, plan =
      [.entry .interactive, .history] ++ List.replicate rounds .round) (interact setup) := by
  have talk : Travels setup (fun plan => ∃ rounds, plan = List.replicate rounds .round)
      (do converse setup (Config.prompt setup.config) (← get).editor.readings) :=
    fun session => travelsFrom_converse setup rfl
  have takenUp : Travels setup (fun plan => ∃ rounds, plan =
      .history :: List.replicate rounds .round) (do
        takeUpHistory setup
        converse setup (Config.prompt setup.config) (← get).editor.readings) := by
    refine ((travels_stage .history).seq talk).mono ?_
    rintro plan ⟨_, _, rfl, ⟨rounds, rfl⟩, rfl⟩
    exact ⟨rounds, rfl⟩
  rw [interact_eq]
  refine ((travels_stage (.entry .interactive)).seq takenUp).mono ?_
  rintro plan ⟨_, _, rfl, ⟨rounds, rfl⟩, rfl⟩
  exact ⟨rounds, rfl⟩

theorem travels_shutdown : Travels setup
    (· = [.entry .terminating, .save, .release, .entry .done]) (shutdown setup) :=
  travels_cons (.entry .terminating) <| travels_cons .save <| travels_cons .release <|
    travels_stage (.entry .done)

theorem perform_run_of_created {session : Session} (created : session.phase = .created) :
    (run setup).perform session = (do
      (do prepare setup; enter .initialized; enter .bootstrapping; startUp setup)
      runInitFile setup
      runOneShots setup
      interact setup
      shutdown setup : SessionM Unit).perform session := by
  have started := perform_start_of_created setup created
  have all : run setup = (do
      start setup
      enter .bootstrapping
      startUp setup
      runInitFile setup
      runOneShots setup
      interact setup
      shutdown setup) := by
    simp only [run, bootstrap_eq, bind_assoc]
  rw [all, perform_bind, started, ← perform_bind]
  simp only [bind_assoc]

/-- A session that has not begun goes by an itinerary, whatever cuts it short. -/
theorem travels_run {session : Session} (created : session.phase = .created) :
    ∃ legs shots rounds, shots.Sublist (oneShots setup) ∧
      Course setup session legs ((run setup).perform session).1
        ((run setup).perform session).2 ∧
      Covers (itinerary setup shots rounds) legs ((run setup).perform session).1 := by
  have closed := (travels_interact setup).seq (travels_shutdown setup)
  have shot := (travels_runOneShots setup).seq closed
  have opened := (travels_opening setup).seq ((travels_runInitFile setup).seq shot)
  rw [perform_run_of_created setup created]
  obtain ⟨legs, plan, planned, course, covers⟩ := opened session
  obtain ⟨_, _, rfl, ⟨_, _, rfl, ⟨shots, _, areShots, rest, rfl⟩, rfl⟩, rfl⟩ := planned
  obtain ⟨_, _, ⟨rounds, rfl⟩, rfl, rfl⟩ := rest
  refine ⟨legs, shots, rounds, areShots, course, ?_⟩
  simpa only [itinerary, List.append_assoc] using covers

end CommandShell.Session
