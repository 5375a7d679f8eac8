/-
# The parts of a session

The longer computations of a session are sequences of named parts.  Each equation
here says which, so that a statement about a whole session is put together from
statements about its parts.
-/

import CommandShell.Proofs.Editor
import CommandShell.Proofs.Moves
import CommandShell.Session

namespace CommandShell.Session

open Act

variable (setup : Setup)

/-- What is set up before the first phase is entered. -/
def prepare : SessionM Unit := do
  discard (applyThreadHint setup)
  onHost (Evaluator.registerExit .session)
  modify fun session => { session with editor := session.editor.setHook Completion.builtin }
  onHost (Evaluator.publish setup.args.words)
  onHost Host.registerEngine

theorem perform_start_of_created {session : Session} (h : session.phase = .created) :
    (start setup).perform session =
      (prepare setup >>= fun _ => enter .initialized).perform session := by
  have parts : (prepare setup >>= fun _ => enter .initialized) = (do
      discard (applyThreadHint setup)
      onHost (Evaluator.registerExit .session)
      modify fun session => { session with editor := session.editor.setHook Completion.builtin }
      onHost (Evaluator.publish setup.args.words)
      onHost Host.registerEngine
      enter .initialized) := by
    simp only [prepare, bind_assoc]
  rw [parts, start, perform_bind_of_ok (perform_get session)]
  simp only [h, ne_eq, not_true_eq_false, if_false]

theorem perform_start_of_not_created {session : Session} (h : session.phase ≠ .created) :
    (start setup).perform session =
      (.error (.outOfOrder .initialized session.phase), session) := by
  rw [start, perform_bind_of_ok (perform_get session)]
  simp [h]

/-- The banner is shown, unless the launch forbids it. -/
def showBanner : SessionM Unit :=
  if setup.args.hasFlag "-no_splash" then return else evaluate "sta::show_splash"

/-- The commands are defined and imported. -/
def importCommands : SessionM Unit := do
  evaluate "sta::define_sta_cmds"
  evaluate "namespace import sta::*"

/-- The init file is evaluated, unless the launch forbids it. -/
def runInitFile : SessionM Unit :=
  if setup.args.hasFlag "-no_init" then return else sourceInitFile setup

/-- The start-up script and what belongs to it, before any script of the user. -/
def startUp : SessionM Unit := do
  runPayload setup
  showBanner setup
  importCommands

theorem bootstrap_eq :
    bootstrap setup = (do
      enter .bootstrapping
      startUp setup
      runInitFile setup) := by
  simp only [bootstrap, startUp, showBanner, importCommands, runInitFile, bind_assoc]
  cases setup.args.hasFlag "-no_splash" <;> cases setup.args.hasFlag "-no_init" <;> simp

/-- The file given at launch is evaluated, if there is one. -/
def sourceLaunchFile : SessionM Unit :=
  match setup.args.value? "-f" with
  | some file => source (Path.ofString file)
  | none => return

/-- The two one-shots, with a look at the end of the session before each. -/
theorem runOneShots_eq :
    runOneShots setup = (do
      if ← isTerminated then return
      else match setup.args.value? "-x" with
        | none => sourceLaunchFile setup
        | some command =>
          evaluate command
          if ← isTerminated then return else sourceLaunchFile setup) := by
  rw [runOneShots, sourceLaunchFile]
  cases setup.args.value? "-x" <;> cases setup.args.value? "-f" <;> rfl

/-- The entries of the history file are taken up. -/
def takeUpHistory : SessionM Unit := do
  let (entries, events) := History.load (← get).files (Config.historyPath setup.config)
  emitAll events
  (← entries).forM fun entry => addEntry entry

theorem interact_eq :
    interact setup = (do
      enter .interactive
      takeUpHistory setup
      converse setup (Config.prompt setup.config) (← get).editor.readings) := by
  simp only [interact, takeUpHistory, bind_assoc]

/-- How a save has ended: a fault of the file system is reported, anything else raised. -/
def settleSave : Except Failure Unit → SessionM Unit
  | .ok () => return
  | .error failure@(.file (.system _ _)) =>
    emit (.errorLine ("Warning: could not save command history: " ++ failure.message))
  | .error failure => throw failure

theorem saveHistory_eq :
    saveHistory setup = (do
      let session ← get
      let save :=
        History.save session.files (Config.historyPath setup.config) session.editor.entries
      emitAll save.2.1
      modify fun session => { session with files := save.2.2 }
      settleSave save.1) :=
  rfl

/-- A line is evaluated, and a failure that the conversation survives is reported. -/
def attempt (line : Text) : SessionM Unit :=
  tryCatch (evaluate line) fun failure =>
    if failure.isOrdinary then reportCrash setup failure line else throw failure

theorem answerLine_eq (line : Text) :
    answerLine setup line = (do
      attempt setup line
      unless line = "" do addEntry line) :=
  rfl

/-- What a round of the conversation makes of the answer to its request. -/
def respond (prompt : String) (later : List Reading) : Answer → SessionM Unit
  | .ended => return
  | .interrupted _ => converse setup prompt later
  | .failed failure => throw failure
  | .line text => do
    answerLine setup text
    converse setup prompt later

theorem converse_nil (prompt : String) :
    converse setup prompt [] = (do
      if ← isTerminated then return else discard (readLine prompt)) :=
  rfl

theorem converse_cons (prompt : String) (reading : Reading) (later : List Reading) :
    converse setup prompt (reading :: later) = (do
      if ← isTerminated then return else
        readLine prompt >>= respond setup prompt later) := by
  rw [converse]
  rfl

theorem perform_unlessTerminated (act : SessionM Unit) (session : Session) :
    (do if ← isTerminated then return else act : SessionM Unit).perform session =
      if session.host.terminated then (.ok (), session) else act.perform session := by
  rw [isTerminated, bind_assoc, perform_bind_of_ok (perform_get session), pure_bind]
  split <;> rfl

theorem perform_converse_of_terminated (prompt : String) (readings : List Reading)
    {session : Session} (ended : session.host.terminated = true) :
    (converse setup prompt readings).perform session = (.ok (), session) := by
  cases readings with
  | nil => rw [converse_nil, perform_unlessTerminated, if_pos ended]
  | cons reading later => rw [converse_cons, perform_unlessTerminated, if_pos ended]

end CommandShell.Session
