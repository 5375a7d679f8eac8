/-
# Sessions

A session sets up its interpreter, runs the start-up script and the user's init
file, then the commands given at launch, then converses with the user, and at
last saves the history and releases the interpreter.  Each part belongs to a
phase and can be entered only from the phase before it.

The session interprets nothing itself: whatever the user types goes to the
interpreter.  The only thing that an evaluation tells the session is that an
exit was run, and from then on no further script and no further line is asked
for.
-/

import CommandShell.CrashLog
import CommandShell.Editor
import CommandShell.Evaluator
import CommandShell.LaunchArgs.Threads

namespace CommandShell

/-- What a session is given and never changes. -/
structure Setup where
  args : LaunchArgs
  config : Config.Mapping
  payload : List String
  environment : Environment
  /-- The number of processors that the host reports, if it is known. -/
  processors : Option Int
  stamp : CrashLog.Stamp := {}

/-- What changes while a session runs. -/
structure Session where
  host : Host
  editor : Editor
  files : FileTree
  phase : Phase := .created

/-- A computation on a session. -/
abbrev SessionM (α : Type) := Act Session α

namespace Session

/-- A session that has not begun. -/
def fresh (table : ScriptTable) (engine : Engine) (editor : Editor) (files : FileTree) : Session :=
  { host := .fresh table engine, editor, files }

/-- Runs a computation on the host. -/
def onHost {α : Type} (act : HostM α) : SessionM α :=
  Act.zoom (·.host) (fun host session => { session with host }) act

/-- Runs a computation on the files. -/
def onFiles {α : Type} (act : Act FileTree α) : SessionM α :=
  Act.zoom (·.files) (fun files session => { session with files }) act

/-- Records events. -/
def emitAll (events : List Event) : SessionM Unit :=
  modify fun session => { session with host.log := session.host.log ++ events }

/-- Records an event. -/
def emit (event : Event) : SessionM Unit :=
  emitAll [event]

/-- An exit has ended the session. -/
def isTerminated : SessionM Bool :=
  return (← get).host.terminated

/-- Enters the next phase. -/
def enter (target : Phase) : SessionM Unit := do
  let current := (← get).phase
  if !current.precedes target then throw (.outOfOrder target current)
  emit (.diagnostic .shell ("shell " ++ current.label ++ " -> " ++ target.label))
  modify fun session => { session with phase := target }

/-- A phase that is not next cannot be entered, and the attempt changes nothing. -/
theorem perform_enter_of_not_precedes {target : Phase} {session : Session}
    (h : session.phase.precedes target = false) :
    (enter target).perform session = (.error (.outOfOrder target session.phase), session) := by
  simp [enter, h]

/-- Reports an outcome on the error channel if there is anything to report. -/
def report (outcome : Outcome) : SessionM Unit :=
  match outcome.report? with
  | some text => emit (.errorLine text)
  | none => return

/-- Evaluates a script and reports its outcome. -/
def evaluate (script : Text) : SessionM Unit := do
  report (← onHost (Evaluator.evaluate script))

/-- Evaluates a file, showing commands and results, and reports its outcome. -/
def source (path : Path) : SessionM Unit := do
  report (← onHost (Evaluator.sourceFile (← get).files path true true))

/-- Adds a line to the editor's entries. -/
def addEntry (line : Text) : SessionM Unit := do
  let (editor, events) := (← get).editor.addEntry line
  emitAll events
  modify fun session => { session with editor }

variable (setup : Setup)

/-- Hands the thread count of the launch to the engine.  A bad one is only
warned of. -/
def applyThreadHint : SessionM (Option Int) := do
  match setup.args.threadCount setup.processors with
  | .ok none => return none
  | .ok (some count) =>
    let (engine, events) := (← get).host.engine.setThreads count
    emitAll events
    modify fun session => { session with host.engine := engine }
    return some count
  | .error (.threadCount _) =>
    emit (.errorLine threadsWarning)
    return none
  | .error failure => throw failure

/-- Sets up the interpreter. -/
def start : SessionM Unit := do
  let current := (← get).phase
  if current ≠ .created then throw (.outOfOrder .initialized current)
  discard (applyThreadHint setup)
  onHost (Evaluator.registerExit .session)
  modify fun session => { session with editor := session.editor.setHook Completion.builtin }
  onHost (Evaluator.publish setup.args.words)
  onHost Host.registerEngine
  enter .initialized

/-- Evaluates the user's init file, if there is one. -/
def sourceInitFile : SessionM Unit := do
  let path ← Config.initPath setup.config setup.environment
  if ← TextFile.refuse ((← get).files.isFile path) then source path
  else emit (.diagnostic .shell ("no init file at " ++ path.text))

/-- The script that asks for the trace of the last error. -/
def errorTraceQuery : String := "set ::errorInfo"

/-- Evaluates the start-up script.  Its failure is final; it is explained by the
trace of the error, or by the error itself if there is no trace. -/
def runPayload : SessionM Unit := do
  match Payload.decode setup.payload with
  | .error defect => throw (.bootstrap defect.message)
  | .ok script =>
    match ← onHost (Evaluator.evaluate script) with
    | .success _ => return
    | .failure text =>
      match ← onHost (Evaluator.evaluate errorTraceQuery) with
      | .success trace => throw (.bootstrap (if trace = "" then text else trace))
      | .failure _ => throw (.bootstrap text)

/-- Runs the start-up script, shows the banner, imports the commands and
evaluates the init file. -/
def bootstrap : SessionM Unit := do
  enter .bootstrapping
  runPayload setup
  unless setup.args.hasFlag "-no_splash" do evaluate "sta::show_splash"
  evaluate "sta::define_sta_cmds"
  evaluate "namespace import sta::*"
  unless setup.args.hasFlag "-no_init" do sourceInitFile setup

/-- Evaluates the command and then the file given at launch.  An exit stops what
is left. -/
def runOneShots : SessionM Unit := do
  if ← isTerminated then return
  if let some command := setup.args.value? "-x" then
    evaluate command
    if ← isTerminated then return
  if let some file := setup.args.value? "-f" then source (Path.ofString file)

/-- Records a failure that the conversation survives, and reports it. -/
def reportCrash (failure : Failure) (line : Text) : SessionM Unit := do
  let written ← onFiles (CrashLog.write setup.environment setup.stamp failure line)
  unless written do emit (.diagnostic .shell "could not write crash log")
  emit (.errorLine ("[ERROR] Unhandled exception: " ++ failure.kind ++ ": " ++ failure.message))

/-- Evaluates a line that was read.  The line is kept in the history whatever
its evaluation comes to. -/
def answerLine (line : Text) : SessionM Unit := do
  tryCatch (evaluate line) fun failure =>
    if failure.isOrdinary then reportCrash setup failure line else throw failure
  unless line = "" do addEntry line

/-- Asks the editor for a line. -/
def readLine (prompt : String) : SessionM Answer := do
  let (answer, events, editor) := (← get).editor.readLine prompt
  emitAll events
  modify fun session => { session with editor }
  return answer

/-- Reads and evaluates lines until the input ends or an exit is run.  The list
holds the readings still to come, one for each round. -/
def converse (prompt : String) : List Reading → SessionM Unit
  | [] => do
    unless ← isTerminated do discard (readLine prompt)
  | _ :: later => do
    if ← isTerminated then return
    match ← readLine prompt with
    | .ended => return
    | .interrupted _ => converse prompt later
    | .failed failure => throw failure
    | .line text =>
      answerLine setup text
      converse prompt later

/-- Takes up the history and converses with the user. -/
def interact : SessionM Unit := do
  enter .interactive
  let (entries, events) := History.load (← get).files (Config.historyPath setup.config)
  emitAll events
  (← entries).forM fun entry => addEntry entry
  converse setup (Config.prompt setup.config) (← get).editor.readings

/-- Saves the history.  A fault of the file system is only warned of. -/
def saveHistory : SessionM Unit := do
  let session ← get
  let (saved, events, files) :=
    History.save session.files (Config.historyPath setup.config) session.editor.entries
  emitAll events
  modify fun session => { session with files }
  match saved with
  | .ok () => return
  | .error failure@(.file (.system _ _)) =>
    emit (.errorLine ("Warning: could not save command history: " ++ failure.message))
  | .error failure => throw failure

/-- Saves the history and releases the interpreter. -/
def shutdown : SessionM Unit := do
  enter .terminating
  saveHistory setup
  onHost Evaluator.release
  enter .done

/-- Runs a whole session. -/
def run : SessionM Unit := do
  start setup
  bootstrap setup
  runOneShots setup
  interact setup
  shutdown setup

end Session

end CommandShell
