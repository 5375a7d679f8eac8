/-
# Evaluation

Scripts are evaluated for an outcome: failing is an answer, not a failure of the
shell.  An error that carries the exit code is not an error at all but the end
of a script that ran the exit command, so its outcome is an empty success.

A file is evaluated command by command and stops at the first command that fails
or exits.  Echoing commands and showing results only adds lines of output.
-/

import CommandShell.Host
import CommandShell.Script.Segment
import CommandShell.TextFile

namespace CommandShell

/-- What an evaluation comes to: a result, or the text of an error. -/
inductive Outcome
  | success (text : Text)
  | failure (text : Text)
  deriving DecidableEq, Repr

namespace Outcome

/-- The result or the text of the error. -/
def text : Outcome → Text
  | .success text => text
  | .failure text => text

/-- The evaluation succeeded. -/
def isSuccess : Outcome → Bool
  | .success _ => true
  | .failure _ => false

/-- What is to be reported of an outcome: the text of an error, unless it is
empty. -/
def report? : Outcome → Option Text
  | .success _ => none
  | .failure text => if text = "" then none else some text

end Outcome

namespace Evaluator

/-- Clears or sets the note that an exit was run. -/
def setExiting (exiting : Bool) : HostM Unit :=
  modify fun host => { host with exiting := exiting }

theorem perform_setExiting (exiting : Bool) (host : Host) :
    (setExiting exiting).perform host = (.ok (), { host with exiting }) := rfl

/-- The error code; one that cannot be read counts as none. -/
def errorCode : HostM Text :=
  tryCatch (Host.evaluate errorCodeQuery) fun
    | .script _ => return ""
    | failure => throw failure

/-- What an error of the command language comes to. -/
def judge (message : Text) : HostM Outcome := do
  if (← errorCode) = exitErrorCode then return .success "" else return .failure message

/-- Evaluates one command.  Only errors of the command language become
outcomes. -/
def evaluateCommand (script : Text) : HostM Outcome :=
  tryCatch (Outcome.success <$> Host.evaluate script) fun
    | .script message => judge message
    | failure => throw failure

/-- Evaluates a script on its own. -/
def evaluate (script : Text) : HostM Outcome := do
  setExiting false
  evaluateCommand script

/-- Asks whether a text is a complete command. -/
def isComplete (text : String) : HostM Bool := do
  return (← Host.interpreterNow).table.complete.holds text.toList

/-- The commands of a script.  The interpreter is asked about every line, so a
script with any line needs one. -/
def commandsIn (script : String) : HostM (List String) := do
  if (Text.lines script.toList).isEmpty then return []
  else return Script.commands (← Host.interpreterNow).table.complete script

/-- The commands of a script are those of the interpreter that is held. -/
theorem perform_commandsIn {host : Host} {interpreter : Interpreter}
    (held : host.interpreter = some interpreter) (script : String) :
    (commandsIn script).perform host =
      (.ok (Script.commands interpreter.table.complete script), host) := by
  rw [commandsIn]
  split
  next blank =>
    have none : Text.lines script.toList = [] := List.isEmpty_iff.mp blank
    simp [Script.commands, Script.segment, Script.segmentFrom, none]
  next => simp [Host.perform_interpreterNow held]

/-- Without an interpreter only a text without lines has its commands, none. -/
theorem perform_commandsIn_of_released {host : Host} (released : host.interpreter = none)
    (script : String) :
    (commandsIn script).perform host =
      (if (Text.lines script.toList).isEmpty then .ok [] else .error .finalized, host) := by
  rw [commandsIn]
  split
  · rfl
  · simp [Host.perform_interpreterNow_of_released released]

/-- Evaluates commands until one fails or exits.  `last` is the outcome so
far. -/
def runCommands (echo verbose : Bool) : (last : Outcome) → List String → HostM Outcome
  | last, [] => return last
  | last, command :: rest => do
    if Script.isIdle command then runCommands echo verbose last rest
    else
      if echo then Host.emit (.output command)
      let outcome ← evaluateCommand command
      if !outcome.isSuccess then return outcome
      else if (← get).exiting then return .success ""
      else
        if verbose && outcome.text != "" then Host.emit (.output outcome.text)
        runCommands echo verbose outcome rest

/-- The outcome for a file that cannot be read. -/
def unreadable (path : Path) (error : SystemError) : Outcome :=
  .failure ("couldn't read file \"" ++ path.text ++ "\": " ++ error.reason.toLower)

/-- Evaluates a file. -/
def sourceFile (files : FileTree) (path : Path) (echo verbose : Bool) : HostM Outcome := do
  match TextFile.read files path with
  | .ok script =>
    setExiting false
    runCommands echo verbose (.success "") (← commandsIn script)
  | .error (.file (.system error _)) => return unreadable path error
  | .error failure => throw failure

/-- Binds the exit command. -/
def registerExit (listener : ExitListener) : HostM Unit := do
  Host.register exitCallbackName (.exitCallback listener)
  discard (Host.evaluate exitProcedure)

/-- Publishes the argument list in global variables. -/
def publish (words : List String) : HostM Unit := do
  Host.setVariable "argv0" (.text (words.headD ""))
  Host.setVariable "argv" (.list (words.drop 1))
  Host.setVariable "argc" (.number (words.drop 1).length)
  Host.setVariable "tcl_interactive" (.number 0)
  let release ← Host.evaluate releaseQuery
  Host.emit (.diagnostic .evaluator ("Tcl " ++ release ++ " initialized"))

/-- Removes every command registered through the host and releases the
interpreter.  Once released, there is nothing to do. -/
def release : HostM Unit := do
  match (← get).interpreter with
  | none => return
  | some _ =>
    (← get).registered.forM Host.unregister
    modify fun host => { host with registered := [], interpreter := none }

end Evaluator

end CommandShell
