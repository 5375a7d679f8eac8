/-
# The host of evaluations

The part of a session that an evaluation can touch: the interpreter, the flags
that an exit sets, the engine and the record of events.  Nothing else is in
reach of a script, so files, phases and the user's lines keep through every
evaluation by their place outside this state.
-/

import CommandShell.Act
import CommandShell.Interpreter

namespace CommandShell

structure Host where
  /-- The interpreter, until it is released. -/
  interpreter : Option Interpreter
  /-- The names registered through the host, in order and with repetitions. -/
  registered : List String := []
  /-- An exit was run since the flag was last cleared. -/
  exiting : Bool := false
  /-- An exit has ended the session. -/
  terminated : Bool := false
  engine : Engine
  /-- What has happened, oldest first. -/
  log : List Event := []

/-- A computation on the host. -/
abbrev HostM (α : Type) := Act Host α

namespace Host

/-- A host that has just been made. -/
def fresh (table : ScriptTable) (engine : Engine) : Host :=
  { interpreter := some { table }, engine }

/-- Records an event. -/
def emit (event : Event) : HostM Unit :=
  modify fun host => { host with log := host.log ++ [event] }

@[simp] theorem perform_emit (event : Event) (host : Host) :
    (emit event).perform host = (.ok (), { host with log := host.log ++ [event] }) := rfl

/-- The interpreter, or a failure once it is released. -/
def interpreterNow : HostM Interpreter := do
  match (← get).interpreter with
  | some interpreter => return interpreter
  | none => throw .finalized

theorem perform_interpreterNow {host : Host} {interpreter : Interpreter}
    (h : host.interpreter = some interpreter) :
    interpreterNow.perform host = (.ok interpreter, host) := by
  simp [interpreterNow, h]

/-- Once the interpreter is released, asking for it fails and changes nothing. -/
theorem perform_interpreterNow_of_released {host : Host} (h : host.interpreter = none) :
    interpreterNow.perform host = (.error .finalized, host) := by
  simp [interpreterNow, h]

/-- Changes the interpreter. -/
def changeInterpreter (change : Interpreter → Interpreter) : HostM Unit :=
  modify fun host => { host with interpreter := host.interpreter.map change }

/-- Sets the error code. -/
def setErrorCode (code : Text) : HostM Unit :=
  changeInterpreter fun interpreter => { interpreter with errorCode := code }

/-- Refuses an unknown command. -/
def refuseCommand (name : Text) : HostM Text := do
  setErrorCode ("TCL LOOKUP COMMAND " ++ name)
  throw (.script ("invalid command name \"" ++ name ++ "\""))

/-- Notes an exit and tells its listener. -/
def hearExit (listener : ExitListener) : HostM Unit := do
  emit .exitRun
  modify fun host => { host with exiting := true }
  match listener with
  | .session => modify fun host => { host with terminated := true }
  | .observer => emit .exitHeard

/-- Runs a command on its arguments. -/
def run (command : Command) (arguments : List Text) : HostM Text := do
  match command with
  | .recorder answer =>
    emit (.called arguments)
    return answer.getD ""
  | .exitCallback listener =>
    if !arguments.isEmpty then throw (.unexpectedArguments command.handlerName arguments.length)
    hearExit listener
    return ""
  | .engine query =>
    if !arguments.isEmpty then throw (.unexpectedArguments command.handlerName arguments.length)
    (← get).engine.answer query

/-- Calls a command by name. -/
def call (name : String) (arguments : List Text) : HostM Text := do
  match (← interpreterNow).command? name with
  | some command => run command arguments
  | none => refuseCommand name

/-- Runs steps.  The answer is the last result. -/
def runSteps : (result : Text) → List Step → HostM Text
  | result, [] => return result
  | result, step :: rest => do
    match step with
    | .result text => runSteps text rest
    | .error message code =>
      setErrorCode code
      throw (.script message)
    | .exit =>
      discard (call exitCallbackName [])
      setErrorCode exitErrorCode
      throw (.script "")
    | .catchExit =>
      discard (call exitCallbackName [])
      setErrorCode exitErrorCode
      runSteps "1" rest
    | .call name arguments =>
      let answer ← call name arguments
      runSteps answer rest
    | .remove name =>
      changeInterpreter (·.remove name)
      runSteps result rest
    | .print text =>
      emit (.printed text)
      runSteps "" rest
    | .raise failure => throw failure

/-- The first word of a script: what stands before its first space. -/
def firstWord (script : Text) : Text :=
  script.takeWhile (· != ' ')

/-- Evaluates a script.  The two queries of the host itself leave no trace. -/
def evaluate (script : Text) : HostM Text := do
  let interpreter ← interpreterNow
  if script = errorCodeQuery then
    if interpreter.table.hidesErrorCode then
      throw (.script "can't read \"::errorCode\": no such variable")
    else return interpreter.errorCode
  else if script = releaseQuery then return languageRelease
  else
    emit (.script script)
    match interpreter.table.scripts.lookup script with
    | some steps => runSteps "" steps
    | none =>
      if interpreter.table.acceptsUnknown || "proc ".toList.isPrefixOf script.front.toList then
        return ""
      else refuseCommand (firstWord script)

/-- Sets a global variable. -/
def setVariable (name : String) (value : Setting) : HostM Unit := do
  discard interpreterNow
  emit (.setVariable name value)

/-- Registers a command. -/
def register (name : String) (command : Command) : HostM Unit := do
  discard interpreterNow
  emit (.createCommand name)
  changeInterpreter (·.define name command)
  modify fun host => { host with registered := host.registered ++ [name] }

/-- Removes a registered command.  One that is gone already is passed over. -/
def unregister (name : String) : HostM Unit := do
  emit (.deleteCommand name)
  match (← interpreterNow).command? name with
  | some _ => changeInterpreter (·.remove name)
  | none => emit (.diagnostic .evaluator ("command " ++ name ++ " already deleted"))

/-- Registers the commands of the engine. -/
def registerEngine : HostM Unit :=
  Engine.queries.forM fun query => register query.name (.engine query)

end Host

end CommandShell
