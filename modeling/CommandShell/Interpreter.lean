/-
# The interpreter

The command language itself is not modelled.  An interpreter is a table that
says of each script what its evaluation does: a list of steps, each of which
gives a result, fails, prints, or calls a registered command.  A script that is
not in the table is either accepted with an empty result or refused as an
unknown command, as the table says.  The language also decides which texts are
complete commands; nothing is known of that but that the empty text is one.

Scripts name the commands that they call and remove; a command cannot be renamed.

What a command does when it is called is data too (`Command`), so that an
interpreter can be compared, copied and reasoned about.
-/

import CommandShell.Engine
import CommandShell.Script.Segment

namespace CommandShell

/-- What evaluating a script does, one step after another. -/
inductive Step
  /-- The result becomes this text. -/
  | result (text : Text)
  /-- The evaluation fails with a message and an error code. -/
  | error (message code : Text)
  /-- The exit command is run. -/
  | exit
  /-- The exit command is run and its error caught. -/
  | catchExit
  /-- A registered command is called; its answer becomes the result. -/
  | call (name : String) (arguments : List Text)
  /-- A registered command is removed. -/
  | remove (name : String)
  /-- A line is printed. -/
  | print (text : Text)
  /-- A failure comes from outside the command language, or is raised without
  an error code. -/
  | raise (failure : Failure)
  deriving DecidableEq, Repr

/-- What is known of the command language. -/
structure ScriptTable where
  scripts : List (Text × List Step) := []
  /-- A script that is not in the table is accepted. -/
  acceptsUnknown : Bool := true
  /-- The error code cannot be read. -/
  hidesErrorCode : Bool := false
  /-- Which texts are complete commands. -/
  complete : Script.Completeness := .braces

/-- Who hears of an exit. -/
inductive ExitListener
  /-- The session, which then ends. -/
  | session
  /-- A listener that only notes the event. -/
  | observer
  deriving DecidableEq, Repr

/-- The commands that can be registered. -/
inductive Command
  /-- Called by the exit procedure. -/
  | exitCallback (listener : ExitListener)
  /-- Notes its arguments and answers with a fixed text, or with nothing. -/
  | recorder (answer : Option Text)
  /-- Asks the engine. -/
  | engine (query : Engine.Query)
  deriving DecidableEq, Repr

/-- How reports name the handler of a command. -/
def Command.handlerName : Command → String
  | .exitCallback _ => "TclEvaluator.register_exit.<locals>._exit"
  | .recorder _ => "recorder"
  | .engine _ => "StaEngine.register_commands.<locals>.<lambda>"

structure Interpreter where
  table : ScriptTable
  commands : List (String × Command) := []
  errorCode : Text := "NONE"

namespace Interpreter

/-- The interpreter with a command registered under a name, in place of any
other of that name. -/
def define (interpreter : Interpreter) (name : String) (command : Command) : Interpreter :=
  { interpreter with
    commands := (name, command) :: interpreter.commands.filter fun entry => entry.1 != name }

/-- The interpreter without a command. -/
def remove (interpreter : Interpreter) (name : String) : Interpreter :=
  { interpreter with commands := interpreter.commands.filter fun entry => entry.1 != name }

/-- The command registered under a name. -/
def command? (interpreter : Interpreter) (name : String) : Option Command :=
  interpreter.commands.lookup name

@[simp] theorem command?_define_self (interpreter : Interpreter) (name : String)
    (command : Command) : (interpreter.define name command).command? name = some command := by
  simp [define, command?]

/-- Registering a command is not seen under another name. -/
theorem command?_define_of_ne (interpreter : Interpreter) {name other : String}
    (command : Command) (h : other ≠ name) :
    (interpreter.define name command).command? other = interpreter.command? other := by
  have hne : (other == name) = false := beq_eq_false_iff_ne.mpr h
  simp only [define, command?, List.lookup_cons, hne]
  induction interpreter.commands with
  | nil => rfl
  | cons entry rest ih =>
    obtain ⟨key, bound⟩ := entry
    by_cases he : key = name
    · have hkey : (other == key) = false := he ▸ hne
      rw [List.filter_cons_of_neg (by simp [he]), ih, List.lookup_cons, hkey]
    · rw [List.filter_cons_of_pos (by simpa using he), List.lookup_cons, List.lookup_cons, ih]

end Interpreter

/-- The command that the exit procedure calls. -/
def exitCallbackName : String := "::stashell::exit_callback"

/-- The error code of the error that unwinds a script after an exit. -/
def exitErrorCode : String := "STASHELL EXIT"

/-- The script that defines the exit command: it calls back and then fails, which
unwinds whatever called it. -/
def exitProcedure : String :=
  "proc ::exit \x7bargs\x7d \x7b\n    " ++ exitCallbackName ++
    "\n    return -code error -errorcode \x7b" ++ exitErrorCode ++ "\x7d \x7b\x7d\n\x7d"

/-- The script that asks for the error code. -/
def errorCodeQuery : String := "set ::errorCode"

/-- The script that asks for the release of the language. -/
def releaseQuery : String := "info patchlevel"

/-- The release of the language. -/
def languageRelease : String := "8.6.13"

end CommandShell
