/-
# Events

What a session does that can be seen from outside, in the order of occurrence:
the requests made of the interpreter, the texts shown to the user, the lines
asked for.  Diagnostic lines are events too, so that a log can be written from
the same record, and so is the run of an exit, so that one can say what happens
after it.
-/

import CommandShell.Text

namespace CommandShell

/-- The part of the shell that a diagnostic line comes from. -/
inductive Topic
  | cli
  | engine
  | evaluator
  | history
  | shell
  | ui
  deriving DecidableEq, Repr

/-- The name of a topic. -/
def Topic.name : Topic → String
  | .cli => "cli"
  | .engine => "engine"
  | .evaluator => "evaluator"
  | .history => "history"
  | .shell => "shell"
  | .ui => "ui"

/-- The value that a global variable is set to. -/
inductive Setting
  | text (value : String)
  | list (values : List String)
  | number (value : Nat)
  deriving DecidableEq, Repr

inductive Event
  /-- A script is handed to the interpreter. -/
  | script (text : Text)
  /-- A global variable is set. -/
  | setVariable (name : String) (value : Setting)
  /-- A command is created. -/
  | createCommand (name : String)
  /-- The removal of a command is attempted. -/
  | deleteCommand (name : String)
  /-- A script prints a line. -/
  | printed (text : Text)
  /-- A registered command is called. -/
  | called (arguments : List Text)
  /-- The exit command is run. -/
  | exitRun
  /-- An observer hears of an exit. -/
  | exitHeard
  /-- A line of output. -/
  | output (text : Text)
  /-- A line on the error channel. -/
  | errorLine (text : Text)
  /-- A line of input is asked for. -/
  | prompt (text : String)
  /-- A terminal session is opened. -/
  | sessionOpened (completesWhileTyping hasCompleter : Bool)
  /-- The screen is cleared. -/
  | screenCleared
  /-- The screen is drawn again. -/
  | screenRedrawn
  /-- A diagnostic line. -/
  | diagnostic (topic : Topic) (text : Text)
  deriving DecidableEq, Repr

namespace Event

/-- An event between the shell and its interpreter. -/
def isInterpreterEvent : Event → Bool
  | .script _ | .setVariable _ _ | .createCommand _ | .deleteCommand _ | .printed _ | .called _
  | .exitHeard => true
  | _ => false

end Event

end CommandShell
