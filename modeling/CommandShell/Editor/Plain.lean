/-
# The plain editor

The editor for pipes and for terminals that can do nothing else.  It asks for a line
and gets it.  A completion hook is accepted and never asked by the editor itself.
-/

import CommandShell.Editor.Reading

namespace CommandShell

structure PlainEditor where
  /-- The readings still to come. -/
  readings : List Reading := []
  /-- The lines entered, oldest first. -/
  entries : List Text := []
  hook : Option Completion.Hook := none

namespace PlainEditor

/-- Asks for a line.  The end of the input is an answer; other failures pass. -/
def readLine (editor : PlainEditor) (prompt : String) : Answer × List Event × PlainEditor :=
  let (input, later) := Reading.take editor.readings
  let answer : Answer := match input with
    | .ok line => .line line
    | .error (.endOfInput _) => .ended
    | .error failure => .raised failure
  (answer, [.prompt prompt], { editor with readings := later })

/-- Adds a line to the entries. -/
def addEntry (editor : PlainEditor) (line : Text) : PlainEditor × List Event :=
  let (entries, events) := addEntryTo editor.entries line
  ({ editor with entries }, events)

/-- Installs a completion hook. -/
def setHook (editor : PlainEditor) (hook : Completion.Hook) : PlainEditor :=
  { editor with hook := some hook }

/-- The names that the hook offers, if there is a hook. -/
def complete (editor : PlainEditor) (typed : String) : Option (List String) :=
  editor.hook.map (· typed)

end PlainEditor

end CommandShell
