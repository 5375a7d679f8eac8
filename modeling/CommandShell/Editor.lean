/-
# Line editors

A line editor shows a prompt and reads a line, keeps the list of lines entered and
hands what was typed to a completion hook.  There are two, each with a state and
operations of its own, and a session works with either.
-/

import CommandShell.Config.Lookup
import CommandShell.Editor.Plain
import CommandShell.Editor.Rich

namespace CommandShell

inductive EditorKind
  | plain
  | rich
  deriving DecidableEq, Repr

inductive Editor
  | plain (editor : PlainEditor)
  | rich (editor : RichEditor)

namespace Editor

/-- Picks the editor for a process: a rich one on a terminal, unless plain
editing is asked for. -/
def kindFor (terminal : Bool) (env : Environment) : EditorKind :=
  if env.plainEditing = some "1" || !terminal then .plain else .rich

/-- An editor that has not been used yet. -/
def fresh (kind : EditorKind) (completesWhileTyping : Bool) (readings : List Reading) : Editor :=
  match kind with
  | .plain => .plain { readings }
  | .rich => .rich { completesWhileTyping, readings }

/-- The readings still to come. -/
def readings : Editor → List Reading
  | plain editor => editor.readings
  | rich editor => editor.readings

/-- The lines entered, oldest first. -/
def entries : Editor → List Text
  | plain editor => editor.entries
  | rich editor => editor.history.entries

/-- Asks for a line. -/
def readLine : Editor → String → Answer × List Event × Editor
  | plain editor, prompt =>
    let (answer, events, editor) := editor.readLine prompt
    (answer, events, plain editor)
  | rich editor, prompt =>
    let (answer, events, editor) := editor.readLine prompt
    (answer, events, rich editor)

/-- Adds a line to the entries. -/
def addEntry : Editor → Text → Editor × List Event
  | plain editor, line =>
    let (editor, events) := editor.addEntry line
    (plain editor, events)
  | rich editor, line =>
    let (editor, events) := editor.addEntry line
    (rich editor, events)

/-- Installs a completion hook. -/
def setHook : Editor → Completion.Hook → Editor
  | plain editor, hook => plain (editor.setHook hook)
  | rich editor, hook => rich (editor.setHook hook)

/-- The names that the installed hook offers, if one is installed. -/
def complete : Editor → String → Option (List String)
  | plain editor, typed => editor.complete typed
  | rich editor, typed => editor.complete typed

@[simp] theorem readings_fresh (kind : EditorKind) (completesWhileTyping : Bool)
    (readings : List Reading) : (fresh kind completesWhileTyping readings).readings = readings := by
  cases kind <;> rfl

@[simp] theorem entries_fresh (kind : EditorKind) (completesWhileTyping : Bool)
    (readings : List Reading) : (fresh kind completesWhileTyping readings).entries = [] := by
  cases kind <;> rfl

@[simp] theorem readings_setHook (editor : Editor) (hook : Completion.Hook) :
    (editor.setHook hook).readings = editor.readings := by
  cases editor <;> rfl

@[simp] theorem entries_setHook (editor : Editor) (hook : Completion.Hook) :
    (editor.setHook hook).entries = editor.entries := by
  cases editor <;> rfl

@[simp] theorem complete_setHook (editor : Editor) (hook : Completion.Hook) :
    (editor.setHook hook).complete = fun typed => some (hook typed) := by
  cases editor <;> rfl

@[simp] theorem entries_addEntry (editor : Editor) (line : Text) :
    (editor.addEntry line).1.entries = editor.entries ++ [line].filter History.isStorable := by
  by_cases h : History.isStorable line = true <;> cases editor <;>
    simp [addEntry, PlainEditor.addEntry, RichEditor.addEntry, addEntryTo, entries, h]

@[simp] theorem complete_addEntry (editor : Editor) (line : Text) :
    (editor.addEntry line).1.complete = editor.complete := by
  cases editor <;> rfl

theorem events_addEntry (editor : Editor) (line : Text) :
    (editor.addEntry line).2 = (addEntryTo editor.entries line).2 := by
  cases editor <;> rfl

end Editor

end CommandShell
