/-
# Looking up settings

A setting is found by a dotted path: `shell.prompt` is the entry `prompt` of the
mapping `shell`.  A path leads somewhere only while it meets mappings that have
the next key; what it finds at its end is the answer, even if that is nothing.
-/

import CommandShell.Config.Value
import CommandShell.Environment

namespace CommandShell.Config

/-- The keys of a dotted path.  Keys may be empty. -/
def keys (path : String) : List String :=
  (Text.splitAt '.' path.toList).map String.ofList

/-- Follows keys from a value. -/
def follow : Value → List String → Option Value
  | value, [] => some value
  | .mapping entries, key :: rest => (entries.lookup key).bind (follow · rest)
  | _, _ :: _ => none

/-- Following keys one after another is following them all. -/
theorem follow_append (value : Value) (front back : List String) :
    follow value (front ++ back) = (follow value front).bind (follow · back) := by
  induction front generalizing value with
  | nil => simp [follow]
  | cons key front ih =>
    cases value with
    | mapping entries => cases h : entries.lookup key <;> simp [follow, h, ih]
    | _ => rfl

/-- What a dotted path leads to.  The empty path leads nowhere. -/
def find? (config : Mapping) (path : String) : Option Value :=
  if path = "" then none else follow (.mapping config) (keys path)

/-- What a dotted path leads to, or a default. -/
def find (config : Mapping) (path : String) (default : Value) : Value :=
  (find? config path).getD default

/-- A top-level entry, or a default. -/
def get (config : Mapping) (key : String) (default : Value) : Value :=
  (config.lookup key).getD default

/-- A top-level section.  What is not a mapping counts as an empty one. -/
def topMapping (config : Mapping) (name : String) : Mapping :=
  ((config.lookup name).bind Value.entries?).getD []

/-- The settings of the shell. -/
def shell (config : Mapping) : Mapping :=
  topMapping config "shell"

/-- The settings of the user interface. -/
def ui (config : Mapping) : Mapping :=
  topMapping config "ui"

/-- The prompt. -/
def prompt (config : Mapping) : String :=
  (find config "shell.prompt" (.string "sta> ")).text

/-- The history file, taken from the working directory. -/
def historyPath (config : Mapping) : Path :=
  Path.ofString (find config "shell.history_file" (.string ".history_sta")).text

/-- The user's start-up file, taken from the home directory. -/
def initPath (config : Mapping) (env : Environment) : Except Failure Path :=
  env.expandHome (Path.ofString (find config "shell.init_file" (.string "~/.sta")).text)

/-- Completion is offered while the user types. -/
def completesWhileTyping (config : Mapping) : Bool :=
  (find config "ui.complete_while_typing" (.bool false)).truth

end CommandShell.Config
