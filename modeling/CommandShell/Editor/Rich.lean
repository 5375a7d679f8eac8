/-
# The rich editor

The editor for terminals.  It keeps its entries in a history object of its own, which
also holds the recall list for the arrow keys; it wraps the completion hook in a
completer; and it asks for lines through a terminal session, which is opened at the
first request and takes the completer that is installed by then.  A completer that is
installed later is handed to the open session.

The terminal itself, its keys and its screen, is not modelled: an open session answers
from the script of readings.
-/

import CommandShell.Editor.Reading

namespace CommandShell

/-- The entries of a rich editor, and the list that its arrow keys walk. -/
structure EntryHistory where
  /-- The lines entered, oldest first. -/
  entries : List Text := []
  /-- The recall list has been filled. -/
  loaded : Bool := false
  /-- The lines offered by the arrow keys, newest first. -/
  recalled : List Text := []
  deriving DecidableEq, Repr

namespace EntryHistory

/-- The entries in the order in which the arrow keys meet them. -/
def newestFirst (history : EntryHistory) : List Text :=
  history.entries.reverse

/-- Fills the recall list from the entries, unless that has been done before. -/
def load (history : EntryHistory) : EntryHistory :=
  if history.loaded then history
  else { history with loaded := true, recalled := history.newestFirst }

/-- Puts an accepted line in front of the recall list.  It is no entry by that. -/
def accept (history : EntryHistory) (line : Text) : EntryHistory :=
  { history with recalled := line :: history.recalled }

end EntryHistory

/-- An open terminal session. -/
structure TerminalSession where
  completer : Option Completion.CommandCompleter
  completesWhileTyping : Bool

structure RichEditor where
  completesWhileTyping : Bool := false
  history : EntryHistory := {}
  session : Option TerminalSession := none
  completer : Option Completion.CommandCompleter := none
  /-- The readings still to come. -/
  readings : List Reading := []

namespace RichEditor

/-- Opens the terminal session, unless it is open. -/
def ensureSession (editor : RichEditor) : RichEditor × List Event :=
  match editor.session with
  | some _ => (editor, [])
  | none =>
    ({ editor with session := some ⟨editor.completer, editor.completesWhileTyping⟩ },
      [.sessionOpened editor.completesWhileTyping editor.completer.isSome])

/-- Asks for a line through the terminal session.  The end of the input is an answer;
other failures pass. -/
def readLine (editor : RichEditor) (prompt : String) : Answer × List Event × RichEditor :=
  let (editor, opening) := editor.ensureSession
  let (input, later) := Reading.take editor.readings
  let answer : Answer := match input with
    | .ok line => .line line
    | .error (.endOfInput _) => .ended
    | .error failure => .raised failure
  (answer, opening ++ [.prompt prompt], { editor with readings := later })

/-- Adds a line to the entries of the history. -/
def addEntry (editor : RichEditor) (line : Text) : RichEditor × List Event :=
  let (entries, events) := addEntryTo editor.history.entries line
  ({ editor with history.entries := entries }, events)

/-- Installs a completer for a hook, in an open session too. -/
def setHook (editor : RichEditor) (hook : Completion.Hook) : RichEditor :=
  let completer : Completion.CommandCompleter := ⟨hook⟩
  { editor with
    completer := some completer
    session := editor.session.map fun session => { session with completer := some completer } }

/-- The names that the completer's hook offers, if there is a completer. -/
def complete (editor : RichEditor) (typed : String) : Option (List String) :=
  editor.completer.map (·.hook typed)

/-- The names that the open session offers, if it has a completer. -/
def completeInSession (editor : RichEditor) (typed : String) : Option (List String) :=
  (editor.session.bind (·.completer)).map (·.hook typed)

/-- The keys that are bound to an action, each a list of key names. -/
def keyBindings : List (List String) := [["c-l"]]

/-- What the bound key does: it clears the screen and draws it again. -/
def clearKeyEvents : List Event := [.screenCleared, .screenRedrawn]

end RichEditor

end CommandShell
