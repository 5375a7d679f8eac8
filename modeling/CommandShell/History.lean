/-
# The history file

The lines that a user has entered, one record a line, each ended by a line feed
and nothing escaped.  A line is storable if it is one record.  Reading is
lenient: damaged bytes are replaced, empty records dropped, and a file that
cannot be read is an empty history.  Saving replaces the whole file.
-/

import CommandShell.Event
import CommandShell.TextFile

namespace CommandShell.History

open CommandShell.Text

/-- A line that fits one record: not empty and without line endings. -/
def isStorable (entry : Text) : Bool :=
  entry != "" && !entry.characters.contains '\n' && !entry.characters.contains '\r'

/-- The entries in the bytes of a history file. -/
def entriesOf (bytes : List UInt8) : List String :=
  ((records (TextFile.decodeLossy bytes)).filter fun record => !record.isEmpty).map String.ofList

/-- The records of a history file. -/
def recordsOf (entries : List Text) : List Text :=
  (entries.filter isStorable).map fun entry => entry ++ "\n"

/-- What a save announces. -/
def saveMessage : String := "Saving command history"

/-- The entries of a history file with a diagnostic line.  A fault of the file
system counts as no entries. -/
def load (files : FileTree) (path : Path) : Except Failure (List String) × List Event :=
  match files.read path with
  | .ok bytes =>
    let entries := entriesOf bytes
    (.ok entries,
      [.diagnostic .history
        ("loaded " ++ toString entries.length ++ " history entries from " ++ path.text)])
  | .error .nulInPath => (.error (.file .nulInPath), [])
  | .error refusal =>
    (.ok [],
      [.diagnostic .history ("no history loaded from " ++ path.text ++ ": " ++ refusal.message)])

/-- Writes the storable entries over a history file, one record after another: how
that ends, what is said about it, and the files afterwards.  The save is announced
first, whatever comes of it. -/
def save (files : FileTree) (path : Path) (entries : List Text) :
    Except Failure Unit × List Event × FileTree :=
  match TextFile.overwrite files path (recordsOf entries) with
  | (.ok (), saved) =>
    (.ok (),
      [.output saveMessage,
        .diagnostic .history
          ("saved " ++ toString (entries.filter isStorable).length ++ " history entries to " ++
            path.text)],
      saved)
  | (.error failure, left) => (.error failure, [.output saveMessage], left)

end CommandShell.History
