/-
# Commands of a script

A script is cut into commands by line: lines are gathered until the text
gathered so far is a complete command.  Only the last command of a script can be
incomplete, when the script ends before it does.
-/

import CommandShell.Text.Blank
import CommandShell.Text.Lines

namespace CommandShell.Script

/-- Which texts are complete commands.  The command language says so, and the empty
text is always complete. -/
structure Completeness where
  holds : List Char → Bool
  holds_nil : holds [] = true

/-- A text is taken for a complete command if no brace is left open and no line is
continued by a backslash at its end. -/
def Completeness.braces : Completeness where
  holds text := text.count '\x7b' ≤ text.count '\x7d' && text.getLast? != some '\\'
  holds_nil := rfl

/-- A command that has gathered lines takes one more. -/
def gather (pending line : List Char) : List Char :=
  if pending.isEmpty then line else pending ++ '\n' :: line

/-- Gathers lines into commands.  `pending` is the command being gathered. -/
def segmentFrom (complete : List Char → Bool) (pending : List Char) :
    List (List Char) → List (List Char)
  | [] => if pending.isEmpty then [] else [pending]
  | line :: rest =>
    let gathered := gather pending line
    if complete gathered then gathered :: segmentFrom complete [] rest
    else segmentFrom complete gathered rest

/-- The commands of a text. -/
def segment (complete : List Char → Bool) (text : List Char) : List (List Char) :=
  segmentFrom complete [] (Text.lines text)

/-- The commands of a script. -/
def commands (complete : Completeness) (script : String) : List String :=
  (segment complete.holds script.toList).map String.ofList

/-- A command with nothing to evaluate: blank, or a comment. -/
def isIdle (command : String) : Bool :=
  match Text.strip command.toList with
  | [] => true
  | c :: _ => c == '#'

end CommandShell.Script
