/-
# What the editors share

The lines that a user will enter are given in advance as a script of readings; at its
end the input ends.  Both line editors take their input from there, and both keep the
lines that are entered by one rule.
-/

import CommandShell.Completion.Completer
import CommandShell.History

namespace CommandShell

/-- What a request for a line meets. -/
inductive Reading
  | line (text : Text)
  | fails (failure : Failure)
  deriving DecidableEq, Repr

/-- Takes the next reading: the line, or the failure in place of one. -/
def Reading.take : List Reading → Except Failure Text × List Reading
  | [] => (.error (.endOfInput ""), [])
  | .line text :: later => (.ok text, later)
  | .fails failure :: later => (.error failure, later)

/-- What a request for a line comes to. -/
inductive Answer
  | line (text : Text)
  | interrupted (message : Text)
  | ended
  | failed (failure : Failure)
  deriving DecidableEq, Repr

/-- What a failure that an editor passes on means to the one who asked. -/
def Answer.raised : Failure → Answer
  | .interrupt message => .interrupted message
  | failure => .failed failure

/-- Adds a line to entries.  A line that is not storable is passed over. -/
def addEntryTo (entries : List Text) (line : Text) : List Text × List Event :=
  if History.isStorable line then (entries ++ [line], [])
  else (entries, [.diagnostic .ui ("not adding " ++ line.quoted ++ " to history")])

end CommandShell
