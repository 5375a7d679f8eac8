/-
# Thread counts

The number of worker threads that a launch asks for: the word `max` for as many
as the host has processors, or a positive decimal number.
-/

import CommandShell.Failure
import CommandShell.LaunchArgs

namespace CommandShell

/-- The warning for a thread count that is neither. -/
def threadsWarning : String :=
  "Warning: -threads must be max or a positive integer."

/-- The number of processors as the host reports it, one if it is unknown or
zero. -/
def hostThreads (processors : Option Int) : Int :=
  match processors with
  | some count => if count = 0 then 1 else count
  | none => 1

/-- Reads a thread count.  A run of digits beyond the digit limit is a failure
of its own, whatever its value. -/
def readThreadCount (processors : Option Int) (value : String) : Except Failure Int :=
  if value = "max" then .ok (hostThreads processors)
  else if Decimal.isNumeral value.toList then
    if value.length > Failure.digitLimit then .error (.longNumeral value.length)
    else if Decimal.value value.toList = 0 then .error (.threadCount value)
    else .ok (Decimal.value value.toList)
  else .error (.threadCount value)

/-- The thread count that an argument list asks for. -/
def LaunchArgs.threadCount (args : LaunchArgs) (processors : Option Int) :
    Except Failure (Option Int) :=
  match args.value? "-threads" with
  | none => .ok none
  | some value => (readThreadCount processors value).map some

end CommandShell
