/-
# The crash log

Failures that a conversation survives leave a record in a log under the data
root.  The log is only ever added to.  Writing it must not get in the way of
what was being reported, so a log that cannot be written is passed over.  By then
some directories on its path may have been made, and the log itself if a record is
no sequence of characters.
-/

import CommandShell.Environment

namespace CommandShell.CrashLog

/-- What stands in a record for the time of a failure and for the state of the
program, as the recording process gives them. -/
structure Stamp where
  time : String := "<timestamp>"
  trace : String := "<traceback>\n"
  deriving Repr

/-- The crash log under a data root. -/
def path (root : Path) : Path :=
  root.child ["stashell", "logs", "crash.log"]

/-- The record of a failure: its time, the command that was being evaluated
unless that is empty, the failure, and the state of the program. -/
def record (stamp : Stamp) (failure : Failure) (command : Text) : Text :=
  Text.endLines
    ([(stamp.time : Text)] ++
      (if command = "" then [] else ["raw=" ++ command]) ++
      ["error=" ++ failure.kind ++ ": " ++ failure.message, "traceback:", stamp.trace, "----"])

/-- Adds a text to the crash log, whose directories are made if need be. -/
def append (env : Environment) (text : Text) : Act FileTree Unit := do
  let log := path (← env.openDataRoot)
  let (made, files) := (← get).makeDirectories log.parent
  set files
  TextFile.refuse made
  let (written, files) := TextFile.extend files log [text]
  set files
  written

/-- Records a failure.  The answer tells whether the record was written: what
stands in its way is passed over, unless it asks the program to stop. -/
def write (env : Environment) (stamp : Stamp) (failure : Failure) (command : Text) :
    Act FileTree Bool :=
  tryCatch (append env (record stamp failure command) *> pure true) fun obstacle =>
    if obstacle.isOrdinary then return false else throw obstacle

end CommandShell.CrashLog
