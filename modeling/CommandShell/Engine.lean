/-
# The analysis engine

The shell hands its engine the thread count of a launch and has it define its
commands.  The commands answer with the state of the engine at the time of the
call.
-/

import CommandShell.Event
import CommandShell.Failure

namespace CommandShell

structure Engine where
  version : String
  threads : Int := 1
  deriving DecidableEq, Repr

namespace Engine

/-- The commands of an engine. -/
inductive Query
  | version
  | threads
  deriving DecidableEq, Repr

/-- The name of a command. -/
def Query.name : Query → String
  | .version => "::sta::version"
  | .threads => "::sta::thread_count"

/-- The commands in the order of definition. -/
def queries : List Query := [.version, .threads]

/-- Takes a thread count. -/
def setThreads (engine : Engine) (count : Int) : Engine × List Event :=
  ({ engine with threads := count },
    [.diagnostic .engine ("thread count " ++ Decimal.integer count)])

/-- The answer of a command.  A count beyond the digit limit cannot be
written. -/
def answer (engine : Engine) : Query → Except Failure String
  | .version => .ok engine.version
  | .threads =>
    if (Decimal.numeral engine.threads.natAbs).length > Failure.digitLimit then
      .error .longNumber
    else .ok (Decimal.integer engine.threads)

end Engine

/-- An engine beside the commands it has defined so far. -/
structure Engine.Catalog where
  engine : Engine
  defined : List Engine.Query := []
  deriving DecidableEq, Repr

namespace Engine.Catalog

/-- What can be asked of an engine. -/
inductive Request
  | setThreads (count : Int)
  | setVersion (version : String)
  | define
  | call (name : String)
  deriving DecidableEq, Repr

/-- What is answered. -/
inductive Reply
  | nothing
  | text (text : String)
  | names (names : List String)
  deriving DecidableEq, Repr

/-- Serves one request.  The names of the defined commands come sorted. -/
def serve (catalog : Catalog) : Request → Except Failure Reply × Catalog
  | .setThreads count =>
    (.ok .nothing, { catalog with engine := (catalog.engine.setThreads count).1 })
  | .setVersion version => (.ok .nothing, { catalog with engine.version := version })
  | .define =>
    let names := (Engine.queries.map Engine.Query.name).mergeSort fun a b => a ≤ b
    (.ok (.names names), { catalog with defined := Engine.queries })
  | .call name =>
    match catalog.defined.find? (·.name == name) with
    | some query => ((catalog.engine.answer query).map .text, catalog)
    | none => (.error (.missingKey name), catalog)

end Engine.Catalog

end CommandShell
