/-
# Requests to an evaluator

The requests that an evaluator serves, one at a time.
-/

import CommandShell.Evaluator

namespace CommandShell.Evaluator

inductive Request
  | evaluate (script : Text)
  | source (path : Path) (echo verbose : Bool)
  | isComplete (text : String)
  | commandsIn (script : String)
  | register (name : String) (answer : Option Text)
  | registerExit
  | registerEngine (engine : Engine)
  | publish
  | release
  deriving DecidableEq, Repr

inductive Reply
  | nothing
  | outcome (outcome : Outcome)
  | truth (value : Bool)
  | commands (commands : List String)
  deriving DecidableEq, Repr

/-- Serves one request, for an evaluator that was made with an argument list and
sees a file tree. -/
def serve (words : List String) (files : FileTree) : Request → HostM Reply
  | .evaluate script => do return .outcome (← evaluate script)
  | .source path echo verbose => do return .outcome (← sourceFile files path echo verbose)
  | .isComplete text => do return .truth (← isComplete text)
  | .commandsIn script => do return .commands (← commandsIn script)
  | .register name answer => do
    Host.register name (.recorder answer)
    return .nothing
  | .registerExit => do
    registerExit .observer
    return .nothing
  | .registerEngine engine => do
    modify fun host => { host with engine }
    Host.registerEngine
    return .nothing
  | .publish => do
    publish words
    return .nothing
  | .release => do
    release
    return .nothing

end CommandShell.Evaluator
