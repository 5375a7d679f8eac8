/-
# Requests to a session

The requests that a session serves, one at a time.  A request that fails leaves
what it did before failing, and the next one is served from there.
-/

import CommandShell.Session

namespace CommandShell.Session

inductive Request
  | start
  | bootstrap
  | runOneShots
  | interact
  | saveHistory
  | shutdown
  | run
  | sourceInitFile
  | applyThreadHint
  | complete (typed : String)
  | addEntry (line : Text)
  deriving DecidableEq, Repr

inductive Reply
  | nothing
  | count (threads : Int)
  | names (names : List String)
  deriving DecidableEq, Repr

/-- Serves one request. -/
def serve (setup : Setup) : Request → SessionM Reply
  | .start => do start setup; return .nothing
  | .bootstrap => do bootstrap setup; return .nothing
  | .runOneShots => do runOneShots setup; return .nothing
  | .interact => do interact setup; return .nothing
  | .saveHistory => do saveHistory setup; return .nothing
  | .shutdown => do shutdown setup; return .nothing
  | .run => do run setup; return .nothing
  | .sourceInitFile => do sourceInitFile setup; return .nothing
  | .applyThreadHint => do
    match ← applyThreadHint setup with
    | some count => return .count count
    | none => return .nothing
  | .complete typed => do
    match (← get).editor.complete typed with
    | some names => return .names names
    | none => return .nothing
  | .addEntry line => do addEntry line; return .nothing

/-- Serves requests in order, each from where the one before it left off. -/
def serveAll (setup : Setup) : List Request → Session → List (Except Failure Reply × Session)
  | [], _ => []
  | request :: rest, session =>
    let (reply, next) := (serve setup request).perform session
    (reply, next) :: serveAll setup rest next

end CommandShell.Session
