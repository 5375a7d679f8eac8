/-
# Requests to an editor

The requests that an editor serves, one at a time, with what each answers and
does.  Some are about the terminal session and the recall list, which only a rich
editor has.
-/

import CommandShell.Editor

namespace CommandShell.Editor

inductive Request
  | addEntry (line : Text)
  | readLine (prompt : String)
  | entries
  /-- The list of entries is asked for and the answer changed, which the editor
  does not notice. -/
  | changeCopy (line : Text)
  | setHook (hook : Completion.Hook)
  | complete (typed : String)
  | completeInSession (typed : String)
  | pressKeys
  | newestFirst
  | loadRecall
  | accept (line : Text)
  | recalled

inductive Reply
  | nothing
  | line (text : Text)
  | lines (lines : List Text)
  | names (names : List String)
  | keys (keys : List (List String))
  deriving DecidableEq, Repr

/-- A list of names that may be missing. -/
def Reply.ofNames? : Option (List String) → Reply
  | some offered => .names offered
  | none => .nothing

/-- What an answered request for a line gives to the caller. -/
def Reply.ofAnswer : Answer → Except Failure Reply
  | .line text => .ok (.line text)
  | .ended => .ok .nothing
  | .interrupted message => .error (.interrupt message)
  | .failed failure => .error failure

/-- The failure for a request that only a rich editor serves. -/
def notRich : Failure := .other "AttributeError" "the editor has no terminal session"

/-- Serves one request of those that only a rich editor knows. -/
def serveRich (editor : RichEditor) : Request → Except Failure Reply × List Event × RichEditor
  | .completeInSession typed => (.ok (.ofNames? (editor.completeInSession typed)), [], editor)
  | .pressKeys => (.ok (.keys RichEditor.keyBindings), RichEditor.clearKeyEvents, editor)
  | .newestFirst => (.ok (.lines editor.history.newestFirst), [], editor)
  | .loadRecall =>
    let history := editor.history.load
    (.ok (.lines history.recalled), [], { editor with history })
  | .accept line => (.ok .nothing, [], { editor with history := editor.history.accept line })
  | .recalled => (.ok (.lines editor.history.recalled.reverse), [], editor)
  | _ => (.ok .nothing, [], editor)

/-- Serves one request. -/
def serve (editor : Editor) : Request → Except Failure Reply × List Event × Editor
  | .addEntry line =>
    let (editor, events) := editor.addEntry line
    (.ok .nothing, events, editor)
  | .readLine prompt =>
    let (answer, events, editor) := editor.readLine prompt
    (Reply.ofAnswer answer, events, editor)
  | .entries => (.ok (.lines editor.entries), [], editor)
  | .changeCopy _ => (.ok .nothing, [], editor)
  | .setHook hook => (.ok .nothing, [], editor.setHook hook)
  | .complete typed => (.ok (.ofNames? (editor.complete typed)), [], editor)
  | request =>
    match editor with
    | plain _ => (.error notRich, [], editor)
    | rich own =>
      let (reply, events, own) := serveRich own request
      (reply, events, rich own)

end CommandShell.Editor
