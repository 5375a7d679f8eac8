/-
# Completing a line

Completion works on the text before the cursor; the terminal session cuts the line
there.  Only the first word of a line is a command name: once white space follows
it, nothing is offered.
-/

import CommandShell.Completion.Names
import CommandShell.Text.Blank

namespace CommandShell.Completion

/-- A name on offer.  It replaces the text from `start` to the cursor, where
`start` counts back from the cursor. -/
structure Offer where
  name : String
  start : Int
  label : String
  deriving DecidableEq, Repr

/-- A line that is being edited, in two parts: what stands before the cursor and what
stands behind it. -/
structure Line where
  before : List Char
  after : List Char := []
  deriving DecidableEq, Repr

/-- The part of a line's first word before the cursor, unless the cursor is
beyond that word. -/
def firstWord (before : List Char) : Option String :=
  let word := Text.stripLeft before
  if word.any Text.isBlank then none else some (String.ofList word)

/-- The names on offer for the text before the cursor, by a hook that may do more
than to answer.  It is asked once for the first word, and not at all beyond it. -/
def offersBy {m : Type → Type} [Monad m] (hook : String → m (List String))
    (before : List Char) : m (List Offer) := do
  match firstWord before with
  | none => return []
  | some word =>
    let names ← hook word
    return names.map fun name => ⟨name, -(word.length : Int), "command"⟩

/-- The names on offer for the text before the cursor. -/
def offers (hook : Hook) (before : List Char) : List Offer :=
  Id.run (offersBy (fun word => pure (hook word)) before)

/-- Asks a hook for the names to offer. -/
structure CommandCompleter where
  hook : Hook

/-- What a completer offers for a line. -/
def CommandCompleter.completions (completer : CommandCompleter) (line : Line) : List Offer :=
  offers completer.hook line.before

end CommandShell.Completion
