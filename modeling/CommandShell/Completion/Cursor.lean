/-
# Completion cursors

A cursor walks a table of names and stops at each name that begins with what was
typed.  It remembers only how far it has come, so it can be resumed at any time;
names added to the table meanwhile are found when their turn comes.
-/

import CommandShell.Completion.Names
import CommandShell.Failure

namespace CommandShell.Completion

structure Cursor where
  typed : String
  position : Nat := 0
  deriving DecidableEq, Repr

namespace Cursor

/-- The first match in the names still ahead, with the number of names passed. -/
def seek (typed : String) : List String → Option String × Nat
  | [] => (none, 0)
  | name :: rest =>
    if matchesStart typed name then (some name, 1)
    else
      let (found, passed) := seek typed rest
      (found, passed + 1)

/-- The next match in a table, and the cursor behind it. -/
def next (cursor : Cursor) (names : List String) : Option String × Cursor :=
  let (found, passed) := seek cursor.typed (names.drop cursor.position)
  (found, { cursor with position := cursor.position + passed })

/-- All further matches in a table, and the cursor at its end. -/
def rest (cursor : Cursor) (names : List String) : List String × Cursor :=
  (candidates (names.drop cursor.position) cursor.typed,
    { cursor with position := max cursor.position names.length })

/-- A search that finds nothing passes every name. -/
theorem seek_eq_none {typed : String} {names : List String} (h : (seek typed names).1 = none) :
    candidates names typed = [] ∧ (seek typed names).2 = names.length := by
  induction names with
  | nil => exact ⟨rfl, rfl⟩
  | cons name rest ih =>
    by_cases hm : matchesStart typed name = true
    · simp [seek, hm] at h
    · simp only [seek, hm] at h ⊢
      have := ih h
      exact ⟨by simpa [candidates, hm] using this.1, by simpa using this.2⟩

end Cursor

/-- The table that a cursor walks: the command names, which never change, or a
table shared by all cursors that were made for it. -/
inductive Source
  | builtin
  | shared
  deriving DecidableEq, Repr

/-- A shared table and the cursors opened so far. -/
structure Cursors where
  shared : List String := []
  opened : List (Source × Cursor) := []
  deriving DecidableEq, Repr

/-- What can be asked.  Cursors are numbered in the order of opening. -/
inductive Request
  | openCursor (source : Source) (typed : String)
  | next (cursor : Nat)
  | rest (cursor : Nat)
  | append (name : String)
  deriving DecidableEq, Repr

/-- What is answered. -/
inductive Reply
  | nothing
  | name (name : String)
  | names (names : List String)
  deriving DecidableEq, Repr

namespace Cursors

/-- The names that a source offers now. -/
def namesOf (cursors : Cursors) : Source → List String
  | .builtin => commandNames
  | .shared => cursors.shared

/-- The cursors with one of them moved. -/
def move (cursors : Cursors) (i : Nat) (source : Source) (moved : Cursor) : Cursors :=
  { cursors with opened := cursors.opened.set i (source, moved) }

/-- The failure for a number that no cursor has. -/
def noCursor : Failure := .other "IndexError" "list index out of range"

/-- Serves one request. -/
def serve (cursors : Cursors) : Request → Except Failure Reply × Cursors
  | .openCursor source typed =>
    (.ok .nothing, { cursors with opened := cursors.opened ++ [(source, ⟨typed, 0⟩)] })
  | .append name => (.ok .nothing, { cursors with shared := cursors.shared ++ [name] })
  | .next i =>
    match cursors.opened[i]? with
    | none => (.error noCursor, cursors)
    | some (source, cursor) =>
      match cursor.next (cursors.namesOf source) with
      | (some name, moved) => (.ok (.name name), cursors.move i source moved)
      | (none, moved) => (.error .exhausted, cursors.move i source moved)
  | .rest i =>
    match cursors.opened[i]? with
    | none => (.error noCursor, cursors)
    | some (source, cursor) =>
      let (names, moved) := cursor.rest (cursors.namesOf source)
      (.ok (.names names), cursors.move i source moved)

end Cursors

end CommandShell.Completion
