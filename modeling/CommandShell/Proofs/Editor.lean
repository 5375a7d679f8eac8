/-
# The two editors side by side

Both editors take their input from the readings and answer for it alike, but each has a
state of its own.  They match if they hold the same entries and readings and ask the same
hook, the rich one through its completer.  Every operation leads from matching editors to
matching ones, with the same answer and the same events, but for the terminal session that
the rich editor opens at its first request for a line.
-/

import CommandShell.Editor

namespace CommandShell

namespace Reading

/-- What a reading means to the one who asked for a line. -/
def answer : Reading → Answer
  | .line text => .line text
  | .fails (.endOfInput _) => .ended
  | .fails failure => .raised failure

/-- What a request for a line comes to.  At the end of the readings the input ends. -/
def next : List Reading → Answer
  | [] => .ended
  | reading :: _ => reading.answer

@[simp] theorem next_nil : next [] = .ended := rfl

end Reading

/-! ## What the operations do -/

theorem PlainEditor.readLine_eq (editor : PlainEditor) (prompt : String) :
    editor.readLine prompt =
      (Reading.next editor.readings, [.prompt prompt],
        { editor with readings := editor.readings.tail }) := by
  rw [readLine]
  rcases editor.readings with _ | ⟨_ | failure, later⟩
  · rfl
  · rfl
  · cases failure <;> rfl

theorem RichEditor.readings_ensureSession (editor : RichEditor) :
    editor.ensureSession.1.readings = editor.readings := by
  rw [ensureSession]
  cases editor.session <;> rfl

theorem RichEditor.history_ensureSession (editor : RichEditor) :
    editor.ensureSession.1.history = editor.history := by
  rw [ensureSession]
  cases editor.session <;> rfl

theorem RichEditor.readLine_eq (editor : RichEditor) (prompt : String) :
    editor.readLine prompt =
      (Reading.next editor.readings, editor.ensureSession.2 ++ [.prompt prompt],
        { editor.ensureSession.1 with readings := editor.readings.tail }) := by
  rw [readLine, ← editor.readings_ensureSession]
  generalize editor.ensureSession = opened
  obtain ⟨opened, opening⟩ := opened
  dsimp only
  rcases opened.readings with _ | ⟨_ | failure, later⟩
  · rfl
  · rfl
  · cases failure <;> rfl

namespace Editor

/-- What the next request for a line comes to. -/
def coming (editor : Editor) : Answer :=
  Reading.next editor.readings

/-- What happens before the first prompt. -/
def opening : Editor → List Event
  | plain _ => []
  | rich editor => editor.ensureSession.2

/-- The editor once a line has been asked for. -/
def asked : Editor → Editor
  | plain editor => plain { editor with readings := editor.readings.tail }
  | rich editor => rich { editor.ensureSession.1 with readings := editor.readings.tail }

theorem readLine_eq (editor : Editor) (prompt : String) :
    editor.readLine prompt = (editor.coming, editor.opening ++ [.prompt prompt], editor.asked) := by
  cases editor with
  | plain editor => simp [readLine, editor.readLine_eq, coming, opening, asked, readings]
  | rich editor => simp [readLine, editor.readLine_eq, coming, opening, asked, readings]

@[simp] theorem readings_asked (editor : Editor) :
    editor.asked.readings = editor.readings.tail := by
  cases editor <;> rfl

@[simp] theorem entries_asked (editor : Editor) : editor.asked.entries = editor.entries := by
  cases editor with
  | plain editor => rfl
  | rich editor => exact congrArg EntryHistory.entries editor.history_ensureSession

@[simp] theorem complete_readLine (editor : Editor) (prompt : String) :
    (editor.readLine prompt).2.2.complete = editor.complete := by
  rw [readLine_eq]
  cases editor with
  | plain editor => rfl
  | rich editor =>
      funext typed
      rw [asked, complete, complete, RichEditor.complete, RichEditor.ensureSession]
      cases editor.session <;> rfl

/-- The editor with other entries. -/
def withEntries (editor : Editor) (entries : List Text) : Editor :=
  match editor with
  | plain own => plain { own with entries }
  | rich own => rich { own with history.entries := entries }

@[simp] theorem entries_withEntries (editor : Editor) (entries : List Text) :
    (editor.withEntries entries).entries = entries := by
  cases editor <;> rfl

@[simp] theorem readings_withEntries (editor : Editor) (entries : List Text) :
    (editor.withEntries entries).readings = editor.readings := by
  cases editor <;> rfl

@[simp] theorem withEntries_withEntries (editor : Editor) (first second : List Text) :
    (editor.withEntries first).withEntries second = editor.withEntries second := by
  cases editor <;> rfl

@[simp] theorem withEntries_self (editor : Editor) :
    editor.withEntries editor.entries = editor := by
  cases editor <;> rfl

theorem addEntry_eq (editor : Editor) (line : Text) :
    (editor.addEntry line).1 =
      editor.withEntries (editor.entries ++ [line].filter History.isStorable) := by
  rw [← entries_addEntry]
  cases editor <;> rfl

/-- Nothing but the opening of a terminal session comes before a prompt. -/
theorem exists_sessionOpened_of_mem_opening {editor : Editor} {event : Event}
    (h : event ∈ editor.opening) : ∃ typing hooked, event = .sessionOpened typing hooked := by
  cases editor with
  | plain editor => cases h
  | rich editor =>
      rw [opening, RichEditor.ensureSession] at h
      split at h
      · cases h
      · exact ⟨_, _, List.mem_singleton.mp h⟩

end Editor

/-! ## Matching editors -/

/-- A rich editor holds what a plain one does, and an open terminal session has the installed
completer. -/
structure PlainEditor.Matches (completes : Bool) (plain : PlainEditor) (rich : RichEditor) :
    Prop where
  readings : rich.readings = plain.readings
  entries : rich.history.entries = plain.entries
  completer : rich.completer = plain.hook.map .mk
  typing : rich.completesWhileTyping = completes
  session : ∀ session ∈ rich.session, session = ⟨rich.completer, completes⟩

namespace PlainEditor.Matches

theorem fresh (completes : Bool) (readings : List Reading) :
    Matches completes { readings } { completesWhileTyping := completes, readings } where
  readings := rfl
  entries := rfl
  completer := rfl
  typing := rfl
  session := nofun

variable {completes : Bool} {plain : PlainEditor} {rich : RichEditor}
  (same : plain.Matches completes rich)

include same

theorem addEntry (line : Text) :
    (plain.addEntry line).1.Matches completes (rich.addEntry line).1 ∧
      (rich.addEntry line).2 = (plain.addEntry line).2 := by
  have held : addEntryTo rich.history.entries line = addEntryTo plain.entries line := by
    rw [same.entries]
  refine ⟨⟨same.readings, ?_, same.completer, same.typing, same.session⟩, ?_⟩
  · exact congrArg Prod.fst held
  · exact congrArg Prod.snd held

/-- A hook is handed on to an open terminal session. -/
theorem setHook (hook : Completion.Hook) :
    (plain.setHook hook).Matches completes (rich.setHook hook) where
  readings := same.readings
  entries := same.entries
  completer := rfl
  typing := same.typing
  session := by
    intro session isOpen
    obtain ⟨before, wasOpen, rfl⟩ := Option.map_eq_some_iff.mp isOpen
    rw [same.session before wasOpen]
    rfl

theorem complete (typed : String) : rich.complete typed = plain.complete typed := by
  rw [RichEditor.complete, same.completer, PlainEditor.complete, Option.map_map]
  rfl

/-- So does an open terminal session. -/
theorem completeInSession (isOpen : rich.session.isSome = true) (typed : String) :
    rich.completeInSession typed = plain.complete typed := by
  obtain ⟨session, there⟩ := Option.isSome_iff_exists.mp isOpen
  rw [← same.complete, RichEditor.completeInSession, there, Option.bind_some,
    same.session session there]
  rfl

theorem ensureSession : plain.Matches completes rich.ensureSession.1 ∧
    rich.ensureSession.1.session.isSome = true ∧
    rich.ensureSession.2 =
      if rich.session.isSome then [] else [.sessionOpened completes plain.hook.isSome] := by
  rw [RichEditor.ensureSession]
  cases there : rich.session with
  | some session => exact ⟨same, by simp [there], rfl⟩
  | none =>
      refine ⟨⟨same.readings, same.entries, same.completer, same.typing, ?_⟩, rfl, ?_⟩
      · rintro session ⟨⟩
        rw [same.typing]
      · simp [same.completer, same.typing]

/-- A line is asked for with the same outcome.  The rich editor opens its terminal session
before, unless it is open. -/
theorem readLine (prompt : String) :
    (rich.readLine prompt).1 = (plain.readLine prompt).1 ∧
      (rich.readLine prompt).2.1 =
        (if rich.session.isSome then [] else [.sessionOpened completes plain.hook.isSome]) ++
          (plain.readLine prompt).2.1 ∧
      (plain.readLine prompt).2.2.Matches completes (rich.readLine prompt).2.2 ∧
      (rich.readLine prompt).2.2.session.isSome = true := by
  obtain ⟨still, isOpen, opening⟩ := same.ensureSession
  rw [RichEditor.readLine_eq, PlainEditor.readLine_eq, same.readings, opening]
  exact ⟨rfl, rfl, ⟨rfl, still.entries, still.completer, still.typing, still.session⟩, isOpen⟩

end PlainEditor.Matches

namespace Editor

open PlainEditor (Matches)

/-- A rich editor beside a plain one that it matches.  Its terminal session is open once a
line has been asked for. -/
inductive Beside (completes asked : Bool) : Editor → Editor → Prop
  | intro {own : PlainEditor} {other : RichEditor} (same : own.Matches completes other)
      (opened : other.session.isSome = asked) : Beside completes asked (plain own) (rich other)

namespace Beside

theorem fresh (completes : Bool) (readings : List Reading) :
    Beside completes false (plain { readings })
      (rich { completesWhileTyping := completes, readings }) :=
  .intro (.fresh completes readings) rfl

variable {completes asked : Bool} {first second : Editor}

/-- An open terminal session offers what the plain editor's hook does. -/
theorem completeInSession {own : RichEditor} (h : Beside completes asked first (rich own))
    (isOpen : own.session.isSome = true) (typed : String) :
    own.completeInSession typed = first.complete typed := by
  cases h with
  | intro same opened => exact same.completeInSession isOpen typed

variable (h : Beside completes asked first second)

include h

theorem readings : second.readings = first.readings := by
  cases h with
  | intro same opened => exact same.readings

theorem entries : second.entries = first.entries := by
  cases h with
  | intro same opened => exact same.entries

theorem complete (typed : String) : second.complete typed = first.complete typed := by
  cases h with
  | intro same opened => exact same.complete typed

theorem setHook (hook : Completion.Hook) :
    Beside completes asked (first.setHook hook) (second.setHook hook) := by
  cases h with
  | intro same opened => exact .intro (same.setHook hook) (by simpa [RichEditor.setHook])

theorem addEntry (line : Text) :
    Beside completes asked (first.addEntry line).1 (second.addEntry line).1 ∧
      (second.addEntry line).2 = (first.addEntry line).2 := by
  cases h with
  | intro same opened =>
      obtain ⟨still, events⟩ := same.addEntry line
      exact ⟨.intro still opened, events⟩

/-- A request for a line is answered alike, and from then on the terminal session is open. -/
theorem readLine (prompt : String) :
    (second.readLine prompt).1 = (first.readLine prompt).1 ∧
      (first.readLine prompt).2.1 = [.prompt prompt] ∧
      (second.readLine prompt).2.1 =
        (if asked then [] else [.sessionOpened completes (first.complete "").isSome]) ++
          [.prompt prompt] ∧
      Beside completes true (first.readLine prompt).2.2 (second.readLine prompt).2.2 := by
  cases h with
  | @intro own other same opened =>
      obtain ⟨answer, events, still, isOpen⟩ := same.readLine prompt
      have prompted : (own.readLine prompt).2.1 = [.prompt prompt] := by
        rw [PlainEditor.readLine_eq]
      refine ⟨answer, prompted, ?_, .intro still isOpen⟩
      rw [prompted, opened] at events
      simpa [Editor.readLine, Editor.complete, PlainEditor.complete] using events

end Beside

end Editor

end CommandShell
