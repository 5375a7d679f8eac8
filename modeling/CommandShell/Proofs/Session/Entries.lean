/-
# Entries, asides and remarks

Every entry into a phase is recorded in a text of its own, and so the record of a
session can be searched for entries.  All other events are asides, but for the
requests for a line.  An aside that concerns the interpreter in no way, neither as
a demand nor as an exit, is a remark.
-/

import CommandShell.Proofs.Host.Exits
import CommandShell.Proofs.Host.Records
import CommandShell.Phase

namespace CommandShell

namespace Phase

/-- The phases that can be entered, in order. -/
def line : List Phase := [.initialized, .bootstrapping, .interactive, .terminating, .done]

/-- The phases entered on the way to a phase. -/
def path (phase : Phase) : List Phase :=
  line.take phase.rank

/-- The phase right before a phase; the first phase has none. -/
def previous : Phase → Phase
  | .created | .initialized => .created
  | .bootstrapping => .initialized
  | .interactive => .bootstrapping
  | .terminating => .interactive
  | .done => .terminating

/-- What is recorded when a phase is entered. -/
def entryText (phase : Phase) : String :=
  "shell " ++ phase.previous.label ++ " -> " ++ phase.label

theorem entryText_of_precedes {current target : Phase} (h : current.precedes target = true) :
    "shell " ++ current.label ++ " -> " ++ target.label = target.entryText := by
  cases current <;> cases target <;> first | rfl | cases h

theorem path_of_precedes {current target : Phase} (h : current.precedes target = true) :
    target.path = current.path ++ [target] := by
  cases current <;> cases target <;> first | rfl | cases h

/-- A phase can be entered from one phase only. -/
theorem eq_of_precede {p q target : Phase} (hp : p.precedes target = true)
    (hq : q.precedes target = true) : p = q := by
  apply rank_injective
  simp only [precedes, beq_iff_eq] at hp hq
  omega

theorem path_count_le_one (phase entered : Phase) : phase.path.count entered ≤ 1 := by
  cases phase <;> cases entered <;> decide

end Phase

namespace Event

/-- The phase whose entry an event records. -/
def enters? : Event → Option Phase
  | .diagnostic .shell text => Phase.line.find? fun phase => text == phase.entryText
  | _ => none

/-- The phases whose entries are recorded, in order. -/
def entered (events : List Event) : List Phase :=
  events.filterMap enters?

theorem entered_append (front back : List Event) :
    entered (front ++ back) = entered front ++ entered back :=
  List.filterMap_append

theorem enters?_entryText {phase : Phase} (h : phase ≠ .created) :
    (diagnostic .shell phase.entryText).enters? = some phase := by
  cases phase <;> first | exact absurd rfl h | decide

theorem enters?_of_head {text : String} (h : text.toList.head? ≠ some 's') :
    (diagnostic .shell text).enters? = none := by
  rw [enters?, List.find?_eq_none]
  intro phase _ same
  apply h
  rw [Text.plain.inj (beq_iff_eq.mp same)]
  cases phase <;> decide

/-- An event that neither records an entry nor asks for a line. -/
def IsAside (event : Event) : Prop :=
  event.enters? = none ∧ ∀ text, event ≠ .prompt text

theorem isAside_of_isHostEvent {event : Event} (h : event.isHostEvent = true) :
    event.IsAside := by
  cases event with
  | diagnostic topic text => cases topic <;> first | exact ⟨rfl, by simp⟩ | cases h
  | prompt text => cases h
  | _ => exact ⟨rfl, by simp⟩

/-- An aside that neither demands anything nor is an exit. -/
def IsRemark (event : Event) : Prop :=
  event.IsAside ∧ event.isDemand = false ∧ event ≠ .exitRun

theorem isRemark_errorLine (text : Text) : (errorLine text).IsRemark :=
  ⟨⟨rfl, by simp⟩, rfl, by simp⟩

theorem isRemark_saving : (output History.saveMessage).IsRemark :=
  ⟨⟨rfl, by simp⟩, by simp [isDemand], by simp⟩

theorem isRemark_diagnostic {topic : Topic} {text : Text} (h : topic ≠ .shell) :
    (diagnostic topic text).IsRemark := by
  cases topic <;> first | exact absurd rfl h | exact ⟨⟨rfl, by simp⟩, rfl, by simp⟩

theorem isRemark_of_head {text : String} (h : text.toList.head? ≠ some 's') :
    (diagnostic .shell text).IsRemark :=
  ⟨⟨enters?_of_head h, by simp⟩, rfl, by simp⟩

theorem isRemark_noInitFile (path : Path) :
    (diagnostic .shell ("no init file at " ++ path.text)).IsRemark := by
  apply isRemark_of_head
  simp

theorem isRemark_noCrashLog : (diagnostic .shell "could not write crash log").IsRemark := by
  apply isRemark_of_head
  decide

end Event

end CommandShell
