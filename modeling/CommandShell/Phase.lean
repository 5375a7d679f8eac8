/-
# Phases of a session

A session passes through six phases in a fixed order and never goes back.
-/

namespace CommandShell

inductive Phase
  | created
  | initialized
  | bootstrapping
  | interactive
  | terminating
  | done
  deriving DecidableEq, Repr

namespace Phase

/-- How many phases come before this one. -/
def rank : Phase → Nat
  | .created => 0
  | .initialized => 1
  | .bootstrapping => 2
  | .interactive => 3
  | .terminating => 4
  | .done => 5

/-- How a phase is written in reports. -/
def label : Phase → String
  | .created => "CREATED"
  | .initialized => "INITIALIZED"
  | .bootstrapping => "BOOTSTRAPPING"
  | .interactive => "INTERACTIVE"
  | .terminating => "TERMINATING"
  | .done => "DONE"

/-- A phase may be entered only from the one right before it. -/
def precedes (current target : Phase) : Bool :=
  target.rank == current.rank + 1

theorem rank_injective {p q : Phase} (h : p.rank = q.rank) : p = q := by
  cases p <;> cases q <;> simp_all [rank]

/-- At most one phase may be entered next. -/
theorem eq_of_precedes {p q r : Phase} (hq : p.precedes q = true) (hr : p.precedes r = true) :
    q = r :=
  rank_injective (by simp only [precedes, beq_iff_eq] at hq hr; omega)

end Phase

end CommandShell
