/-
# Computations that agree

Two computations agree under a relation between their states if from related states
they come to the same answer, be it a value or a failure, and leave related states
again.  Agreement follows the way computations are built, so two computations of one
shape agree as soon as their parts do.
-/

import CommandShell.Proofs.Moves

namespace CommandShell.Act

variable {σ τ α β : Type}

/-- From related states both computations come to one answer and to related states. -/
def Agrees (R : σ → τ → Prop) (act : Act σ α) (other : Act τ α) : Prop :=
  ∀ state twin, R state twin → ∃ answer after after',
    act.perform state = (answer, after) ∧ other.perform twin = (answer, after') ∧ R after after'

section Built

variable {R : σ → τ → Prop}

theorem agrees_pure (value : α) : Agrees R (pure value : Act σ α) (pure value : Act τ α) := by
  intro state twin related
  exact ⟨.ok value, state, twin, rfl, rfl, related⟩

theorem agrees_throw (failure : Failure) :
    Agrees R (throw failure : Act σ α) (throw failure : Act τ α) := by
  intro state twin related
  exact ⟨.error failure, state, twin, rfl, rfl, related⟩

theorem agrees_lift (answer : Except Failure α) :
    Agrees R (liftM answer : Act σ α) (liftM answer : Act τ α) := by
  intro state twin related
  exact ⟨answer, state, twin, perform_lift answer state, perform_lift answer twin, related⟩

theorem agrees_modify {change : σ → σ} {change' : τ → τ}
    (h : ∀ state twin, R state twin → R (change state) (change' twin)) :
    Agrees R (modify change : Act σ PUnit) (modify change' : Act τ PUnit) := by
  intro state twin related
  exact ⟨.ok ⟨⟩, _, _, rfl, rfl, h state twin related⟩

theorem Agrees.bind {act : Act σ α} {other : Act τ α} {next : α → Act σ β} {next' : α → Act τ β}
    (first : Agrees R act other) (second : ∀ value, Agrees R (next value) (next' value)) :
    Agrees R (act >>= next) (other >>= next') := by
  intro state twin related
  obtain ⟨answer, after, after', ran, ran', related'⟩ := first state twin related
  rw [perform_bind, perform_bind, ran, ran']
  cases answer with
  | error failure => exact ⟨_, _, _, rfl, rfl, related'⟩
  | ok value => exact second value after after' related'

/-- A look at the state may tell the two computations different things, as long as
they agree on what they make of them. -/
theorem agrees_get_bind {next : σ → Act σ β} {next' : τ → Act τ β}
    (h : ∀ state twin, R state twin → Agrees R (next state) (next' twin)) :
    Agrees R (get >>= next) (get >>= next') := by
  intro state twin related
  rw [perform_bind_of_ok (perform_get state), perform_bind_of_ok (perform_get twin)]
  exact h state twin related state twin related

theorem Agrees.map {act : Act σ α} {other : Act τ α} (f : α → β) (h : Agrees R act other) :
    Agrees R (f <$> act) (f <$> other) := by
  rw [map_eq_pure_bind, map_eq_pure_bind]
  exact h.bind fun _ => agrees_pure _

theorem Agrees.discard {act : Act σ α} {other : Act τ α} (h : Agrees R act other) :
    Agrees R (Functor.discard act) (Functor.discard other) :=
  h.map _

theorem Agrees.tryCatch {act : Act σ α} {other : Act τ α} {recover : Failure → Act σ α}
    {recover' : Failure → Act τ α} (tried : Agrees R act other)
    (recovered : ∀ failure, Agrees R (recover failure) (recover' failure)) :
    Agrees R (MonadExcept.tryCatch act recover) (MonadExcept.tryCatch other recover') := by
  intro state twin related
  obtain ⟨answer, after, after', ran, ran', related'⟩ := tried state twin related
  rw [perform_tryCatch, perform_tryCatch, ran, ran']
  cases answer with
  | error failure => exact recovered failure after after' related'
  | ok value => exact ⟨_, _, _, rfl, rfl, related'⟩

theorem agrees_forM {f : α → Act σ PUnit} {f' : α → Act τ PUnit} (list : List α)
    (h : ∀ value, Agrees R (f value) (f' value)) : Agrees R (list.forM f) (list.forM f') := by
  induction list with
  | nil => exact agrees_pure _
  | cons value rest ih => exact (h value).bind fun _ => ih

end Built

end CommandShell.Act
