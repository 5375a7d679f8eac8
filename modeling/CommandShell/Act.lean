/-
# Computations that may fail

A computation changes a state and comes to a value or a failure.  What it did to
the state before it failed stays done, and one that catches the failure goes on
from there.  The lemmas say what each way of building a computation does to the
state it starts from, so that a computation can be followed step by step without
looking at how computations are represented.
-/

import CommandShell.Failure

namespace CommandShell

/-- A computation on a state. -/
abbrev Act (σ α : Type) := ExceptT Failure (StateM σ) α

namespace Act

variable {σ α β : Type}

/-- What a computation comes to from a state, and the state it leaves. -/
def perform (act : Act σ α) (state : σ) : Except Failure α × σ :=
  act.run.run state

@[simp] theorem perform_pure (value : α) (state : σ) :
    perform (pure value) state = (.ok value, state) := rfl

@[simp] theorem perform_throw (failure : Failure) (state : σ) :
    perform (throw failure : Act σ α) state = (.error failure, state) := rfl

@[simp] theorem perform_get (state : σ) :
    perform (get : Act σ σ) state = (.ok state, state) := rfl

@[simp] theorem perform_set (next state : σ) :
    perform (set next : Act σ PUnit) state = (.ok ⟨⟩, next) := rfl

@[simp] theorem perform_modify (change : σ → σ) (state : σ) :
    perform (modify change : Act σ PUnit) state = (.ok ⟨⟩, change state) := rfl

/-- A computation followed by another: a failure of the first ends both. -/
@[simp] theorem perform_bind (act : Act σ α) (next : α → Act σ β) (state : σ) :
    perform (act >>= next) state =
      match perform act state with
      | (.ok value, between) => perform (next value) between
      | (.error failure, between) => (.error failure, between) := by
  have step : perform (act >>= next) state =
      ExceptT.bindCont next (perform act state).1 (perform act state).2 := rfl
  rw [step]
  rcases perform act state with ⟨_ | _, _⟩ <;> rfl

@[simp] theorem perform_map (f : α → β) (act : Act σ α) (state : σ) :
    perform (f <$> act) state =
      match perform act state with
      | (.ok value, after) => (.ok (f value), after)
      | (.error failure, after) => (.error failure, after) := by
  rw [map_eq_pure_bind, perform_bind]
  rfl

@[simp] theorem perform_discard (act : Act σ α) (state : σ) :
    perform (discard act) state =
      match perform act state with
      | (.ok _, after) => (.ok ⟨⟩, after)
      | (.error failure, after) => (.error failure, after) := by
  rw [show discard act = (fun _ => PUnit.unit) <$> act from rfl, perform_map]

/-- A computation whose failure is caught goes on from the state it left. -/
@[simp] theorem perform_tryCatch (act : Act σ α) (recover : Failure → Act σ α) (state : σ) :
    perform (tryCatch act recover) state =
      match perform act state with
      | (.ok value, after) => (.ok value, after)
      | (.error failure, after) => perform (recover failure) after := by
  simp only [perform, ExceptT.run_tryCatch, StateT.run_bind]
  rcases (act.run.run state : Except Failure α × σ) with ⟨_ | _, _⟩ <;> rfl

/-- An answer that is known already. -/
@[simp] theorem perform_lift (answer : Except Failure α) (state : σ) :
    perform (liftM answer : Act σ α) state = (answer, state) := by
  cases answer <;> rfl

/-- A computation on one part of a state. -/
def zoom {τ : Type} (view : σ → τ) (put : τ → σ → σ) (act : Act τ α) : Act σ α :=
  ExceptT.mk fun state =>
    let (answer, part) := act.perform (view state)
    (answer, put part state)

/-- A computation on one part of a state changes nothing but that part. -/
@[simp] theorem perform_zoom {τ : Type} (view : σ → τ) (put : τ → σ → σ) (act : Act τ α)
    (state : σ) :
    perform (zoom view put act) state =
      ((act.perform (view state)).1, put (act.perform (view state)).2 state) := rfl

end Act

end CommandShell
