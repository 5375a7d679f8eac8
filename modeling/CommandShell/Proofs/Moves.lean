/-
# What computations keep

A computation that may fail is described by a relation between the state it
starts from and the state it leaves, whatever it comes to.  For a relation that is
reflexive and transitive such descriptions compose along the way computations
are built, so what every step keeps a whole computation keeps.  A computation
that succeeds is followed backwards instead: each of its parts has succeeded.  The
failures of a computation are bounded in the same way, part by part, and so is it shown
that a computation succeeds from every state of a kind.
-/

import Mathlib.Order.Defs.Unbundled
import CommandShell.Act

namespace CommandShell.Act

variable {σ τ α β : Type}

/-- From every state the computation leads to a related one, also if it fails. -/
def Moves (R : σ → σ → Prop) (act : Act σ α) : Prop :=
  ∀ state, R state (act.perform state).2

theorem Moves.mono {R S : σ → σ → Prop} {act : Act σ α} (h : Moves R act)
    (weaker : ∀ {s t}, R s t → S s t) : Moves S act := by
  intro state
  exact weaker (h state)

theorem Moves.of_perform {R : σ → σ → Prop} {act : Act σ α} (h : Moves R act) {state after : σ}
    {answer : Except Failure α} (performed : act.perform state = (answer, after)) :
    R state after := by
  have moved := h state
  rwa [performed] at moved

section Preorder

variable {R : σ → σ → Prop} [IsPreorder σ R]

@[simp]
theorem moves_pure (value : α) : Moves R (pure value : Act σ α) := by
  intro state
  exact refl state

@[simp]
theorem moves_throw (failure : Failure) : Moves R (throw failure : Act σ α) := by
  intro state
  exact refl state

@[simp]
theorem moves_get : Moves R (get : Act σ σ) := by
  intro state
  exact refl state

@[simp]
theorem moves_lift (answer : Except Failure α) : Moves R (liftM answer : Act σ α) := by
  intro state
  rw [perform_lift]
  exact refl state

omit [IsPreorder σ R] in
theorem moves_modify {change : σ → σ} (h : ∀ state, R state (change state)) :
    Moves R (modify change : Act σ PUnit) := by
  intro state
  exact h state

/-- A sequence from one state: its second part matters only where the first has
led. -/
theorem related_bind {act : Act σ α} {next : α → Act σ β} {state : σ}
    (first : R state (act.perform state).2)
    (second : ∀ value between, act.perform state = (.ok value, between) →
      R between ((next value).perform between).2) :
    R state ((act >>= next).perform state).2 := by
  rw [perform_bind]
  rcases hact : act.perform state with ⟨failure | value, between⟩ <;> rw [hact] at first
  · exact first
  · exact trans_of R first (second value between hact)

theorem Moves.bind {act : Act σ α} {next : α → Act σ β} (first : Moves R act)
    (second : ∀ value, Moves R (next value)) : Moves R (act >>= next) := by
  intro state
  exact related_bind (first state) fun value between _ => second value between

omit [IsPreorder σ R] in
theorem Moves.map {act : Act σ α} (f : α → β) (h : Moves R act) : Moves R (f <$> act) := by
  intro state
  have moved := h state
  rw [perform_map]
  rcases hact : act.perform state with ⟨failure | value, after⟩ <;> rwa [hact] at moved

omit [IsPreorder σ R] in
theorem Moves.discard {act : Act σ α} (h : Moves R act) : Moves R (Functor.discard act) :=
  h.map _

theorem Moves.tryCatch {act : Act σ α} {recover : Failure → Act σ α} (tried : Moves R act)
    (recovered : ∀ failure, Moves R (recover failure)) :
    Moves R (MonadExcept.tryCatch act recover) := by
  intro state
  rw [perform_tryCatch]
  have begun := tried state
  rcases hact : act.perform state with ⟨failure | value, between⟩ <;> rw [hact] at begun
  · exact trans_of R begun (recovered failure between)
  · exact begun

theorem moves_forM {f : α → Act σ PUnit} {list : List α} (h : ∀ value ∈ list, Moves R (f value)) :
    Moves R (list.forM f) := by
  induction list with
  | nil => exact moves_pure _
  | cons value rest ih =>
      have first : Moves R (f value) := h value (by simp)
      exact first.bind fun _ => ih fun other member => h other (by simp [member])

end Preorder

/-- A sequence of two computations that are described by different relations: what
the two come to together, and what the first comes to if it fails. -/
theorem Moves.seq {R S T : σ → σ → Prop} {act : Act σ α} {next : α → Act σ β}
    (first : Moves R act) (second : ∀ value, Moves S (next value))
    (compose : ∀ {a b c}, R a b → S b c → T a c) (stop : ∀ {a b}, R a b → T a b) :
    Moves T (act >>= next) := by
  intro state
  have begun := first state
  rw [perform_bind]
  rcases hact : act.perform state with ⟨failure | value, between⟩ <;> rw [hact] at begun
  · exact stop begun
  · exact compose begun (second value between)

theorem moves_zoom {R : σ → σ → Prop} {S : τ → τ → Prop} {view : σ → τ} {put : τ → σ → σ}
    {act : Act τ α} (h : Moves S act)
    (lifted : ∀ state part, S (view state) part → R state (put part state)) :
    Moves R (zoom view put act) := by
  intro state
  exact lifted state _ (h (view state))

theorem perform_bind_of_ok {act : Act σ α} {state between : σ} {value : α}
    (h : act.perform state = (.ok value, between)) (next : α → Act σ β) :
    (act >>= next).perform state = (next value).perform between := by
  rw [perform_bind, h]

theorem perform_bind_of_error {act : Act σ α} {state between : σ} {failure : Failure}
    (h : act.perform state = (.error failure, between)) (next : α → Act σ β) :
    (act >>= next).perform state = (.error failure, between) := by
  rw [perform_bind, h]

theorem exists_eq_ok {answer : Except Failure α} (h : answer.isOk = true) :
    ∃ value, answer = .ok value := by
  cases answer with
  | error failure => cases h
  | ok value => exact ⟨value, rfl⟩

theorem perform_eq_of_isOk {act : Act σ Unit} {state : σ}
    (h : (act.perform state).1.isOk = true) :
    act.perform state = (.ok (), (act.perform state).2) := by
  obtain ⟨_, succeeds⟩ := exists_eq_ok h
  exact Prod.ext succeeds rfl

/-- A sequence of two computations succeeds only if both do. -/
theorem perform_bind_eq_ok {act : Act σ α} {next : α → Act σ β} {state last : σ} {result : β}
    (h : (act >>= next).perform state = (.ok result, last)) :
    ∃ value between, act.perform state = (.ok value, between) ∧
      (next value).perform between = (.ok result, last) := by
  rw [perform_bind] at h
  rcases hact : act.perform state with ⟨failure | value, between⟩
  · rw [hact] at h
    cases h
  · rw [hact] at h
    exact ⟨value, between, rfl, h⟩

/-! ## What computations fail with -/

/-- The computation fails with failures of a kind only. -/
def FailsOnly (kind : Failure → Prop) (act : Act σ α) : Prop :=
  ∀ state failure after, act.perform state = (.error failure, after) → kind failure

/-- The computation fails only with failures that a conversation survives. -/
abbrev Survivable (act : Act σ α) : Prop :=
  FailsOnly (·.isOrdinary = true) act

section Kind

variable {kind : Failure → Prop}

theorem failsOnly_lift {answer : Except Failure α}
    (h : ∀ failure, answer = .error failure → kind failure) :
    FailsOnly kind (liftM answer : Act σ α) := by
  intro state failure after failed
  rw [perform_lift] at failed
  exact h failure (congrArg Prod.fst failed)

theorem failsOnly_pure (value : α) : FailsOnly kind (pure value : Act σ α) := by
  rintro state failure after ⟨⟩

theorem failsOnly_get : FailsOnly kind (get : Act σ σ) := by
  rintro state failure after ⟨⟩

theorem failsOnly_set (next : σ) : FailsOnly kind (set next : Act σ PUnit) := by
  rintro state failure after ⟨⟩

theorem FailsOnly.bind {act : Act σ α} {next : α → Act σ β} (first : FailsOnly kind act)
    (second : ∀ value, FailsOnly kind (next value)) : FailsOnly kind (act >>= next) := by
  intro state failure after failed
  rw [perform_bind] at failed
  rcases hact : act.perform state with ⟨obstacle | value, between⟩ <;> rw [hact] at failed
  · cases failed
    exact first _ _ _ hact
  · exact second value _ _ _ failed

theorem failsOnly_throw {failure : Failure} (h : kind failure) :
    FailsOnly kind (throw failure : Act σ α) := by
  rintro state _ after ⟨⟩
  exact h

theorem failsOnly_modify (change : σ → σ) :
    FailsOnly kind (modify change : Act σ PUnit) := by
  rintro state failure after ⟨⟩

theorem FailsOnly.map {act : Act σ α} (f : α → β) (h : FailsOnly kind act) :
    FailsOnly kind (f <$> act) := by
  rw [map_eq_pure_bind]
  exact h.bind fun _ => failsOnly_pure _

/-- What is caught does not count. -/
theorem FailsOnly.tryCatch {raised : Failure → Prop} {act : Act σ α}
    {recover : Failure → Act σ α} (tried : FailsOnly raised act)
    (recovered : ∀ failure, raised failure → FailsOnly kind (recover failure)) :
    FailsOnly kind (MonadExcept.tryCatch act recover) := by
  intro state failure after failed
  rw [perform_tryCatch] at failed
  rcases hact : act.perform state with ⟨obstacle | value, between⟩ <;> rw [hact] at failed
  · exact recovered obstacle (tried _ _ _ hact) _ _ _ failed
  · cases failed

end Kind

/-! ## What computations succeed from -/

/-- From every state of a kind the computation comes to a value, and to a state of that
kind again. -/
def Succeeds (kind : σ → Prop) (act : Act σ α) : Prop :=
  ∀ state, kind state → ∃ value after, act.perform state = (.ok value, after) ∧ kind after

section Succeeding

variable {kind : σ → Prop}

theorem succeeds_pure (value : α) : Succeeds kind (pure value : Act σ α) := by
  intro state ofKind
  exact ⟨value, state, rfl, ofKind⟩

theorem succeeds_modify {change : σ → σ} (h : ∀ state, kind state → kind (change state)) :
    Succeeds kind (modify change : Act σ PUnit) := by
  intro state ofKind
  exact ⟨⟨⟩, change state, rfl, h state ofKind⟩

theorem Succeeds.bind {act : Act σ α} {next : α → Act σ β} (first : Succeeds kind act)
    (second : ∀ value, Succeeds kind (next value)) : Succeeds kind (act >>= next) := by
  intro state ofKind
  obtain ⟨value, between, succeeds, stillOfKind⟩ := first state ofKind
  rw [perform_bind_of_ok succeeds]
  exact second value between stillOfKind

/-- Nothing is left to recover from. -/
theorem Succeeds.tryCatch {act : Act σ α} (recover : Failure → Act σ α)
    (succeeds : Succeeds kind act) : Succeeds kind (MonadExcept.tryCatch act recover) := by
  intro state ofKind
  obtain ⟨value, after, performed, stillOfKind⟩ := succeeds state ofKind
  exact ⟨value, after, by rw [perform_tryCatch, performed], stillOfKind⟩

/-- What is made of a look at the state need only succeed for states of the kind. -/
theorem succeeds_get_bind {next : σ → Act σ β}
    (h : ∀ state, kind state → Succeeds kind (next state)) :
    Succeeds kind (get >>= next) := by
  intro state ofKind
  rw [perform_bind_of_ok (perform_get state)]
  exact h state ofKind state ofKind

end Succeeding

end CommandShell.Act
