import Mathlib.Data.Option.Basic

/-!
# Stateful actions that may fail

An action reads and writes a state and returns a value or an error.  The state
reached before an error is kept, as it is in a program without transactions.
-/

namespace PyWorkflowKit.Core

structure Action (ε σ α : Type) where
  run : σ → Except ε α × σ

namespace Action

variable {ε σ α β : Type}

protected def pure (value : α) : Action ε σ α := ⟨fun state => (.ok value, state)⟩

protected def bind (first : Action ε σ α) (next : α → Action ε σ β) :
    Action ε σ β :=
  ⟨fun state =>
    match first.run state with
    | (.ok value, after) => (next value).run after
    | (.error error, after) => (.error error, after)⟩

instance : Monad (Action ε σ) where
  pure := Action.pure
  bind := Action.bind

def raise (error : ε) : Action ε σ α := ⟨fun state => (.error error, state)⟩

def get : Action ε σ σ := ⟨fun state => (.ok state, state)⟩

def modify (update : σ → σ) : Action ε σ Unit :=
  ⟨fun state => (.ok (), update state)⟩

/-- Query the state. -/
def read (query : σ → α) : Action ε σ α := ⟨fun state => (.ok (query state), state)⟩

/-- A query of the state that may fail. -/
def readExcept (query : σ → Except ε α) : Action ε σ α :=
  ⟨fun state => (query state, state)⟩

/-- Run a computation that does not touch the state. -/
def ofExcept (result : Except ε α) : Action ε σ α := ⟨fun state => (result, state)⟩

/-- Fail with `error` when `condition` does not hold. -/
def require (condition : Prop) [Decidable condition] (error : ε) :
    Action ε σ Unit :=
  if condition then Action.pure () else raise error

/-- Handle the errors that `handler` accepts; the others propagate. -/
def catchWith (action : Action ε σ α) (handler : ε → Option (Action ε σ α)) :
    Action ε σ α :=
  ⟨fun state =>
    match action.run state with
    | (.ok value, after) => (.ok value, after)
    | (.error error, after) =>
        match handler error with
        | some recovery => recovery.run after
        | none => (.error error, after)⟩

/-- The action as one transaction: a failure restores the state. -/
def transaction (action : Action ε σ α) : Action ε σ α :=
  ⟨fun state =>
    match action.run state with
    | (.ok value, after) => (.ok value, after)
    | (.error error, _) => (.error error, state)⟩

section Runs

variable {state after : σ} {value : α} {error : ε}

@[simp]
theorem run_pure (value : α) (state : σ) :
    (pure value : Action ε σ α).run state = (.ok value, state) := rfl

@[simp]
theorem run_raise (error : ε) (state : σ) :
    (raise error : Action ε σ α).run state = (.error error, state) := rfl

@[simp]
theorem run_get (state : σ) :
    (get : Action ε σ σ).run state = (.ok state, state) := rfl

@[simp]
theorem run_modify (update : σ → σ) (state : σ) :
    (modify update : Action ε σ Unit).run state = (.ok (), update state) := rfl

@[simp]
theorem run_read (query : σ → α) (state : σ) :
    (read query : Action ε σ α).run state = (.ok (query state), state) := rfl

@[simp]
theorem run_readExcept (query : σ → Except ε α) (state : σ) :
    (readExcept query).run state = (query state, state) := rfl

@[simp]
theorem run_ofExcept (result : Except ε α) (state : σ) :
    (ofExcept result).run state = (result, state) := rfl

theorem run_bind (first : Action ε σ α) (next : α → Action ε σ β) (state : σ) :
    (first >>= next).run state =
      match first.run state with
      | (.ok value, after) => (next value).run after
      | (.error error, after) => (.error error, after) := rfl

theorem run_bind_of_ok {first : Action ε σ α}
    (hfirst : first.run state = (.ok value, after)) (next : α → Action ε σ β) :
    (first >>= next).run state = (next value).run after := by
  rw [run_bind, hfirst]

theorem run_bind_of_error {first : Action ε σ α}
    (hfirst : first.run state = (.error error, after)) (next : α → Action ε σ β) :
    (first >>= next).run state = (.error error, after) := by
  rw [run_bind, hfirst]

theorem run_require_of {condition : Prop} [Decidable condition]
    (hcondition : condition) (error : ε) (state : σ) :
    (require condition error).run state = (.ok (), state) := by
  rw [require, if_pos hcondition]
  rfl

theorem run_require_of_not {condition : Prop} [Decidable condition]
    (hcondition : ¬ condition) (error : ε) (state : σ) :
    (require condition error : Action ε σ Unit).run state =
      (.error error, state) := by
  rw [require, if_neg hcondition]
  rfl

theorem run_transaction_of_ok {action : Action ε σ α}
    (haction : action.run state = (.ok value, after)) :
    action.transaction.run state = (.ok value, after) := by
  simp only [transaction, haction]

theorem run_transaction_of_error {action : Action ε σ α}
    (haction : action.run state = (.error error, after)) :
    action.transaction.run state = (.error error, state) := by
  simp only [transaction, haction]

/-- A transaction has the result of its body. -/
theorem run_transaction_fst (action : Action ε σ α) (state : σ) :
    (action.transaction.run state).1 = (action.run state).1 := by
  cases haction : action.run state with
  | mk result after =>
      cases result with
      | ok value => rw [run_transaction_of_ok haction]
      | error error => rw [run_transaction_of_error haction]

/-- A successful composite passed through a successful first action. -/
theorem run_bind_eq_ok {first : Action ε σ α} {next : α → Action ε σ β}
    {result : β} (hbind : (first >>= next).run state = (.ok result, after)) :
    ∃ middle between, first.run state = (.ok middle, between) ∧
      (next middle).run between = (.ok result, after) := by
  rw [run_bind] at hbind
  cases hfirst : first.run state with
  | mk outcome between =>
      cases outcome with
      | ok middle =>
          rw [hfirst] at hbind
          exact ⟨middle, between, rfl, hbind⟩
      | error error =>
          rw [hfirst] at hbind
          cases hbind

/-- A composite failed in its first action or in its second. -/
theorem run_bind_eq_error {first : Action ε σ α} {next : α → Action ε σ β}
    (hbind : (first >>= next).run state = (.error error, after)) :
    first.run state = (.error error, after) ∨
      ∃ middle between, first.run state = (.ok middle, between) ∧
        (next middle).run between = (.error error, after) := by
  rw [run_bind] at hbind
  cases hfirst : first.run state with
  | mk outcome between =>
      cases outcome with
      | ok middle =>
          rw [hfirst] at hbind
          exact Or.inr ⟨middle, between, rfl, hbind⟩
      | error thrown =>
          rw [hfirst] at hbind
          cases hbind
          exact Or.inl rfl

theorem run_require_eq_ok {condition : Prop} [Decidable condition] {result : Unit}
    (hrun : (require condition error).run state = (.ok result, after)) :
    condition ∧ after = state := by
  by_cases hcondition : condition
  · rw [run_require_of hcondition] at hrun
    cases hrun
    exact ⟨hcondition, rfl⟩
  · rw [run_require_of_not hcondition] at hrun
    cases hrun

theorem run_require_eq_error {condition : Prop} [Decidable condition] {thrown : ε}
    (hrun : (require condition error).run state = (.error thrown, after)) :
    ¬ condition ∧ thrown = error ∧ after = state := by
  by_cases hcondition : condition
  · rw [run_require_of hcondition] at hrun
    cases hrun
  · rw [run_require_of_not hcondition] at hrun
    cases hrun
    exact ⟨hcondition, rfl, rfl⟩

end Runs

/-- Every error that the action can raise satisfies `allowed`. -/
def OnlyRaises (allowed : ε → Prop) (action : Action ε σ α) : Prop :=
  ∀ state error after, action.run state = (.error error, after) → allowed error

section Errors

variable {allowed : ε → Prop}

theorem OnlyRaises.fst_ne_error {action : Action ε σ α} {error : ε}
    (haction : OnlyRaises (· ≠ error) action) (state : σ) :
    (action.run state).1 ≠ .error error := by
  intro hfst
  cases hrun : action.run state with
  | mk outcome after =>
      rw [hrun] at hfst
      subst hfst
      exact haction state error after hrun rfl

theorem onlyRaises_pure (value : α) :
    OnlyRaises allowed (pure value : Action ε σ α) := by
  intro state error after hrun
  cases hrun

theorem onlyRaises_modify (update : σ → σ) :
    OnlyRaises allowed (modify update : Action ε σ Unit) := by
  intro state error after hrun
  cases hrun

theorem onlyRaises_raise {error : ε} (herror : allowed error) :
    OnlyRaises allowed (raise error : Action ε σ α) := by
  intro state thrown after hrun
  cases hrun
  exact herror

theorem onlyRaises_require {condition : Prop} [Decidable condition] {error : ε}
    (herror : allowed error) :
    OnlyRaises allowed (require condition error : Action ε σ Unit) := by
  intro state thrown after hrun
  rw [(run_require_eq_error hrun).2.1]
  exact herror

theorem OnlyRaises.bind {first : Action ε σ α} {next : α → Action ε σ β}
    (hfirst : OnlyRaises allowed first)
    (hnext : ∀ value, OnlyRaises allowed (next value)) :
    OnlyRaises allowed (first >>= next) := by
  intro state error after hrun
  rcases run_bind_eq_error hrun with hfail | ⟨middle, between, -, hfail⟩
  · exact hfirst state error after hfail
  · exact hnext middle between error after hfail

end Errors

end Action

end PyWorkflowKit.Core
