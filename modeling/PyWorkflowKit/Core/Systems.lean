import Mathlib.Data.List.Basic

/-!
# Systems of steps

A system that moves by labelled steps, what holds in every state it reaches, and how the
runs of one system are runs of another that says less.
-/

namespace PyWorkflowKit.Core

variable {σ ι τ κ : Type}

/-- Where a system starts, and where a label takes it, if it may move under that label. -/
structure System (σ ι : Type) where
  start : σ
  step : σ → ι → Option σ

namespace System

variable {system : System σ ι}

/-- The state after the labels in order. -/
def run (system : System σ ι) : σ → List ι → Option σ
  | state, [] => some state
  | state, label :: rest => (system.step state label).bind fun next => system.run next rest

def Reaches (system : System σ ι) (state : σ) : Prop :=
  ∃ labels, system.run system.start labels = some state

theorem run_append (state : σ) (labels others : List ι) :
    system.run state (labels ++ others) =
      (system.run state labels).bind fun next => system.run next others := by
  induction labels generalizing state with
  | nil => rfl
  | cons label rest ih =>
      rw [List.cons_append, run, run, Option.bind_assoc]
      congr 1
      funext next
      exact ih next

theorem Reaches.start : system.Reaches system.start := ⟨[], rfl⟩

theorem Reaches.step {state next : σ} {label : ι} (hreaches : system.Reaches state)
    (hstep : system.step state label = some next) : system.Reaches next := by
  obtain ⟨labels, hrun⟩ := hreaches
  refine ⟨labels ++ [label], ?_⟩
  rw [run_append, hrun]
  simp [run, hstep]

/-- What a run keeps. -/
theorem run_keeps {kept : σ → Prop}
    (hstep : ∀ state label next, kept state → system.step state label = some next → kept next)
    {state after : σ} {labels : List ι} (hrun : system.run state labels = some after)
    (hstart : kept state) : kept after := by
  induction labels generalizing state with
  | nil =>
      cases hrun
      exact hstart
  | cons label rest ih =>
      obtain ⟨next, hnext, hrest⟩ := Option.bind_eq_some_iff.mp hrun
      exact ih hrest (hstep state label next hstart hnext)

/-- What holds at the start and is kept by every step holds in every state reached. -/
theorem Reaches.invariant {kept : σ → Prop} (hstart : kept system.start)
    (hstep : ∀ state label next, kept state → system.step state label = some next → kept next)
    {state : σ} (hreaches : system.Reaches state) : kept state := by
  obtain ⟨labels, hrun⟩ := hreaches
  exact run_keeps hstep hrun hstart

/-- A relation that every step keeps relates the ends of every run. -/
theorem run_relates {related : σ → σ → Prop} (hrefl : ∀ state, related state state)
    (htrans : ∀ first second third, related first second → related second third →
      related first third)
    (hstep : ∀ state label next, system.Reaches state →
      system.step state label = some next → related state next)
    {state after : σ} {labels : List ι} (hreaches : system.Reaches state)
    (hrun : system.run state labels = some after) : related state after := by
  induction labels generalizing state with
  | nil =>
      cases hrun
      exact hrefl _
  | cons label rest ih =>
      obtain ⟨next, hnext, hrest⟩ := Option.bind_eq_some_iff.mp hrun
      exact htrans _ _ _ (hstep state label next hreaches hnext)
        (ih (hreaches.step hnext) hrest)

end System

/-- On states that satisfy `kept`, every step of the system shows as a step of the abstract
system, or as none. -/
structure Refines (system : System σ ι) (abstract : System τ κ) (kept : σ → Prop)
    (view : σ → τ) (shown : σ → ι → Option κ) : Prop where
  start : view system.start = abstract.start
  steps : ∀ state label next, kept state → system.step state label = some next →
    ∀ shows, shown state label = some shows → abstract.step (view state) shows = some (view next)
  silent : ∀ state label next, kept state → system.step state label = some next →
    shown state label = none → view next = view state

namespace Refines

variable {system : System σ ι} {abstract : System τ κ} {kept : σ → Prop} {view : σ → τ}
  {shown : σ → ι → Option κ}

/-- Every state reached is viewed as a state that the abstract system reaches. -/
theorem reaches (hrefines : Refines system abstract kept view shown)
    (hkept : ∀ state, system.Reaches state → kept state) {state : σ}
    (hreaches : system.Reaches state) : abstract.Reaches (view state) := by
  have hboth : system.Reaches state ∧ abstract.Reaches (view state) := by
    apply System.Reaches.invariant _ _ hreaches
    · refine ⟨.start, ?_⟩
      rw [hrefines.start]
      exact .start
    · rintro state label next ⟨hstate, hview⟩ hstep
      refine ⟨hstate.step hstep, ?_⟩
      cases hshown : shown state label with
      | none =>
          rw [hrefines.silent state label next (hkept state hstate) hstep hshown]
          exact hview
      | some shows =>
          exact hview.step
            (hrefines.steps state label next (hkept state hstate) hstep shows hshown)
  exact hboth.2

end Refines

end PyWorkflowKit.Core
