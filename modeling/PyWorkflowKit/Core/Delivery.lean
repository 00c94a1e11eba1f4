import Mathlib.Data.List.Nodup
import Mathlib.Data.List.Perm.Lattice
import PyWorkflowKit.Core.Systems

/-!
# Delivering outcomes

A desk accepts submissions until it is closed, and delivers one outcome for each. Whatever
refines it loses no submission and delivers none twice.
-/

namespace PyWorkflowKit.Core

variable {η ο : Type} [DecidableEq η]

/-- The submissions accepted and the outcomes delivered, in order. -/
structure Desk (η ο : Type) where
  accepted : List η
  delivered : List (η × ο)
  closed : Bool

/-- What happens at a desk. -/
inductive Deal (η ο : Type) where
  | accept (submission : η)
  | deliver (submission : η) (outcome : ο)
  | close

namespace Desk

/-- The submissions that an outcome has been delivered for. -/
def settled (desk : Desk η ο) : List η := desk.delivered.map Prod.fst

/-- The submissions that wait for their outcome. -/
def outstanding (desk : Desk η ο) : List η :=
  desk.accepted.filter fun submission => submission ∉ desk.settled

def move (desk : Desk η ο) : Deal η ο → Option (Desk η ο)
  | .accept submission =>
      if desk.closed = true ∨ submission ∈ desk.accepted then none
      else some { desk with accepted := desk.accepted ++ [submission] }
  | .deliver submission outcome =>
      if submission ∈ desk.accepted ∧ submission ∉ desk.settled then
        some { desk with delivered := desk.delivered ++ [(submission, outcome)] }
      else none
  | .close => some { desk with closed := true }

/-- A desk that opens empty. -/
def system (η ο : Type) [DecidableEq η] : System (Desk η ο) (Deal η ο) where
  start := ⟨[], [], false⟩
  step := move

/-- No submission is accepted twice, and none is settled twice or unasked. -/
structure Sound (desk : Desk η ο) : Prop where
  accepted : desk.accepted.Nodup
  settled : desk.settled.Nodup
  asked : desk.settled ⊆ desk.accepted

theorem Sound.move {desk next : Desk η ο} {deal : Deal η ο} (hsound : desk.Sound)
    (hmove : desk.move deal = some next) : next.Sound := by
  cases deal with
  | accept submission =>
      rw [Desk.move] at hmove
      split at hmove
      · cases hmove
      · next hopen =>
        cases hmove
        have hnew : submission ∉ desk.accepted := fun hmem => hopen (Or.inr hmem)
        constructor
        · apply List.nodup_append.mpr ⟨hsound.accepted, List.nodup_singleton _, _⟩
          intro other hother value hvalue heq
          rw [heq, List.mem_singleton.mp hvalue] at hother
          exact hnew hother
        · exact hsound.settled
        · exact fun other hother => List.mem_append_left _ (hsound.asked hother)
  | deliver submission outcome =>
      rw [Desk.move] at hmove
      split at hmove
      · next hwaits =>
        cases hmove
        constructor
        · exact hsound.accepted
        · rw [Desk.settled, List.map_append]
          apply List.nodup_append.mpr ⟨hsound.settled, List.nodup_singleton _, _⟩
          intro other hother value hvalue heq
          rw [heq, List.mem_singleton.mp hvalue] at hother
          exact hwaits.2 hother
        · intro other hother
          rw [Desk.settled, List.map_append] at hother
          rcases List.mem_append.mp hother with hbefore | hnow
          · exact hsound.asked hbefore
          · rw [List.mem_singleton.mp hnow]
            exact hwaits.1
      · cases hmove
  | close =>
      cases hmove
      exact ⟨hsound.accepted, hsound.settled, hsound.asked⟩

theorem sound_of_reaches {desk : Desk η ο} (hreaches : (system η ο).Reaches desk) :
    desk.Sound := by
  apply System.Reaches.invariant _ _ hreaches
  · exact ⟨List.nodup_nil, List.nodup_nil, List.nil_subset _⟩
  · intro state label next hsound hstep
    exact hsound.move hstep

/-- Every accepted submission is settled or outstanding. -/
theorem Sound.perm {desk : Desk η ο} (hsound : desk.Sound) :
    List.Perm desk.accepted (desk.settled ++ desk.outstanding) := by
  apply (List.perm_ext_iff_of_nodup hsound.accepted _).mpr
  · intro submission
    rw [List.mem_append]
    change _ ↔ _ ∨ submission ∈ desk.accepted.filter _
    rw [List.mem_filter, decide_eq_true_eq]
    constructor
    · intro haccepted
      by_cases hsettled : submission ∈ desk.settled
      · exact Or.inl hsettled
      · exact Or.inr ⟨haccepted, hsettled⟩
    · rintro (hsettled | ⟨haccepted, -⟩)
      · exact hsound.asked hsettled
      · exact haccepted
  · apply List.nodup_append.mpr ⟨hsound.settled, hsound.accepted.filter _, _⟩
    intro submission hsettled other hother heq
    have hwaits := of_decide_eq_true (List.mem_filter.mp hother).2
    exact hwaits (heq ▸ hsettled)

/-- Where nothing is outstanding every submission has exactly one outcome. -/
theorem Sound.perm_settled {desk : Desk η ο} (hsound : desk.Sound)
    (hnone : desk.outstanding = []) : List.Perm desk.accepted desk.settled := by
  have hperm := hsound.perm
  rwa [hnone, List.append_nil] at hperm

end Desk

end PyWorkflowKit.Core
