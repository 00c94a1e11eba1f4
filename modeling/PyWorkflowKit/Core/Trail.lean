import Mathlib.Data.List.Basic
import Mathlib.Logic.Function.Basic

/-!
# Trails of recorded steps

A log records for each of many subjects the steps between its values.  The
records of one subject form a trail when every step starts where the step before
it ended.  A log is complete for a family of current values when every subject
has a trail from nothing, through its initial value, to its current value.
-/

namespace PyWorkflowKit.Core

/-- A recorded step of a subject; a first step comes from nothing. -/
structure Step (S V : Type) where
  subject : S
  source : Option V
  target : V

namespace Step

variable {S V : Type} [DecidableEq S]

/-- The steps of one subject in the order of the log. -/
def of (subject : S) (log : List (Step S V)) : List (Step S V) :=
  log.filter fun step => step.subject = subject

/-- Every step starts where the one before it ended. -/
def Follows (start : Option V) : List (Step S V) → Option V → Prop
  | [], last => start = last
  | step :: rest, last => step.source = start ∧ Follows (some step.target) rest last

/-- The steps lead from nothing through `initial` to the value `last`. -/
structure Trail (initial : V) (steps : List (Step S V)) (last : V) : Prop where
  follows : Follows none steps (some last)
  starts : ∀ step ∈ steps.head?, step.target = initial

/-- The log explains the current value of every subject. -/
structure Complete (initial : V) (log : List (Step S V)) (current : S → Option V) :
    Prop where
  trail : ∀ subject last, current subject = some last →
    Trail initial (of subject log) last
  absent : ∀ subject, current subject = none → of subject log = []

omit [DecidableEq S] in
theorem follows_append (start last : Option V) (steps : List (Step S V))
    (step : Step S V) (hsteps : Follows start steps step.source)
    (hlast : last = some step.target) : Follows start (steps ++ [step]) last := by
  induction steps generalizing start with
  | nil => exact ⟨hsteps.symm, hlast.symm⟩
  | cons first rest ih => exact ⟨hsteps.1, ih _ hsteps.2⟩

theorem of_append_self (log : List (Step S V)) (step : Step S V) :
    of step.subject (log ++ [step]) = of step.subject log ++ [step] := by
  simp [of]

theorem of_append_of_ne (log : List (Step S V)) {step : Step S V} {subject : S}
    (hne : step.subject ≠ subject) : of subject (log ++ [step]) = of subject log := by
  simp [of, hne]

theorem of_filter (log : List (Step S V)) (keep : S → Bool) (subject : S) :
    of subject (log.filter fun step => keep step.subject) =
      if keep subject then of subject log else [] := by
  unfold of
  rw [List.filter_filter]
  by_cases hkeep : keep subject = true
  · rw [if_pos hkeep]
    apply List.filter_congr
    intro step hstep
    by_cases hsubject : step.subject = subject
    · simp [hsubject, hkeep]
    · simp [hsubject]
  · rw [if_neg hkeep, List.filter_eq_nil_iff]
    intro step hstep
    by_cases hsubject : step.subject = subject
    · simp [hsubject, hkeep]
    · simp [hsubject]

variable {initial : V} {log : List (Step S V)} {current : S → Option V}

theorem complete_nil : Complete initial ([] : List (Step S V)) fun _ => none where
  trail subject last hcurrent := by simp at hcurrent
  absent subject hcurrent := rfl

/-- Recording the next step of a subject keeps the log complete. -/
theorem Complete.append (hcomplete : Complete initial log current) (step : Step S V)
    (hsource : step.source = current step.subject)
    (hfirst : current step.subject = none → step.target = initial) :
    Complete initial (log ++ [step])
      (Function.update current step.subject (some step.target)) where
  trail subject last hlast := by
    by_cases hsubject : step.subject = subject
    · subst hsubject
      rw [Function.update_self] at hlast
      cases hlast
      rw [of_append_self]
      cases hcurrent : current step.subject with
      | none =>
          rw [hcomplete.absent _ hcurrent]
          refine ⟨⟨hsource.trans hcurrent, rfl⟩, ?_⟩
          intro first hmem
          cases hmem
          exact hfirst hcurrent
      | some before =>
          have htrail := hcomplete.trail _ _ hcurrent
          constructor
          · apply follows_append
            · rw [hsource, hcurrent]
              exact htrail.follows
            · rfl
          · intro first hmem
            apply htrail.starts
            cases hsteps : of step.subject log with
            | nil =>
                have hfollows := htrail.follows
                rw [hsteps] at hfollows
                cases hfollows
            | cons head rest =>
                rw [hsteps] at hmem
                exact hmem
    · rw [Function.update_of_ne (Ne.symm hsubject)] at hlast
      rw [of_append_of_ne _ hsubject]
      exact hcomplete.trail _ _ hlast
  absent subject hnone := by
    have hsubject : step.subject ≠ subject := by
      rintro rfl
      simp at hnone
    rw [Function.update_of_ne (Ne.symm hsubject)] at hnone
    rw [of_append_of_ne _ hsubject]
    exact hcomplete.absent _ hnone

/-- Forgetting subjects together with their steps keeps the log complete. -/
theorem Complete.filter (hcomplete : Complete initial log current) (keep : S → Bool) :
    Complete initial (log.filter fun step => keep step.subject)
      fun subject => if keep subject then current subject else none where
  trail subject last hlast := by
    by_cases hkeep : keep subject = true
    · rw [of_filter, if_pos hkeep]
      rw [if_pos hkeep] at hlast
      exact hcomplete.trail _ _ hlast
    · rw [if_neg hkeep] at hlast
      cases hlast
  absent subject hnone := by
    by_cases hkeep : keep subject = true
    · rw [of_filter, if_pos hkeep]
      rw [if_pos hkeep] at hnone
      exact hcomplete.absent _ hnone
    · rw [of_filter, if_neg hkeep]

end Step

end PyWorkflowKit.Core
