import Mathlib.Data.List.Basic

/-!
# Spans

A span starts and ends at marks of a log.  Every end of an open span yields one duration;
an end without a start yields none.
-/

namespace PyWorkflowKit.Core

/-- What an entry of a log does to the span of a key. -/
inductive Mark where
  | starts
  | ends
deriving DecidableEq, Repr

/-- How far a span has come. -/
structure Span where
  started : Bool
  isOpen : Bool
  durations : Nat
deriving DecidableEq, Repr

namespace Span

/-- A span that has not started. -/
def idle : Span := ⟨false, false, 0⟩

/-- A span that has started and not ended. -/
def underway : Span := ⟨true, true, 0⟩

/-- A span that has started and ended once. -/
def finished : Span := ⟨true, false, 1⟩

def advance (span : Span) : Mark → Span
  | .starts => { span with started := true, isOpen := true }
  | .ends => {
      span with
      isOpen := false
      durations := if span.isOpen then span.durations + 1 else span.durations }

/-- The span that some marks leave. -/
def follow (span : Span) (marks : List Mark) : Span := marks.foldl advance span

/-- A span that is not open, and that yielded one duration if it has started. -/
structure Balanced (span : Span) : Prop where
  closed : span.isOpen = false
  measured : span.started = true → span.durations = 1

variable {span : Span}

@[simp]
theorem follow_nil (span : Span) : span.follow [] = span := rfl

@[simp]
theorem follow_cons (span : Span) (mark : Mark) (marks : List Mark) :
    span.follow (mark :: marks) = (span.advance mark).follow marks := rfl

theorem follow_append (span : Span) (first second : List Mark) :
    span.follow (first ++ second) = (span.follow first).follow second := by
  rw [follow, follow, follow, List.foldl_append]

theorem started_follow (span : Span) (marks : List Mark) :
    (span.follow marks).started = true ↔ span.started = true ∨ .starts ∈ marks := by
  induction marks generalizing span with
  | nil => simp
  | cons mark rest ih =>
      rw [follow_cons, ih]
      cases mark <;> simp [advance]

theorem balanced_idle : idle.Balanced := ⟨rfl, by decide⟩

theorem balanced_finished : finished.Balanced := ⟨rfl, fun _ => rfl⟩

theorem not_balanced_of_open (hopen : span.isOpen = true) : ¬span.Balanced := fun hbalanced => by
  rw [hbalanced.closed] at hopen
  cases hopen

end Span

end PyWorkflowKit.Core
