import PyWorkflowKit.Core.Search
import PyWorkflowKit.Planning.Plan
import PyWorkflowKit.States.Status

/-!
# Task readiness

Whether the statuses of its dependencies let a task run, and which tasks depend
on a failed one.
-/

namespace PyWorkflowKit.Runtime

open PyWorkflowKit.Core PyWorkflowKit.Domain PyWorkflowKit.States
open PyWorkflowKit.Policies PyWorkflowKit.Planning

/-- `_ReadinessDecision`. -/
structure ReadinessDecision where
  ready : Bool
  skipReason : Option SkipReason
deriving DecidableEq, Repr

/-- The trigger rule accepts the statuses of the dependencies. -/
def allowedBy (rule : TriggerRule) (upstream : List TaskRunStatus) : Bool :=
  match rule with
  | .always => true
  | .allSuccess =>
      upstream.all fun status => status = .succeeded || status = .reused
  | .allDone => true
  | .anySuccess =>
      upstream.any fun status => status = .succeeded || status = .reused
  | .anyFailed => upstream.any fun status => status = .failed || status = .timedOut
  | .noneFailed =>
      !upstream.any fun status => status = .failed || status = .timedOut

/-- The decision on the statuses of the dependencies. -/
def decideReadiness (rule : TriggerRule) (upstream : List TaskRunStatus) :
    ReadinessDecision :=
  if ¬ upstream.all TaskRunStatus.isTerminal then ⟨false, none⟩
  else if allowedBy rule upstream then ⟨true, none⟩
  else ⟨false, some .triggerRuleUnsatisfied⟩

/-- `evaluate_readiness`. -/
def evaluateReadiness (entry : TaskPlanEntry) (statuses : Text → Option TaskRunStatus) :
    Except PyError ReadinessDecision := do
  let upstream ← gather (entry.dependencies.map fun key =>
    match statuses key with
    | some status => .ok status
    | none => .error (.keyError key.value))
  .ok (decideReadiness entry.triggerRule upstream)

/-- The decision rests on the statuses of the dependencies. -/
theorem evaluateReadiness_eq_ok {entry : TaskPlanEntry}
    {statuses : Text → Option TaskRunStatus} {upstream : List TaskRunStatus}
    (hupstream : entry.dependencies.map statuses = upstream.map some) :
    evaluateReadiness entry statuses = .ok (decideReadiness entry.triggerRule upstream) := by
  have hfound : List.Forall₂ (fun key status => statuses key = some status)
      entry.dependencies upstream := by
    rw [← List.forall₂_eq_eq_eq, List.forall₂_map_left_iff,
      List.forall₂_map_right_iff] at hupstream
    exact hupstream
  unfold evaluateReadiness
  rw [gather_map_eq_ok (hfound.imp fun key status hstatus => by rw [hstatus])]
  rfl

/-- Only a dependency without a status keeps the decision from being made. -/
theorem evaluateReadiness_eq_error {entry : TaskPlanEntry}
    {statuses : Text → Option TaskRunStatus} {error : PyError}
    (herror : evaluateReadiness entry statuses = .error error) :
    ∃ key ∈ entry.dependencies, statuses key = none ∧ error = .keyError key.value := by
  unfold evaluateReadiness at herror
  cases hgather : gather (entry.dependencies.map fun key =>
    match statuses key with
    | some status => .ok status
    | none => .error (.keyError key.value)) with
  | ok upstream =>
      rw [hgather] at herror
      cases herror
  | error thrown =>
      rw [hgather] at herror
      cases herror
      obtain ⟨key, hkey, heq⟩ := List.mem_map.mp (gather_eq_error hgather)
      cases hstatus : statuses key with
      | some status =>
          rw [hstatus] at heq
          cases heq
      | none =>
          rw [hstatus] at heq
          cases heq
          exact ⟨key, hkey, hstatus, rfl⟩

/-- What a decision was made on. -/
theorem of_evaluateReadiness {entry : TaskPlanEntry}
    {statuses : Text → Option TaskRunStatus} {decision : ReadinessDecision}
    (hdecision : evaluateReadiness entry statuses = .ok decision) :
    ∃ upstream : List TaskRunStatus, entry.dependencies.map statuses = upstream.map some ∧
      decision = decideReadiness entry.triggerRule upstream := by
  unfold evaluateReadiness at hdecision
  cases hgather : gather (entry.dependencies.map fun key =>
    match statuses key with
    | some status => .ok status
    | none => .error (.keyError key.value)) with
  | error thrown =>
      rw [hgather] at hdecision
      cases hdecision
  | ok upstream =>
      rw [hgather] at hdecision
      cases hdecision
      refine ⟨upstream, ?_, rfl⟩
      have hfound := forall₂_of_gather hgather
      rw [List.forall₂_map_left_iff] at hfound
      rw [← List.forall₂_eq_eq_eq, List.forall₂_map_left_iff, List.forall₂_map_right_iff]
      refine hfound.imp fun key status hstatus => ?_
      cases hthis : statuses key with
      | none =>
          rw [hthis] at hstatus
          cases hstatus
      | some other =>
          rw [hthis] at hstatus
          cases hstatus
          rfl

/-- `downstream[key]` of `descendants_of`. -/
def downstreamOf (entries : List TaskPlanEntry) (key : Text) : List Text :=
  (entries.filter fun entry => key ∈ entry.dependencies).map TaskPlanEntry.key

/-- `descendants_of`; the search takes every pushed candidate once. -/
def descendantsOf (taskKey : Text) (entries : List TaskPlanEntry) :
    Except PyError (List Text) :=
  let keys := entries.map TaskPlanEntry.key
  match (entries.flatMap TaskPlanEntry.dependencies).find? fun key => key ∉ keys with
  | some missing => .error (.keyError missing.value)
  | none =>
      if taskKey ∉ keys then .error (.keyError taskKey.value)
      else
        .ok (search (downstreamOf entries)
          (searchCost (downstreamOf entries) keys (downstreamOf entries taskKey) [] + 1)
          (downstreamOf entries taskKey) [])

/-- One task is a dependency of another. -/
def DependsOn (entries : List TaskPlanEntry) (taskKey other : Text) : Prop :=
  ∃ entry ∈ entries, entry.key = other ∧ taskKey ∈ entry.dependencies

theorem mem_downstreamOf {entries : List TaskPlanEntry} {taskKey other : Text} :
    other ∈ downstreamOf entries taskKey ↔ DependsOn entries taskKey other := by
  simp only [downstreamOf, DependsOn, List.mem_map, List.mem_filter, decide_eq_true_eq]
  constructor
  · rintro ⟨entry, ⟨hentry, hdependency⟩, hkey⟩
    exact ⟨entry, hentry, hkey, hdependency⟩
  · rintro ⟨entry, hentry, hkey, hdependency⟩
    exact ⟨entry, ⟨hentry, hdependency⟩, hkey⟩

/-- The descendants of a task are its transitive dependents. -/
theorem mem_descendantsOf {entries : List TaskPlanEntry} {taskKey : Text}
    {descendants : List Text}
    (hdescendants : descendantsOf taskKey entries = .ok descendants) (other : Text) :
    other ∈ descendants ↔ Relation.TransGen (DependsOn entries) taskKey other := by
  unfold descendantsOf at hdescendants
  simp only at hdescendants
  split at hdescendants
  · cases hdescendants
  split at hdescendants
  · cases hdescendants
  cases hdescendants
  have hnodes : ∀ node, downstreamOf entries node ⊆ entries.map TaskPlanEntry.key := by
    intro node key hkey
    obtain ⟨entry, hentry, rfl⟩ := List.mem_map.mp hkey
    exact List.mem_map_of_mem (List.mem_filter.mp hentry).1
  have hsame : (fun node key => key ∈ downstreamOf entries node) = DependsOn entries := by
    funext node key
    exact propext mem_downstreamOf
  rw [mem_search_iff hnodes (Nat.lt_succ_self _), hsame]

/-- Among tasks that depend on each other only the descendants are always found. -/
theorem descendantsOf_eq_ok {entries : List TaskPlanEntry} {taskKey : Text}
    (hknown : ∀ entry ∈ entries, ∀ key ∈ entry.dependencies,
      key ∈ entries.map TaskPlanEntry.key)
    (htask : taskKey ∈ entries.map TaskPlanEntry.key) :
    ∃ descendants, descendantsOf taskKey entries = .ok descendants := by
  unfold descendantsOf
  simp only
  split
  · next missing hmissing =>
    obtain ⟨entry, hentry, hkey⟩ := List.mem_flatMap.mp (List.mem_of_find?_eq_some hmissing)
    have habsent := List.find?_some hmissing
    simp only [decide_not, Bool.not_eq_eq_eq_not, Bool.not_true,
      decide_eq_false_iff_not] at habsent
    exact absurd (hknown entry hentry missing hkey) habsent
  · rw [if_neg (not_not.mpr htask)]
    exact ⟨_, rfl⟩

end PyWorkflowKit.Runtime
