import PyWorkflowKit.Persistence.Memory

/-!
# Retention

Retention policies, the eligibility rule for pruning one run and the pruning
operation of the in-memory store.
-/

namespace PyWorkflowKit.Persistence

open PyWorkflowKit.Core PyWorkflowKit.Domain PyWorkflowKit.States

/-- Which historical runs may be purged. -/
structure RetentionPolicy where
  retentionDays : Option Nat
  maxRunsPerWorkflow : Option Nat
  pruneStates : List WorkflowRunStatus
  retainFailedRunsDays : Option Nat
  workflowNames : Option (List String)
  positive : ∀ bound ∈ [retentionDays, maxRunsPerWorkflow, retainFailedRunsDays],
    ∀ value ∈ bound, 1 ≤ value
  nonempty : pruneStates ≠ []
  terminal : ∀ status ∈ pruneStates, status.isTerminal = true

structure DeletedRecordsSummary where
  workflowRuns : Nat
  taskRuns : Nat
  taskAttempts : Nat
  events : Nat
  checkpoints : Nat
  externalRefs : Nat
  manifests : Nat
deriving DecidableEq, Repr

def DeletedRecordsSummary.zero : DeletedRecordsSummary := ⟨0, 0, 0, 0, 0, 0, 0⟩

structure PruneReport where
  dryRun : Bool
  scannedWorkflows : Nat
  eligibleRunsToPrune : Nat
  deletedRecords : DeletedRecordsSummary
deriving DecidableEq, Repr

namespace RetentionPolicy

variable (policy : RetentionPolicy)

/-- The policy looks at workflows of this name; no names mean all of them. -/
def selectsName (name : String) : Bool :=
  match policy.workflowNames with
  | none => true
  | some [] => true
  | some names => names.contains name

/-- The retention period of a run: failed runs may have their own. -/
def cutoffDays (failed : Bool) : Option Nat :=
  if failed ∧ policy.retainFailedRunsDays.isSome then policy.retainFailedRunsDays
  else policy.retentionDays

/-- Whether a creation time is older than the retention period. -/
def ageEligible (now : DateTime) (failed : Bool) (createdAt : Instant) :
    Except PyError Bool :=
  match policy.cutoffDays failed with
  | none => .ok false
  | some days =>
      match now.add? (-(days * dayMicros)) with
      | none => .error (.overflowError "date value out of range")
      | some cutoff => .ok (decide (createdAt < cutoff.instant))

/-- Whether a rank lies beyond the number of runs to keep. -/
def quotaEligible (rank : Nat) : Bool :=
  policy.maxRunsPerWorkflow.any fun quota => rank > quota

/-- The decision of one iteration of the eligibility loop. -/
def eligible (now : DateTime) (prunable failed : Bool) (createdAt : Instant)
    (rank : Nat) : Except PyError Bool :=
  if prunable then do
    let age ← policy.ageEligible now failed createdAt
    return age || policy.quotaEligible rank
  else .ok false

/-- A run whose status the policy prunes. -/
def prunes (status : WorkflowRunStatus) : Bool :=
  status.isTerminal && policy.pruneStates.contains status

/-- The retention period before `now` starts at a representable datetime. -/
def CutoffFits (now : DateTime) (failed : Bool) : Prop :=
  ∀ days ∈ policy.cutoffDays failed, now.add? (-(days * dayMicros)) ≠ none

/-- The creation time lies before the retention period. -/
def Expired (now : DateTime) (failed : Bool) (createdAt : Instant) : Prop :=
  ∃ days ∈ policy.cutoffDays failed,
    ∃ cutoff ∈ now.add? (-(days * dayMicros)), createdAt < cutoff.instant

/-- The rank lies beyond the number of runs to keep. -/
def Surplus (rank : Nat) : Prop :=
  ∃ quota ∈ policy.maxRunsPerWorkflow, quota < rank

variable {policy} {now : DateTime} {prunable failed : Bool} {createdAt : Instant}
  {rank : Nat}

@[simp]
theorem quotaEligible_iff : policy.quotaEligible rank = true ↔ policy.Surplus rank := by
  simp [quotaEligible, Surplus, Option.any_eq_true]

theorem ageEligible_of_fits (createdAt : Instant)
    (hfits : policy.CutoffFits now failed) :
    ∃ flag, policy.ageEligible now failed createdAt = .ok flag ∧
      (flag = true ↔ policy.Expired now failed createdAt) := by
  cases hdays : policy.cutoffDays failed with
  | none => exact ⟨false, by simp [ageEligible, hdays], by simp [Expired, hdays]⟩
  | some days =>
      have hcutoff := hfits days hdays
      cases hadd : now.add? (-(days * dayMicros)) with
      | none => exact absurd hadd hcutoff
      | some cutoff =>
          exact ⟨decide (createdAt < cutoff.instant), by simp [ageEligible, hdays, hadd],
            by simp [Expired, hdays, hadd]⟩

theorem ageEligible_of_not_fits (createdAt : Instant)
    (hfits : ¬ policy.CutoffFits now failed) :
    policy.ageEligible now failed createdAt =
      .error (.overflowError "date value out of range") := by
  cases hdays : policy.cutoffDays failed with
  | none => exact absurd (by simp [CutoffFits, hdays]) hfits
  | some days =>
      cases hadd : now.add? (-(days * dayMicros)) with
      | none => simp [ageEligible, hdays, hadd]
      | some cutoff => exact absurd (by simp [CutoffFits, hdays, hadd]) hfits

/-- A decision that can be made chooses the expired and the surplus runs. -/
theorem eligible_of_fits (createdAt : Instant) (rank : Nat)
    (hfits : prunable = true → policy.CutoffFits now failed) :
    ∃ flag, policy.eligible now prunable failed createdAt rank = .ok flag ∧
      (flag = true ↔ prunable = true ∧
        (policy.Expired now failed createdAt ∨ policy.Surplus rank)) := by
  cases prunable with
  | false => exact ⟨false, by simp [eligible], by simp⟩
  | true =>
      obtain ⟨flag, hflag, hexpired⟩ :=
        ageEligible_of_fits createdAt (hfits rfl)
      refine ⟨flag || policy.quotaEligible rank, ?_, ?_⟩
      · simp only [eligible, if_true, hflag]
        rfl
      · simp [← hexpired]

theorem eligible_eq_error {error : PyError}
    (herror : policy.eligible now prunable failed createdAt rank = .error error) :
    prunable = true ∧ ¬ policy.CutoffFits now failed ∧
      error = .overflowError "date value out of range" := by
  by_cases hfits : prunable = true → policy.CutoffFits now failed
  · obtain ⟨flag, hflag, -⟩ :=
      eligible_of_fits createdAt rank hfits
    rw [hflag] at herror
    cases herror
  · obtain ⟨hprunable, hnot⟩ := Classical.not_imp.mp hfits
    refine ⟨hprunable, hnot, ?_⟩
    rw [hprunable, eligible, if_pos rfl,
      ageEligible_of_not_fits createdAt hnot] at herror
    cases herror
    rfl

theorem eligible_of_not_fits (hprunable : prunable = true)
    (hfits : ¬ policy.CutoffFits now failed) :
    policy.eligible now prunable failed createdAt rank =
      .error (.overflowError "date value out of range") := by
  rw [hprunable, eligible, if_pos rfl,
    ageEligible_of_not_fits createdAt hfits]
  rfl

/-- What a decision that was made says. -/
theorem eligible_eq_ok {flag : Bool}
    (hflag : policy.eligible now prunable failed createdAt rank = .ok flag) :
    (prunable = true → policy.CutoffFits now failed) ∧
      (flag = true ↔ prunable = true ∧
        (policy.Expired now failed createdAt ∨ policy.Surplus rank)) := by
  have hfits : prunable = true → policy.CutoffFits now failed := by
    intro hprunable
    by_contra hnot
    rw [eligible_of_not_fits hprunable hnot] at hflag
    cases hflag
  obtain ⟨decided, hdecided, hiff⟩ :=
    eligible_of_fits createdAt rank hfits
  rw [hdecided] at hflag
  cases hflag
  exact ⟨hfits, hiff⟩

end RetentionPolicy

/-- The loop over ranked runs that collects the eligible ones. -/
def collectEligible {α : Type} (decision : α → Nat → Except PyError Bool) :
    List (α × Nat) → Except PyError (List α)
  | [] => .ok []
  | (run, rank) :: rest => do
      let chosen ← decision run rank
      let others ← collectEligible decision rest
      return if chosen then run :: others else others

section Collecting

variable {α : Type}

/-- The loop fails only when a decision fails, with that error. -/
theorem collectEligible_eq_error {decision : α → Nat → Except PyError Bool}
    {ranked : List (α × Nat)} {error : PyError}
    (herror : collectEligible decision ranked = .error error) :
    ∃ pair ∈ ranked, decision pair.1 pair.2 = .error error := by
  induction ranked with
  | nil => cases herror
  | cons first rest ih =>
      obtain ⟨run, rank⟩ := first
      cases hdecision : decision run rank with
      | error thrown =>
          simp only [collectEligible, hdecision, bind, Except.bind] at herror
          cases herror
          exact ⟨(run, rank), List.mem_cons_self, hdecision⟩
      | ok chosen =>
          cases hrest : collectEligible decision rest with
          | error thrown =>
              simp only [collectEligible, hdecision, hrest, bind, Except.bind]
                at herror
              cases herror
              obtain ⟨pair, hpair, hfailed⟩ := ih hrest
              exact ⟨pair, List.mem_cons_of_mem _ hpair, hfailed⟩
          | ok others =>
              simp only [collectEligible, hdecision, hrest, bind, Except.bind]
                at herror
              cases herror

/-- The loop returns the runs that the decisions chose, in order. -/
theorem collectEligible_eq_ok {decision : α → Nat → Except PyError Bool}
    {ranked : List (α × Nat)} {chosen : List α}
    (hchosen : collectEligible decision ranked = .ok chosen) :
    (∀ pair ∈ ranked, ∃ flag, decision pair.1 pair.2 = .ok flag) ∧
      chosen = (ranked.filter fun pair =>
        decision pair.1 pair.2 = .ok true).map Prod.fst := by
  induction ranked generalizing chosen with
  | nil =>
      cases hchosen
      simp
  | cons first rest ih =>
      obtain ⟨run, rank⟩ := first
      cases hdecision : decision run rank with
      | error thrown =>
          simp only [collectEligible, hdecision, bind, Except.bind] at hchosen
          cases hchosen
      | ok flag =>
          cases hrest : collectEligible decision rest with
          | error thrown =>
              simp only [collectEligible, hdecision, hrest, bind, Except.bind]
                at hchosen
              cases hchosen
          | ok others =>
              simp only [collectEligible, hdecision, hrest, bind, Except.bind,
                pure, Except.pure] at hchosen
              cases hchosen
              obtain ⟨hflags, hothers⟩ := ih hrest
              refine ⟨?_, ?_⟩
              · intro pair hpair
                rcases List.mem_cons.mp hpair with rfl | hmem
                · exact ⟨flag, hdecision⟩
                · exact hflags pair hmem
              · cases flag <;> simp [hdecision, hothers]

theorem collectEligible_nodup {decision : α → Nat → Except PyError Bool}
    {values chosen : List α} (hnodup : values.Nodup)
    (hchosen : collectEligible decision (values.zipIdx 1) = .ok chosen) :
    chosen.Nodup := by
  rw [(collectEligible_eq_ok hchosen).2]
  have hfst : ((values.zipIdx 1).map Prod.fst).Nodup := by
    simpa using hnodup
  exact hfst.sublist (List.filter_sublist.map Prod.fst)

end Collecting

section Grouping

variable {α γ κ : Type} [DecidableEq γ] [LinearOrder κ]

/-- The runs that a decision chooses, group by group, each group in `key`
order. -/
def chooseGrouped (decision : α → Nat → Except PyError Bool) (group : α → γ)
    (key : α → κ) (values : List α) (names : List γ) : Except PyError (List α) :=
  (gather (names.map fun name => collectEligible decision
    ((sortBy key (values.filter fun value => group value = name)).zipIdx 1))).map
    List.flatten

variable {decision : α → Nat → Except PyError Bool} {group : α → γ} {key : α → κ}
  {values chosen : List α} {names : List γ}

theorem chooseGrouped_cons_eq_ok {name : γ}
    (hchosen : chooseGrouped decision group key values (name :: names) =
      .ok chosen) :
    ∃ first others, collectEligible decision ((sortBy key
        (values.filter fun value => group value = name)).zipIdx 1) = .ok first ∧
      chooseGrouped decision group key values names = .ok others ∧
      chosen = first ++ others := by
  cases hfirst : collectEligible decision ((sortBy key
      (values.filter fun value => group value = name)).zipIdx 1) with
  | error error =>
      simp only [chooseGrouped, List.map_cons, gather, hfirst] at hchosen
      cases hchosen
  | ok first =>
      cases hrest : gather (names.map fun name => collectEligible decision
          ((sortBy key (values.filter fun value =>
            group value = name)).zipIdx 1)) with
      | error error =>
          simp only [chooseGrouped, List.map_cons, gather, hfirst, hrest]
            at hchosen
          cases hchosen
      | ok others =>
          simp only [chooseGrouped, List.map_cons, gather, hfirst, hrest]
            at hchosen
          cases hchosen
          exact ⟨first, others.flatten, rfl, by simp [chooseGrouped, hrest, Except.map],
            rfl⟩

/-- A choice that succeeds made every decision, and holds the members whose
decision at their rank is positive. -/
theorem chooseGrouped_eq_ok (hnodup : (values.map key).Nodup)
    (hchosen : chooseGrouped decision group key values names = .ok chosen) :
    (∀ value ∈ values, group value ∈ names →
        ∃ flag, decision value (rankBy group key values value) = .ok flag) ∧
      ∀ value, value ∈ chosen ↔ value ∈ values ∧ group value ∈ names ∧
        decision value (rankBy group key values value) = .ok true := by
  induction names generalizing chosen with
  | nil =>
      cases hchosen
      simp
  | cons name rest ih =>
      obtain ⟨first, others, hfirst, hothers, rfl⟩ :=
        chooseGrouped_cons_eq_ok hchosen
      obtain ⟨hdecided, hmembers⟩ := collectEligible_eq_ok hfirst
      obtain ⟨hrestDecided, hrestMembers⟩ := ih hothers
      have hfirstMem : ∀ value, value ∈ first ↔ value ∈ values ∧
          group value = name ∧
          decision value (rankBy group key values value) = .ok true := by
        intro value
        rw [hmembers]
        simp only [List.mem_map, List.mem_filter, decide_eq_true_eq]
        constructor
        · rintro ⟨⟨run, rank⟩, ⟨hpair, hchosen⟩, rfl⟩
          obtain ⟨hmem, hname, rfl⟩ :=
            (mem_zipIdx_group_iff group key hnodup name run rank).mp hpair
          exact ⟨hmem, hname, hchosen⟩
        · rintro ⟨hmem, hname, hchosen⟩
          exact ⟨(value, _), ⟨(mem_zipIdx_group_iff group key hnodup name value
            _).mpr ⟨hmem, hname, rfl⟩, hchosen⟩, rfl⟩
      refine ⟨?_, ?_⟩
      · intro value hvalue hgroup
        rcases List.mem_cons.mp hgroup with hname | hrest
        · exact hdecided (value, _) ((mem_zipIdx_group_iff group key hnodup name
            value _).mpr ⟨hvalue, hname, rfl⟩)
        · exact hrestDecided value hvalue hrest
      · intro value
        rw [List.mem_append, hfirstMem, hrestMembers, List.mem_cons]
        tauto

/-- A choice fails only with the error of a decision. -/
theorem chooseGrouped_eq_error (hnodup : (values.map key).Nodup) {error : PyError}
    (herror : chooseGrouped decision group key values names = .error error) :
    ∃ value ∈ values, group value ∈ names ∧
      decision value (rankBy group key values value) = .error error := by
  have hsequence : gather (names.map fun name => collectEligible decision
      ((sortBy key (values.filter fun value => group value = name)).zipIdx 1)) =
        .error error := by
    unfold chooseGrouped at herror
    cases hresult : gather (names.map fun name => collectEligible decision
        ((sortBy key (values.filter fun value =>
          group value = name)).zipIdx 1)) with
    | error thrown =>
        rw [hresult] at herror
        cases herror
        rfl
    | ok lists =>
        rw [hresult] at herror
        cases herror
  obtain ⟨name, hname, hfailed⟩ := List.mem_map.mp (gather_eq_error hsequence)
  obtain ⟨⟨run, rank⟩, hpair, hdecision⟩ := collectEligible_eq_error hfailed
  obtain ⟨hmem, hgroup, rfl⟩ :=
    (mem_zipIdx_group_iff group key hnodup name run rank).mp hpair
  exact ⟨run, hmem, hgroup ▸ hname, hdecision⟩

theorem chooseGrouped_nodup (hnodup : (values.map key).Nodup)
    (hnames : names.Nodup)
    (hchosen : chooseGrouped decision group key values names = .ok chosen) :
    chosen.Nodup := by
  induction names generalizing chosen with
  | nil =>
      cases hchosen
      exact List.nodup_nil
  | cons name rest ih =>
      obtain ⟨first, others, hfirst, hothers, rfl⟩ :=
        chooseGrouped_cons_eq_ok hchosen
      obtain ⟨habsent, hrest⟩ := List.nodup_cons.mp hnames
      have hsorted : (sortBy key
          (values.filter fun value => group value = name)).Nodup :=
        nodup_sortBy key (hnodup.of_map.filter _)
      refine (collectEligible_nodup hsorted hfirst).append (ih hrest hothers) ?_
      intro value hleft hright
      rw [(collectEligible_eq_ok hfirst).2] at hleft
      obtain ⟨⟨run, rank⟩, hpair, rfl⟩ := List.mem_map.mp hleft
      have hname := ((mem_zipIdx_group_iff group key hnodup name run rank).mp
        (List.mem_filter.mp hpair).1).2.1
      have hother := (((chooseGrouped_eq_ok hnodup hothers).2 run).mp hright).2.1
      exact habsent (hname ▸ hother)

end Grouping

namespace Memory

/-- Runs grouped by workflow name, in the order the names were first seen. -/
def runsByWorkflow (policy : RetentionPolicy) (runs : List WorkflowRun) :
    List (List WorkflowRun) :=
  let scanned := runs.filter fun run => policy.selectsName run.workflowName.value
  (scanned.map fun run => run.workflowName.value).reverse.dedup.reverse.map
    fun name => scanned.filter fun run => run.workflowName.value = name

/-- The runs of one workflow, newest first; equal times by descending id. -/
def newestFirst (runs : List WorkflowRun) : List WorkflowRun :=
  sortBy (fun run => OrderDual.toDual (toLex (run.createdAt, run.runId.str))) runs

/-- The eligible runs of one workflow. -/
def eligibleOfWorkflow (policy : RetentionPolicy) (now : DateTime)
    (runs : List WorkflowRun) : Except PyError (List WorkflowRun) :=
  collectEligible
    (fun run rank => policy.eligible now (policy.prunes run.status)
      (run.status = .failed) run.createdAt rank)
    ((newestFirst runs).zipIdx 1)

/-- The runs that `prune_runs` of the in-memory store deletes. -/
def eligibleRuns (policy : RetentionPolicy) (now : DateTime) (state : MemoryState) :
    Except PyError (List WorkflowRun) :=
  (gather ((runsByWorkflow policy state.workflowRuns.rows).map
    (eligibleOfWorkflow policy now))).map List.flatten

/-- What belongs to a set of runs. -/
structure Targets where
  runIds : List WorkflowRunId
  taskRuns : List TaskRun
  attempts : List TaskAttempt
  transitions : List StateTransitionRecord
  checkpoints : List TaskOutputCheckpoint
  externalRefs : List (TaskAttemptId × ExternalRunRef)
  manifests : List (WorkflowRunId × ManifestReference)

def targets (state : MemoryState) (runIds : List WorkflowRunId) : Targets :=
  let taskRuns := state.taskRuns.rows.filter fun taskRun =>
    runIds.contains taskRun.workflowRunId
  let taskRunIds := taskRuns.map TaskRun.taskRunId
  let attempts := state.taskAttempts.rows.filter fun attempt =>
    taskRunIds.contains attempt.taskRunId
  let attemptIds := attempts.map TaskAttempt.attemptId
  { runIds := runIds
    taskRuns := taskRuns
    attempts := attempts
    transitions := state.transitions.filter fun record =>
      match record.entityType with
      | .workflowRun => runIds.contains ⟨record.entityId⟩
      | .taskRun => taskRunIds.contains ⟨record.entityId⟩
      | .taskAttempt => attemptIds.contains ⟨record.entityId⟩
    checkpoints := state.outputCheckpoints.rows.filter fun checkpoint =>
      taskRunIds.contains checkpoint.taskRunId
    externalRefs := state.externalRefs.rows.filter fun row =>
      attemptIds.contains row.1
    manifests := state.manifests.rows.filter fun row => runIds.contains row.1 }

def Targets.summary (target : Targets) : DeletedRecordsSummary where
  workflowRuns := target.runIds.length
  taskRuns := target.taskRuns.length
  taskAttempts := target.attempts.length
  events := target.transitions.length
  checkpoints := target.checkpoints.length
  externalRefs := target.externalRefs.length
  manifests := target.manifests.length

def removeTargets (state : MemoryState) (target : Targets) : MemoryState :=
  let taskRunIds := target.taskRuns.map TaskRun.taskRunId
  let attemptIds := target.attempts.map TaskAttempt.attemptId
  let sequences := target.transitions.map StateTransitionRecord.sequence
  { state with
    outputCheckpoints := state.outputCheckpoints.filter fun checkpoint =>
      !taskRunIds.contains checkpoint.taskRunId
    externalRefs := state.externalRefs.filter fun row => !attemptIds.contains row.1
    transitions := state.transitions.filter fun record =>
      !sequences.contains record.sequence
    taskAttempts := state.taskAttempts.filter fun attempt =>
      !attemptIds.contains attempt.attemptId
    taskRuns := state.taskRuns.filter fun taskRun =>
      !taskRunIds.contains taskRun.taskRunId
    manifests := state.manifests.filter fun row => !target.runIds.contains row.1
    workflowRuns := state.workflowRuns.filter fun run =>
      !target.runIds.contains run.runId }

/-- `prune_runs`. -/
def pruneRuns (policy : RetentionPolicy) (dryRun : Bool) (batchSize : Int)
    (now : DateTime) : MemoryAction PruneReport := do
  Action.require (1 ≤ batchSize) (.valueError "batch_size must be >= 1")
  let state ← Action.get
  let eligible ← Action.ofExcept (eligibleRuns policy now state)
  let target := targets state (eligible.map WorkflowRun.runId)
  if dryRun then pure () else Action.modify fun current => removeTargets current target
  return {
    dryRun := dryRun
    scannedWorkflows := (runsByWorkflow policy state.workflowRuns.rows).length
    eligibleRunsToPrune := eligible.length
    deletedRecords := target.summary }

end Memory

end PyWorkflowKit.Persistence
