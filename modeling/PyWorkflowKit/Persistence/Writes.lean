import PyWorkflowKit.Persistence.Memory

/-!
# What a store write does

Every write of the in-memory store either changes its one row, with the
transition record of a changed status, or fails and changes nothing.
-/

namespace PyWorkflowKit.Persistence

open PyWorkflowKit.Core PyWorkflowKit.Domain PyWorkflowKit.States

namespace MemoryState

/-- Record a change of status, if it is one. -/
def noteChange (state : MemoryState) (entityType : StateEntityType) (entityId : Text)
    (changed : Bool) (fromStatus : Option Text) (toStatus : Text)
    (occurredAt : Instant) : MemoryState :=
  if changed then state.withTransition entityType entityId fromStatus toStatus occurredAt
  else state

section Tables

variable (state : MemoryState) (entityType : StateEntityType) (entityId : Text)
  (changed : Bool) (fromStatus : Option Text) (toStatus : Text) (occurredAt : Instant)

@[simp]
theorem workflowRuns_noteChange :
    (state.noteChange entityType entityId changed fromStatus toStatus
      occurredAt).workflowRuns = state.workflowRuns := by
  unfold noteChange
  split <;> rfl

@[simp]
theorem taskRuns_noteChange :
    (state.noteChange entityType entityId changed fromStatus toStatus
      occurredAt).taskRuns = state.taskRuns := by
  unfold noteChange
  split <;> rfl

@[simp]
theorem taskAttempts_noteChange :
    (state.noteChange entityType entityId changed fromStatus toStatus
      occurredAt).taskAttempts = state.taskAttempts := by
  unfold noteChange
  split <;> rfl

@[simp]
theorem externalRefs_noteChange :
    (state.noteChange entityType entityId changed fromStatus toStatus
      occurredAt).externalRefs = state.externalRefs := by
  unfold noteChange
  split <;> rfl

@[simp]
theorem outputCheckpoints_noteChange :
    (state.noteChange entityType entityId changed fromStatus toStatus
      occurredAt).outputCheckpoints = state.outputCheckpoints := by
  unfold noteChange
  split <;> rfl

@[simp]
theorem manifests_noteChange :
    (state.noteChange entityType entityId changed fromStatus toStatus
      occurredAt).manifests = state.manifests := by
  unfold noteChange
  split <;> rfl

end Tables

/-- A run whose status was `before` is replaced by `run`. -/
def afterWorkflowRun (state : MemoryState) (before : WorkflowRunStatus)
    (run : WorkflowRun) (at_ : Instant) : MemoryState :=
  (state.withWorkflowRun run).noteChange .workflowRun run.runId.value
    (before ≠ run.status) (some before.text) run.status.text at_

/-- A task run whose status was `before` is replaced by `taskRun`. -/
def afterTaskRun (state : MemoryState) (before : TaskRunStatus) (taskRun : TaskRun)
    (at_ : Instant) : MemoryState :=
  (state.withTaskRun taskRun).noteChange .taskRun taskRun.taskRunId.value
    (before ≠ taskRun.status) (some before.text) taskRun.status.text at_

/-- An attempt whose status was `before` is replaced by `attempt`. -/
def afterTaskAttempt (state : MemoryState) (before : TaskAttemptStatus)
    (attempt : TaskAttempt) (at_ : Instant) : MemoryState :=
  (state.withTaskAttempt attempt).noteChange .taskAttempt attempt.attemptId.value
    (before ≠ attempt.status) (some before.text) attempt.status.text at_

/-- A created workflow run is stored and recorded. -/
def addWorkflowRun (state : MemoryState) (run : WorkflowRun) : MemoryState :=
  (state.withWorkflowRun run).withTransition .workflowRun run.runId.value none
    run.status.text run.createdAt

/-- A created task run is stored and recorded. -/
def addTaskRun (state : MemoryState) (taskRun : TaskRun) : MemoryState :=
  (state.withTaskRun taskRun).withTransition .taskRun taskRun.taskRunId.value none
    taskRun.status.text taskRun.createdAt

/-- An appended attempt is stored and recorded. -/
def addTaskAttempt (state : MemoryState) (attempt : TaskAttempt) : MemoryState :=
  (state.withTaskAttempt attempt).withTransition .taskAttempt attempt.attemptId.value
    none attempt.status.text attempt.createdAt

def addExternalRef (state : MemoryState) (attemptId : TaskAttemptId)
    (externalRef : ExternalRunRef) : MemoryState :=
  { state with externalRefs := state.externalRefs.set (attemptId, externalRef) }

def addCheckpoint (state : MemoryState) (checkpoint : TaskOutputCheckpoint) :
    MemoryState :=
  { state with outputCheckpoints := state.outputCheckpoints.set checkpoint }

def addManifest (state : MemoryState) (runId : WorkflowRunId)
    (reference : ManifestReference) : MemoryState :=
  { state with manifests := state.manifests.set (runId, reference) }

section Rows

variable (state : MemoryState) (at_ : Instant)

@[simp]
theorem workflowRuns_afterWorkflowRun (before : WorkflowRunStatus) (run : WorkflowRun) :
    (state.afterWorkflowRun before run at_).workflowRuns = state.workflowRuns.set run := by
  simp [afterWorkflowRun, withWorkflowRun]

@[simp]
theorem taskRuns_afterWorkflowRun (before : WorkflowRunStatus) (run : WorkflowRun) :
    (state.afterWorkflowRun before run at_).taskRuns = state.taskRuns := by
  simp [afterWorkflowRun, withWorkflowRun]

@[simp]
theorem taskAttempts_afterWorkflowRun (before : WorkflowRunStatus) (run : WorkflowRun) :
    (state.afterWorkflowRun before run at_).taskAttempts = state.taskAttempts := by
  simp [afterWorkflowRun, withWorkflowRun]

@[simp]
theorem externalRefs_afterWorkflowRun (before : WorkflowRunStatus) (run : WorkflowRun) :
    (state.afterWorkflowRun before run at_).externalRefs = state.externalRefs := by
  simp [afterWorkflowRun, withWorkflowRun]

@[simp]
theorem outputCheckpoints_afterWorkflowRun (before : WorkflowRunStatus) (run : WorkflowRun) :
    (state.afterWorkflowRun before run at_).outputCheckpoints = state.outputCheckpoints := by
  simp [afterWorkflowRun, withWorkflowRun]

@[simp]
theorem manifests_afterWorkflowRun (before : WorkflowRunStatus) (run : WorkflowRun) :
    (state.afterWorkflowRun before run at_).manifests = state.manifests := by
  simp [afterWorkflowRun, withWorkflowRun]

@[simp]
theorem workflowRuns_afterTaskRun (before : TaskRunStatus) (taskRun : TaskRun) :
    (state.afterTaskRun before taskRun at_).workflowRuns = state.workflowRuns := by
  simp [afterTaskRun, withTaskRun]

@[simp]
theorem taskRuns_afterTaskRun (before : TaskRunStatus) (taskRun : TaskRun) :
    (state.afterTaskRun before taskRun at_).taskRuns = state.taskRuns.set taskRun := by
  simp [afterTaskRun, withTaskRun]

@[simp]
theorem taskAttempts_afterTaskRun (before : TaskRunStatus) (taskRun : TaskRun) :
    (state.afterTaskRun before taskRun at_).taskAttempts = state.taskAttempts := by
  simp [afterTaskRun, withTaskRun]

@[simp]
theorem externalRefs_afterTaskRun (before : TaskRunStatus) (taskRun : TaskRun) :
    (state.afterTaskRun before taskRun at_).externalRefs = state.externalRefs := by
  simp [afterTaskRun, withTaskRun]

@[simp]
theorem outputCheckpoints_afterTaskRun (before : TaskRunStatus) (taskRun : TaskRun) :
    (state.afterTaskRun before taskRun at_).outputCheckpoints = state.outputCheckpoints := by
  simp [afterTaskRun, withTaskRun]

@[simp]
theorem manifests_afterTaskRun (before : TaskRunStatus) (taskRun : TaskRun) :
    (state.afterTaskRun before taskRun at_).manifests = state.manifests := by
  simp [afterTaskRun, withTaskRun]

@[simp]
theorem workflowRuns_afterTaskAttempt (before : TaskAttemptStatus) (attempt : TaskAttempt) :
    (state.afterTaskAttempt before attempt at_).workflowRuns = state.workflowRuns := by
  simp [afterTaskAttempt, withTaskAttempt]

@[simp]
theorem taskRuns_afterTaskAttempt (before : TaskAttemptStatus) (attempt : TaskAttempt) :
    (state.afterTaskAttempt before attempt at_).taskRuns = state.taskRuns := by
  simp [afterTaskAttempt, withTaskAttempt]

@[simp]
theorem taskAttempts_afterTaskAttempt (before : TaskAttemptStatus) (attempt : TaskAttempt) :
    (state.afterTaskAttempt before attempt at_).taskAttempts = state.taskAttempts.set attempt := by
  simp [afterTaskAttempt, withTaskAttempt]

@[simp]
theorem externalRefs_afterTaskAttempt (before : TaskAttemptStatus) (attempt : TaskAttempt) :
    (state.afterTaskAttempt before attempt at_).externalRefs = state.externalRefs := by
  simp [afterTaskAttempt, withTaskAttempt]

@[simp]
theorem outputCheckpoints_afterTaskAttempt (before : TaskAttemptStatus) (attempt : TaskAttempt) :
    (state.afterTaskAttempt before attempt at_).outputCheckpoints = state.outputCheckpoints := by
  simp [afterTaskAttempt, withTaskAttempt]

@[simp]
theorem manifests_afterTaskAttempt (before : TaskAttemptStatus) (attempt : TaskAttempt) :
    (state.afterTaskAttempt before attempt at_).manifests = state.manifests := by
  simp [afterTaskAttempt, withTaskAttempt]

end Rows

end MemoryState

/-- Put `next` in the place of the attempt with its id. -/
def replaceAttempt (next : TaskAttempt) (attempts : List TaskAttempt) :
    List TaskAttempt :=
  attempts.map fun attempt => if attempt.attemptId = next.attemptId then next else attempt

namespace MemoryState

/-- The attempts of a task after one of them has been replaced. -/
theorem attemptsOf_afterTaskAttempt (state : MemoryState) (status : TaskAttemptStatus)
    (at_ : Instant) {attempt next : TaskAttempt} (hmem : attempt ∈ state.taskAttempts.rows)
    (hidentity : attempt.SameIdentity next) (taskRunId : TaskRunId) :
    (state.afterTaskAttempt status next at_).attemptsOf taskRunId =
      replaceAttempt next (state.attemptsOf taskRunId) := by
  have hpresent : next.attemptId ∈ state.taskAttempts.rows.map TaskAttempt.attemptId := by
    rw [← hidentity.1]
    exact List.mem_map_of_mem hmem
  unfold MemoryState.attemptsOf replaceAttempt
  rw [MemoryState.taskAttempts_afterTaskAttempt, Table.rows_set_of_present _ hpresent,
    List.filter_map]
  congr 1
  apply List.filter_congr
  intro other hother
  by_cases hkey : other.attemptId = next.attemptId
  · have hsame : other = attempt :=
      state.taskAttempts.eq_of_mem hother hmem (hkey.trans hidentity.1.symm)
    have howner : next.taskRunId = other.taskRunId := by
      rw [hsame]
      exact hidentity.2.1.symm
    simp [hkey, howner]
  · simp [hkey]

end MemoryState

namespace Memory

open Action

variable {state : MemoryState}

theorem run_getWorkflowRun {runId : WorkflowRunId} {run : WorkflowRun}
    (hfound : state.workflowRuns.find? runId = some run) :
    (getWorkflowRun runId).run state = (.ok run, state) := by
  simp [getWorkflowRun, hfound]

theorem run_getTaskRun {taskRunId : TaskRunId} {taskRun : TaskRun}
    (hfound : state.taskRuns.find? taskRunId = some taskRun) :
    (getTaskRun taskRunId).run state = (.ok taskRun, state) := by
  simp [getTaskRun, hfound]

theorem run_getTaskAttempt {attemptId : TaskAttemptId} {attempt : TaskAttempt}
    (hfound : state.taskAttempts.find? attemptId = some attempt) :
    (getTaskAttempt attemptId).run state = (.ok attempt, state) := by
  simp [getTaskAttempt, hfound]

theorem getWorkflowRun_cases (runId : WorkflowRunId) (state : MemoryState) :
    (∃ run, state.workflowRuns.find? runId = some run ∧
      (getWorkflowRun runId).run state = (.ok run, state)) ∨
    (state.workflowRuns.find? runId = none ∧ (getWorkflowRun runId).run state =
      (.error (.metadataNotFound "WorkflowRun" runId.str), state)) := by
  cases hfound : state.workflowRuns.find? runId with
  | none => exact Or.inr ⟨rfl, by simp [getWorkflowRun, hfound]⟩
  | some run => exact Or.inl ⟨run, rfl, run_getWorkflowRun hfound⟩

theorem getTaskRun_cases (taskRunId : TaskRunId) (state : MemoryState) :
    (∃ taskRun, state.taskRuns.find? taskRunId = some taskRun ∧
      (getTaskRun taskRunId).run state = (.ok taskRun, state)) ∨
    (state.taskRuns.find? taskRunId = none ∧ (getTaskRun taskRunId).run state =
      (.error (.metadataNotFound "TaskRun" taskRunId.str), state)) := by
  cases hfound : state.taskRuns.find? taskRunId with
  | none => exact Or.inr ⟨rfl, by simp [getTaskRun, hfound]⟩
  | some taskRun => exact Or.inl ⟨taskRun, rfl, run_getTaskRun hfound⟩

theorem getTaskAttempt_cases (attemptId : TaskAttemptId) (state : MemoryState) :
    (∃ attempt, state.taskAttempts.find? attemptId = some attempt ∧
      (getTaskAttempt attemptId).run state = (.ok attempt, state)) ∨
    (state.taskAttempts.find? attemptId = none ∧ (getTaskAttempt attemptId).run state =
      (.error (.metadataNotFound "TaskAttempt" attemptId.str), state)) := by
  cases hfound : state.taskAttempts.find? attemptId with
  | none => exact Or.inr ⟨rfl, by simp [getTaskAttempt, hfound]⟩
  | some attempt => exact Or.inl ⟨attempt, rfl, run_getTaskAttempt hfound⟩

section Updates

variable {α S : Type} [DecidableEq S] (fetch : MemoryAction α) (status : α → S)
  (expected next : S) (conflict : α → PyError) (identity : α → Prop)
  [DecidablePred identity] (mismatch : PyError) (put : MemoryState → MemoryState)
  (entityType : StateEntityType) (entityId : Text) (text : S → Text)
  (transitionedAt : Option Timestamp)

/-- The common course of the three updates: the stored row is checked, the new
one takes its place, and a change of status is recorded. -/
def checkedUpdate : MemoryAction Unit := do
  let current ← fetch
  require (status current = expected) (conflict current)
  require (identity current) mismatch
  requireTransitionTimestamp (status current ≠ next) transitionedAt
  modify put
  if status current = next then pure ()
  else
    appendTransition entityType entityId (some (text (status current))) (text next)
      transitionedAt

/-- The checks of an update, up to the transition time. -/
def PassesChecks (state : MemoryState) (current : α) : Prop :=
  fetch.run state = (.ok current, state) ∧ status current = expected ∧ identity current

variable {fetch status expected identity}

/-- An update that passes the checks ends as its transition time says. -/
theorem run_checkedUpdate {current : α}
    (hpasses : PassesChecks fetch status expected identity state current) :
    (checkedUpdate fetch status expected next conflict identity mismatch put entityType
        entityId text transitionedAt).run state =
      if expected = next then (.ok (), put state)
      else
        match transitionedAt with
        | none =>
            (.error (.metadataInvariant "status-changing update requires transitioned_at"),
              state)
        | some .naive => (.error (.valueError "occurred_at must be timezone-aware"), put state)
        | some (.aware at_) =>
            (.ok (), (put state).withTransition entityType entityId (some (text expected))
              (text next) at_) := by
  obtain ⟨hfetch, rfl, hidentity⟩ := hpasses
  unfold checkedUpdate requireTransitionTimestamp
  rw [run_bind_of_ok hfetch, run_bind_of_ok (run_require_of rfl _ _),
    run_bind_of_ok (run_require_of hidentity _ _)]
  by_cases hnext : status current = next
  · rw [run_bind_of_ok (run_require_of (by simp [hnext]) _ _),
      run_bind_of_ok (run_modify _ _), if_pos hnext, if_pos hnext]
    rfl
  · cases transitionedAt with
    | none => rw [run_bind_of_error (run_require_of_not (by simp [hnext]) _ _), if_neg hnext]
    | some at_ =>
        rw [run_bind_of_ok (run_require_of (by simp) _ _), run_bind_of_ok (run_modify _ _),
          if_neg hnext, if_neg hnext]
        cases at_ <;> rfl

/-- An update that fails a check is rejected without a trace. -/
theorem run_checkedUpdate_of_not
    (hfetch : (∃ current, fetch.run state = (.ok current, state)) ∨
      ∃ error, fetch.run state = (.error error, state))
    (hfails : ∀ current, ¬ PassesChecks fetch status expected identity state current) :
    ∃ error, (checkedUpdate fetch status expected next conflict identity mismatch put
      entityType entityId text transitionedAt).run state = (.error error, state) := by
  unfold checkedUpdate
  rcases hfetch with ⟨current, hget⟩ | ⟨error, hget⟩
  · by_cases hstatus : status current = expected
    · have hidentity : ¬ identity current := fun hsame =>
        hfails current ⟨hget, hstatus, hsame⟩
      exact ⟨_, (run_bind_of_ok hget _).trans
        ((run_bind_of_ok (run_require_of hstatus _ _) _).trans
          (run_bind_of_error (run_require_of_not hidentity _ _) _))⟩
    · exact ⟨_, (run_bind_of_ok hget _).trans
        (run_bind_of_error (run_require_of_not hstatus _ _) _)⟩
  · exact ⟨_, run_bind_of_error hget _⟩

/-- Whatever the transition time, the change is recorded if there is one. -/
theorem run_checkedUpdate_aware {current : α} (at_ : Instant)
    (hpasses : PassesChecks fetch status expected identity state current) :
    (checkedUpdate fetch status expected next conflict identity mismatch put entityType
        entityId text (some (.aware at_))).run state =
      (.ok (), (put state).noteChange entityType entityId (expected ≠ next)
        (some (text expected)) (text next) at_) := by
  rw [run_checkedUpdate next conflict mismatch put entityType entityId text _ hpasses]
  unfold MemoryState.noteChange
  by_cases hnext : expected = next
  · simp [hnext]
  · simp [hnext]

/-- With an aware transition time, or none, the row is replaced or nothing is. -/
theorem checkedUpdate_cases (haware : transitionedAt ≠ some .naive)
    (hfetch : (∃ current, fetch.run state = (.ok current, state)) ∨
      ∃ error, fetch.run state = (.error error, state)) :
    (∃ current at_, PassesChecks fetch status expected identity state current ∧
      (checkedUpdate fetch status expected next conflict identity mismatch put entityType
        entityId text transitionedAt).run state =
        (.ok (), (put state).noteChange entityType entityId (expected ≠ next)
          (some (text expected)) (text next) at_)) ∨
    ∃ error, (checkedUpdate fetch status expected next conflict identity mismatch put
      entityType entityId text transitionedAt).run state = (.error error, state) := by
  by_cases hpasses : ∃ current, PassesChecks fetch status expected identity state current
  · obtain ⟨current, hcurrent⟩ := hpasses
    match transitionedAt, haware with
    | some (.aware at_), _ =>
        exact Or.inl ⟨current, at_, hcurrent, run_checkedUpdate_aware _ _ _ _ _ _ _ at_ hcurrent⟩
    | none, _ =>
        rw [run_checkedUpdate next conflict mismatch put entityType entityId text none hcurrent]
        by_cases hnext : expected = next
        · rw [if_pos hnext]
          exact Or.inl ⟨current, .first, hcurrent, by simp [MemoryState.noteChange, hnext]⟩
        · rw [if_neg hnext]
          exact Or.inr ⟨_, rfl⟩
  · exact Or.inr (run_checkedUpdate_of_not _ _ _ _ _ _ _ _ hfetch
      fun current hcurrent => hpasses ⟨current, hcurrent⟩)

theorem updateWorkflowRun_eq (run : WorkflowRun) (expected : WorkflowRunStatus)
    (transitionedAt : Option Timestamp) :
    updateWorkflowRun run expected transitionedAt =
      checkedUpdate (getWorkflowRun run.runId) WorkflowRun.status expected run.status
        (fun current => .metadataConflict "WorkflowRun" run.runId.str expected.value
          current.status.value)
        (fun current => current.SameIdentity run)
        (.metadataInvariant "WorkflowRun immutable identity fields changed")
        (fun state => state.withWorkflowRun run) .workflowRun run.runId.value
        WorkflowRunStatus.text transitionedAt := rfl

theorem updateTaskRun_eq (taskRun : TaskRun) (expected : TaskRunStatus)
    (transitionedAt : Option Timestamp) :
    updateTaskRun taskRun expected transitionedAt =
      checkedUpdate (getTaskRun taskRun.taskRunId) TaskRun.status expected taskRun.status
        (fun current => .metadataConflict "TaskRun" taskRun.taskRunId.str expected.value
          current.status.value)
        (fun current => current.SameIdentity taskRun)
        (.metadataInvariant "TaskRun immutable identity fields changed")
        (fun state => state.withTaskRun taskRun) .taskRun taskRun.taskRunId.value
        TaskRunStatus.text transitionedAt := rfl

theorem updateTaskAttempt_eq (attempt : TaskAttempt) (expected : TaskAttemptStatus)
    (transitionedAt : Option Timestamp) :
    updateTaskAttempt attempt expected transitionedAt =
      checkedUpdate (getTaskAttempt attempt.attemptId) TaskAttempt.status expected
        attempt.status
        (fun current => .metadataConflict "TaskAttempt" attempt.attemptId.str expected.value
          current.status.value)
        (fun current => current.SameIdentity attempt)
        (.metadataInvariant "TaskAttempt immutable identity fields changed")
        (fun state => state.withTaskAttempt attempt) .taskAttempt attempt.attemptId.value
        TaskAttemptStatus.text transitionedAt := rfl

/-- A fetch finds its row or fails, and leaves the state alone. -/
theorem fetch_getWorkflowRun (runId : WorkflowRunId) (state : MemoryState) :
    (∃ run, (getWorkflowRun runId).run state = (.ok run, state)) ∨
      ∃ error, (getWorkflowRun runId).run state = (.error error, state) := by
  rcases getWorkflowRun_cases runId state with ⟨run, -, hget⟩ | ⟨-, hget⟩
  · exact Or.inl ⟨run, hget⟩
  · exact Or.inr ⟨_, hget⟩

theorem fetch_getTaskRun (taskRunId : TaskRunId) (state : MemoryState) :
    (∃ taskRun, (getTaskRun taskRunId).run state = (.ok taskRun, state)) ∨
      ∃ error, (getTaskRun taskRunId).run state = (.error error, state) := by
  rcases getTaskRun_cases taskRunId state with ⟨taskRun, -, hget⟩ | ⟨-, hget⟩
  · exact Or.inl ⟨taskRun, hget⟩
  · exact Or.inr ⟨_, hget⟩

theorem fetch_getTaskAttempt (attemptId : TaskAttemptId) (state : MemoryState) :
    (∃ attempt, (getTaskAttempt attemptId).run state = (.ok attempt, state)) ∨
      ∃ error, (getTaskAttempt attemptId).run state = (.error error, state) := by
  rcases getTaskAttempt_cases attemptId state with ⟨attempt, -, hget⟩ | ⟨-, hget⟩
  · exact Or.inl ⟨attempt, hget⟩
  · exact Or.inr ⟨_, hget⟩

theorem find?_of_run_getWorkflowRun {runId : WorkflowRunId} {run : WorkflowRun}
    (hget : (getWorkflowRun runId).run state = (.ok run, state)) :
    state.workflowRuns.find? runId = some run := by
  rcases getWorkflowRun_cases runId state with ⟨found, hfound, hrun⟩ | ⟨-, hrun⟩
  · cases hrun.symm.trans hget
    exact hfound
  · cases hrun.symm.trans hget

theorem find?_of_run_getTaskRun {taskRunId : TaskRunId} {taskRun : TaskRun}
    (hget : (getTaskRun taskRunId).run state = (.ok taskRun, state)) :
    state.taskRuns.find? taskRunId = some taskRun := by
  rcases getTaskRun_cases taskRunId state with ⟨found, hfound, hrun⟩ | ⟨-, hrun⟩
  · cases hrun.symm.trans hget
    exact hfound
  · cases hrun.symm.trans hget

theorem find?_of_run_getTaskAttempt {attemptId : TaskAttemptId} {attempt : TaskAttempt}
    (hget : (getTaskAttempt attemptId).run state = (.ok attempt, state)) :
    state.taskAttempts.find? attemptId = some attempt := by
  rcases getTaskAttempt_cases attemptId state with ⟨found, hfound, hrun⟩ | ⟨-, hrun⟩
  · cases hrun.symm.trans hget
    exact hfound
  · cases hrun.symm.trans hget

theorem run_updateWorkflowRun {current run : WorkflowRun} {at_ : Instant}
    (hfound : state.workflowRuns.find? run.runId = some current)
    (hidentity : current.SameIdentity run) :
    (updateWorkflowRun run current.status (some (.aware at_))).run state =
      (.ok (), state.afterWorkflowRun current.status run at_) := by
  rw [updateWorkflowRun_eq]
  exact run_checkedUpdate_aware _ _ _ _ _ _ _ at_
    ⟨run_getWorkflowRun hfound, rfl, hidentity⟩

theorem run_updateTaskRun {current taskRun : TaskRun} {at_ : Instant}
    (hfound : state.taskRuns.find? taskRun.taskRunId = some current)
    (hidentity : current.SameIdentity taskRun) :
    (updateTaskRun taskRun current.status (some (.aware at_))).run state =
      (.ok (), state.afterTaskRun current.status taskRun at_) := by
  rw [updateTaskRun_eq]
  exact run_checkedUpdate_aware _ _ _ _ _ _ _ at_ ⟨run_getTaskRun hfound, rfl, hidentity⟩

theorem run_updateTaskAttempt {current attempt : TaskAttempt} {at_ : Instant}
    (hfound : state.taskAttempts.find? attempt.attemptId = some current)
    (hidentity : current.SameIdentity attempt) :
    (updateTaskAttempt attempt current.status (some (.aware at_))).run state =
      (.ok (), state.afterTaskAttempt current.status attempt at_) := by
  rw [updateTaskAttempt_eq]
  exact run_checkedUpdate_aware _ _ _ _ _ _ _ at_
    ⟨run_getTaskAttempt hfound, rfl, hidentity⟩

/-- The update replaces the stored row, or is rejected. -/
theorem updateWorkflowRun_cases (run : WorkflowRun) (expected : WorkflowRunStatus)
    {transitionedAt : Option Timestamp} (haware : transitionedAt ≠ some .naive)
    (state : MemoryState) :
    (∃ current at_, state.workflowRuns.find? run.runId = some current ∧
      current.status = expected ∧ current.SameIdentity run ∧
      (updateWorkflowRun run expected transitionedAt).run state =
        (.ok (), state.afterWorkflowRun expected run at_)) ∨
    ∃ error, (updateWorkflowRun run expected transitionedAt).run state =
      (.error error, state) := by
  rw [updateWorkflowRun_eq]
  refine (checkedUpdate_cases _ _ _ _ _ _ _ _ haware (fetch_getWorkflowRun _ _)).imp_left ?_
  rintro ⟨current, at_, ⟨hget, hstatus, hidentity⟩, hrun⟩
  exact ⟨current, at_, find?_of_run_getWorkflowRun hget, hstatus, hidentity, hrun⟩

/-- The update replaces the stored row, or is rejected. -/
theorem updateTaskRun_cases (taskRun : TaskRun) (expected : TaskRunStatus)
    {transitionedAt : Option Timestamp} (haware : transitionedAt ≠ some .naive)
    (state : MemoryState) :
    (∃ current at_, state.taskRuns.find? taskRun.taskRunId = some current ∧
      current.status = expected ∧ current.SameIdentity taskRun ∧
      (updateTaskRun taskRun expected transitionedAt).run state =
        (.ok (), state.afterTaskRun expected taskRun at_)) ∨
    ∃ error, (updateTaskRun taskRun expected transitionedAt).run state =
      (.error error, state) := by
  rw [updateTaskRun_eq]
  refine (checkedUpdate_cases _ _ _ _ _ _ _ _ haware (fetch_getTaskRun _ _)).imp_left ?_
  rintro ⟨current, at_, ⟨hget, hstatus, hidentity⟩, hrun⟩
  exact ⟨current, at_, find?_of_run_getTaskRun hget, hstatus, hidentity, hrun⟩

/-- The update replaces the stored row, or is rejected. -/
theorem updateTaskAttempt_cases (attempt : TaskAttempt) (expected : TaskAttemptStatus)
    {transitionedAt : Option Timestamp} (haware : transitionedAt ≠ some .naive)
    (state : MemoryState) :
    (∃ current at_, state.taskAttempts.find? attempt.attemptId = some current ∧
      current.status = expected ∧ current.SameIdentity attempt ∧
      (updateTaskAttempt attempt expected transitionedAt).run state =
        (.ok (), state.afterTaskAttempt expected attempt at_)) ∨
    ∃ error, (updateTaskAttempt attempt expected transitionedAt).run state =
      (.error error, state) := by
  rw [updateTaskAttempt_eq]
  refine (checkedUpdate_cases _ _ _ _ _ _ _ _ haware (fetch_getTaskAttempt _ _)).imp_left ?_
  rintro ⟨current, at_, ⟨hget, hstatus, hidentity⟩, hrun⟩
  exact ⟨current, at_, find?_of_run_getTaskAttempt hget, hstatus, hidentity, hrun⟩

end Updates

section Creations

theorem createWorkflowRun_cases (run : WorkflowRun) (state : MemoryState) :
    (run.status = .pending ∧ state.workflowRuns.find? run.runId = none ∧
      (createWorkflowRun run).run state = (.ok (), state.addWorkflowRun run)) ∨
    ∃ error, (createWorkflowRun run).run state = (.error error, state) := by
  by_cases hstatus : run.status = .pending
  · by_cases habsent : state.workflowRuns.find? run.runId = none
    · refine Or.inl ⟨hstatus, habsent, ?_⟩
      unfold createWorkflowRun
      rw [run_bind_of_ok (run_require_of hstatus _ _), run_bind_of_ok (run_get _),
        run_bind_of_ok (run_require_of habsent _ _), run_bind_of_ok (run_modify _ _)]
      rfl
    · exact Or.inr ⟨_, (run_bind_of_ok (run_require_of hstatus _ _) _).trans
        ((run_bind_of_ok (run_get _) _).trans
          (run_bind_of_error (run_require_of_not habsent _ _) _))⟩
  · exact Or.inr ⟨_, run_bind_of_error (run_require_of_not hstatus _ _) _⟩

theorem createTaskRun_cases (taskRun : TaskRun) (state : MemoryState) :
    (taskRun.status = .pending ∧ state.taskRuns.find? taskRun.taskRunId = none ∧
      state.workflowRuns.find? taskRun.workflowRunId ≠ none ∧
      (createTaskRun taskRun).run state = (.ok (), state.addTaskRun taskRun)) ∨
    ∃ error, (createTaskRun taskRun).run state = (.error error, state) := by
  by_cases hstatus : taskRun.status = .pending
  · by_cases habsent : state.taskRuns.find? taskRun.taskRunId = none
    · by_cases hparent : state.workflowRuns.find? taskRun.workflowRunId ≠ none
      · refine Or.inl ⟨hstatus, habsent, hparent, ?_⟩
        unfold createTaskRun
        rw [run_bind_of_ok (run_require_of hstatus _ _), run_bind_of_ok (run_get _),
          run_bind_of_ok (run_require_of habsent _ _),
          run_bind_of_ok (run_require_of hparent _ _), run_bind_of_ok (run_modify _ _)]
        rfl
      · exact Or.inr ⟨_, (run_bind_of_ok (run_require_of hstatus _ _) _).trans
          ((run_bind_of_ok (run_get _) _).trans
            ((run_bind_of_ok (run_require_of habsent _ _) _).trans
              (run_bind_of_error (run_require_of_not hparent _ _) _)))⟩
    · exact Or.inr ⟨_, (run_bind_of_ok (run_require_of hstatus _ _) _).trans
        ((run_bind_of_ok (run_get _) _).trans
          (run_bind_of_error (run_require_of_not habsent _ _) _))⟩
  · exact Or.inr ⟨_, run_bind_of_error (run_require_of_not hstatus _ _) _⟩

theorem appendTaskAttempt_cases (attempt : TaskAttempt) (state : MemoryState) :
    (attempt.status = .pending ∧ state.taskAttempts.find? attempt.attemptId = none ∧
      state.taskRuns.find? attempt.taskRunId ≠ none ∧
      attempt.attemptNumber = (state.attemptsOf attempt.taskRunId).length + 1 ∧
      (appendTaskAttempt attempt).run state = (.ok (), state.addTaskAttempt attempt)) ∨
    ∃ error, (appendTaskAttempt attempt).run state = (.error error, state) := by
  by_cases hstatus : attempt.status = .pending
  · by_cases habsent : state.taskAttempts.find? attempt.attemptId = none
    · by_cases hparent : state.taskRuns.find? attempt.taskRunId ≠ none
      · by_cases hnumber : attempt.attemptNumber =
            (state.attemptsOf attempt.taskRunId).length + 1
        · refine Or.inl ⟨hstatus, habsent, hparent, hnumber, ?_⟩
          unfold appendTaskAttempt
          rw [run_bind_of_ok (run_require_of hstatus _ _), run_bind_of_ok (run_get _),
            run_bind_of_ok (run_require_of habsent _ _),
            run_bind_of_ok (run_require_of hparent _ _),
            run_bind_of_ok (run_require_of hnumber _ _), run_bind_of_ok (run_modify _ _)]
          rfl
        · exact Or.inr ⟨_, (run_bind_of_ok (run_require_of hstatus _ _) _).trans
            ((run_bind_of_ok (run_get _) _).trans
              ((run_bind_of_ok (run_require_of habsent _ _) _).trans
                ((run_bind_of_ok (run_require_of hparent _ _) _).trans
                  (run_bind_of_error (run_require_of_not hnumber _ _) _))))⟩
      · exact Or.inr ⟨_, (run_bind_of_ok (run_require_of hstatus _ _) _).trans
          ((run_bind_of_ok (run_get _) _).trans
            ((run_bind_of_ok (run_require_of habsent _ _) _).trans
              (run_bind_of_error (run_require_of_not hparent _ _) _)))⟩
    · exact Or.inr ⟨_, (run_bind_of_ok (run_require_of hstatus _ _) _).trans
        ((run_bind_of_ok (run_get _) _).trans
          (run_bind_of_error (run_require_of_not habsent _ _) _))⟩
  · exact Or.inr ⟨_, run_bind_of_error (run_require_of_not hstatus _ _) _⟩

theorem appendExternalRunRef_cases (attemptId : TaskAttemptId)
    (externalRef : ExternalRunRef) (state : MemoryState) :
    (state.taskAttempts.find? attemptId ≠ none ∧
      state.externalRefs.find? (externalRefKey (attemptId, externalRef)) = none ∧
      (appendExternalRunRef attemptId externalRef).run state =
        (.ok (), state.addExternalRef attemptId externalRef)) ∨
    ∃ error, (appendExternalRunRef attemptId externalRef).run state =
      (.error error, state) := by
  by_cases hparent : state.taskAttempts.find? attemptId ≠ none
  · by_cases habsent : state.externalRefs.find?
        (externalRefKey (attemptId, externalRef)) = none
    · refine Or.inl ⟨hparent, habsent, ?_⟩
      unfold appendExternalRunRef
      rw [run_bind_of_ok (run_get _), run_bind_of_ok (run_require_of hparent _ _),
        run_bind_of_ok (run_require_of habsent _ _)]
      rfl
    · exact Or.inr ⟨_, (run_bind_of_ok (run_get _) _).trans
        ((run_bind_of_ok (run_require_of hparent _ _) _).trans
          (run_bind_of_error (run_require_of_not habsent _ _) _))⟩
  · exact Or.inr ⟨_, (run_bind_of_ok (run_get _) _).trans
      (run_bind_of_error (run_require_of_not hparent _ _) _)⟩

theorem setTaskOutputCheckpoint_cases (checkpoint : TaskOutputCheckpoint)
    (state : MemoryState) :
    (∃ taskRun, state.taskRuns.find? checkpoint.taskRunId = some taskRun ∧
      (taskRun.status = .succeeded ∨ taskRun.status = .reused) ∧
      (∀ existing ∈ state.outputCheckpoints.find? checkpoint.taskRunId,
        existing = checkpoint) ∧
      (setTaskOutputCheckpoint checkpoint).run state =
        (.ok (), state.addCheckpoint checkpoint)) ∨
    ∃ error, (setTaskOutputCheckpoint checkpoint).run state = (.error error, state) := by
  rcases getTaskRun_cases checkpoint.taskRunId state with ⟨taskRun, hfound, hget⟩ | ⟨-, hget⟩
  · by_cases hstatus : taskRun.status = .succeeded ∨ taskRun.status = .reused
    · by_cases hsame : ∀ existing ∈ state.outputCheckpoints.find? checkpoint.taskRunId,
          existing = checkpoint
      · refine Or.inl ⟨taskRun, hfound, hstatus, hsame, ?_⟩
        unfold setTaskOutputCheckpoint
        rw [run_bind_of_ok hget, run_bind_of_ok (run_require_of hstatus _ _),
          run_bind_of_ok (run_get _), run_bind_of_ok (run_require_of hsame _ _)]
        rfl
      · exact Or.inr ⟨_, (run_bind_of_ok hget _).trans
          ((run_bind_of_ok (run_require_of hstatus _ _) _).trans
            ((run_bind_of_ok (run_get _) _).trans
              (run_bind_of_error (run_require_of_not hsame _ _) _)))⟩
    · exact Or.inr ⟨_, (run_bind_of_ok hget _).trans
        (run_bind_of_error (run_require_of_not hstatus _ _) _)⟩
  · exact Or.inr ⟨_, run_bind_of_error hget _⟩

theorem setManifestReference_cases (runId : WorkflowRunId)
    (reference : ManifestReference) (state : MemoryState) :
    (state.workflowRuns.find? runId ≠ none ∧
      (setManifestReference runId reference).run state =
        (.ok (), state.addManifest runId reference)) ∨
    ∃ error, (setManifestReference runId reference).run state = (.error error, state) := by
  by_cases hparent : state.workflowRuns.find? runId ≠ none
  · by_cases hsame : ∀ existing ∈ state.manifests.find? runId, existing.2 = reference
    · refine Or.inl ⟨hparent, ?_⟩
      unfold setManifestReference
      rw [run_bind_of_ok (run_get _), run_bind_of_ok (run_require_of hparent _ _),
        run_bind_of_ok (run_require_of hsame _ _)]
      rfl
    · exact Or.inr ⟨_, (run_bind_of_ok (run_get _) _).trans
        ((run_bind_of_ok (run_require_of hparent _ _) _).trans
          (run_bind_of_error (run_require_of_not hsame _ _) _))⟩
  · exact Or.inr ⟨_, (run_bind_of_ok (run_get _) _).trans
      (run_bind_of_error (run_require_of_not hparent _ _) _)⟩

end Creations

end Memory

end PyWorkflowKit.Persistence
