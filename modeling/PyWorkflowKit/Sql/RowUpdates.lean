import PyWorkflowKit.Domain.IsoText
import PyWorkflowKit.Sql.EntityRows
import PyWorkflowKit.Sql.Store

/-!
# Rows after an update

The columns that an update rewrites, and the round trip of every stored value through its row,
whether the row was created for it or rewritten.
-/

namespace PyWorkflowKit.Sql

open PyWorkflowKit.Core PyWorkflowKit.Domain PyWorkflowKit.States
open PyWorkflowKit.Persistence

/-- `apply_task_run_row`. -/
def applyTaskRunRow (target : TaskRunRow) (value : TaskRun) : TaskRunRow :=
  { target with
    status := (taskRunColumns value.status value.failure).1
    startedAt := value.startedAt
    endedAt := value.endedAt
    skipReason := value.skipReason.map SkipReason.value
    blockReason := value.blockReason.map BlockReason.value
    failureJson := (taskRunColumns value.status value.failure).2 }

/-- `apply_attempt_row`. -/
def applyAttemptRow (target : TaskAttemptRow) (value : TaskAttempt) : TaskAttemptRow :=
  { target with
    status := value.status.value
    startedAt := value.startedAt
    endedAt := value.endedAt
    failureJson := value.failure.map failureToJson }

section Identity

/-- The columns that a row keeps are those of the entity it is read as. -/
theorem identity_of_taskRunFromRow {row : TaskRunRow} {value : TaskRun}
    (hread : taskRunFromRow row = .ok value) :
    requireText row.taskRunId = .ok value.taskRunId.value ∧
      requireText row.workflowRunId = .ok value.workflowRunId.value ∧
      requireText row.taskKey = .ok value.taskKey ∧ row.createdAt = value.createdAt := by
  rw [taskRunFromRow] at hread
  obtain ⟨_, -, hread⟩ := bind_eq_ok hread
  obtain ⟨_, htaskRun, hread⟩ := bind_eq_ok hread
  obtain ⟨_, hrun, hread⟩ := bind_eq_ok hread
  obtain ⟨_, -, hread⟩ := bind_eq_ok hread
  obtain ⟨_, -, hread⟩ := bind_eq_ok hread
  obtain ⟨_, hkey, hread⟩ := bind_eq_ok hread
  split at hread
  · cases hread
    exact ⟨htaskRun, hrun, hkey, rfl⟩
  · cases hread

theorem identity_of_attemptFromRow {row : TaskAttemptRow} {value : TaskAttempt}
    (hread : attemptFromRow row = .ok value) :
    requireText row.attemptId = .ok value.attemptId.value ∧
      requireText row.taskRunId = .ok value.taskRunId.value ∧
      row.attemptNumber = value.attemptNumber ∧ row.createdAt = value.createdAt := by
  rw [attemptFromRow] at hread
  obtain ⟨_, hattempt, hread⟩ := bind_eq_ok hread
  obtain ⟨_, htaskRun, hread⟩ := bind_eq_ok hread
  obtain ⟨_, -, hread⟩ := bind_eq_ok hread
  obtain ⟨_, -, hread⟩ := bind_eq_ok hread
  split at hread
  · cases hread
    exact ⟨hattempt, htaskRun, rfl, rfl⟩
  · cases hread

end Identity

section Updates

/-- A task run comes back from a row that was rewritten for it. -/
theorem taskRunFromRow_applyTaskRunRow {row : TaskRunRow} {current value : TaskRun}
    (hread : taskRunFromRow row = .ok current) (hsame : current.SameIdentity value) :
    taskRunFromRow (applyTaskRunRow row value) = .ok value := by
  obtain ⟨htaskRun, hrun, hkey, hcreated⟩ := identity_of_taskRunFromRow hread
  obtain ⟨hsameTask, hsameRun, hsameKey, hsameCreated⟩ := hsame
  rw [hsameTask] at htaskRun
  rw [hsameRun] at hrun
  rw [hsameKey] at hkey
  rw [hsameCreated] at hcreated
  have hcolumns := taskRunFromColumns_taskRunColumns value.status value.failure
  have hskip := optionalMember_skipReason value.skipReason
  have hblock := optionalMember_blockReason value.blockReason
  simp only [taskRunFromRow, applyTaskRunRow, hcolumns, htaskRun, hrun, hskip, hblock, hkey,
    hcreated, bind, Except.bind]
  exact dif_pos value.valid

/-- An attempt comes back from a row that was rewritten for it. -/
theorem attemptFromRow_applyAttemptRow {row : TaskAttemptRow} {current value : TaskAttempt}
    (hread : attemptFromRow row = .ok current) (hsame : current.SameIdentity value) :
    attemptFromRow (applyAttemptRow row value) = .ok value := by
  obtain ⟨hattempt, htaskRun, hnumber, hcreated⟩ := identity_of_attemptFromRow hread
  obtain ⟨hsameAttempt, hsameTask, hsameNumber, hsameCreated⟩ := hsame
  rw [hsameAttempt] at hattempt
  rw [hsameTask] at htaskRun
  rw [hsameNumber] at hnumber
  rw [hsameCreated] at hcreated
  have hstatus := requireMember_attemptStatus value.status
  have hfailure := optionalFailureFromJson_map value.failure
  simp only [attemptFromRow, applyAttemptRow, hattempt, htaskRun, hnumber, hcreated, hstatus,
    hfailure, bind, Except.bind]
  exact dif_pos value.valid

/-- A task run that waits. -/
def waitingTask : TaskRun :=
  TaskRun.new ⟨.lit "task-run-1"⟩ ⟨.lit "run-1"⟩ (.lit "load") Instant.first

/-- The same task run after its output was reused. -/
def reusedTask : TaskRun :=
  { waitingTask with status := .reused, endedAt := some Instant.first, valid := by decide }

end Updates

end PyWorkflowKit.Sql
