import PyWorkflowKit.V1.Definitions

/-!
# Capacity accounting

The slots of the concurrent runner: one for each active attempt, within a global limit
and the limit of the executor.
-/

namespace PyWorkflowKit.V1

open PyWorkflowKit.Core PyWorkflowKit.Domain

/-- One active execution reservation. -/
structure CapacityLease where
  attemptId : TaskAttemptId
  executorKey : Text
deriving DecidableEq

/-- `CapacityManager` for the executor of one runner. -/
structure CapacityManager where
  globalLimit : Int
  executorKey : Text
  executorLimit : Int
  activeByAttempt : Table CapacityLease.attemptId
  activeByExecutor : Int

namespace CapacityManager

/-- `_validate_positive_limit`. -/
def validatePositiveLimit (value : Int) (fieldName : String) : Except Error Int :=
  if value < 1 then
    .error (.capacityConfiguration (fieldName ++ " must be greater than or equal to 1"))
  else .ok value

/-- `CapacityManager.__init__` as `_new_capacity_manager` calls it. -/
def new (settings : RunnerSettings) : Except Error CapacityManager := do
  let globalLimit ← validatePositiveLimit
    (settings.globalLimit.getD settings.maxConcurrency) "global_limit"
  let configured ← validatePositiveLimit
    (settings.executorLimit.getD settings.maxConcurrency)
    ("per_executor_limits['" ++ settings.executorKey.value ++ "']")
  .ok {
    globalLimit := globalLimit
    executorKey := settings.executorKey
    executorLimit := min configured settings.maxConcurrency
    activeByAttempt := .empty
    activeByExecutor := 0 }

variable (capacity : CapacityManager)

/-- `try_acquire`: the lease, if a slot is available, and the slots afterwards. -/
def tryAcquire (executorKey : Text) (attemptId : TaskAttemptId) :
    Except Error (Option (CapacityLease × CapacityManager)) :=
  if executorKey ≠ capacity.executorKey then
    .error (.capacityConfiguration
      ("executor '" ++ executorKey.value ++ "' has no registered capacity contract"))
  else if capacity.activeByAttempt.contains attemptId then
    .error (.capacityInvariant
      ("attempt '" ++ attemptId.str ++ "' already owns a capacity slot"))
  else if capacity.globalLimit ≤ capacity.activeByAttempt.rows.length then .ok none
  else if capacity.executorLimit ≤ capacity.activeByExecutor then .ok none
  else
    let lease : CapacityLease := ⟨attemptId, executorKey⟩
    .ok (some (lease, { capacity with
      activeByAttempt := capacity.activeByAttempt.set lease
      activeByExecutor := capacity.activeByExecutor + 1 }))

/-- `release`. -/
def release (lease : CapacityLease) : Except Error CapacityManager :=
  match capacity.activeByAttempt.find? lease.attemptId with
  | none =>
      .error (.capacityRelease
        ("attempt '" ++ lease.attemptId.str ++ "' does not own an active capacity slot"))
  | some registered =>
      if registered.executorKey ≠ lease.executorKey then
        .error (.capacityRelease
          ("attempt '" ++ lease.attemptId.str ++ "' owns executor slot '" ++
            registered.executorKey.value ++ "', not '" ++ lease.executorKey.value ++ "'"))
      else if capacity.activeByExecutor - 1 < 0 then
        .error (.capacityInvariant
          ("executor '" ++ lease.executorKey.value ++ "' active slot count became negative"))
      else
        .ok { capacity with
          activeByAttempt :=
            capacity.activeByAttempt.filter fun held => held.attemptId ≠ lease.attemptId
          activeByExecutor := capacity.activeByExecutor - 1 }

end CapacityManager

end PyWorkflowKit.V1
