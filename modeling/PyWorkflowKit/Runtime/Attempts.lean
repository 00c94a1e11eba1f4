import PyWorkflowKit.Core.Sorting
import PyWorkflowKit.States.Entities
import Mathlib.Data.List.Range

/-!
# Attempt sequencing

The attempt that follows the existing attempts of a task run.
-/

namespace PyWorkflowKit.Runtime

open PyWorkflowKit.Core PyWorkflowKit.Domain PyWorkflowKit.States

/-- The loop over the existing attempts. -/
def checkAttempts (taskRunId : TaskRunId) :
    List TaskAttempt → List TaskAttemptId → List Int → Except PyError Unit
  | [], _, _ => .ok ()
  | attempt :: rest, seenIds, seenNumbers =>
      if attempt.taskRunId ≠ taskRunId then
        .error (.runtimeInvariant
          "all existing attempts must belong to the same TaskRun")
      else if attempt.attemptId ∈ seenIds then
        .error (.runtimeInvariant "duplicate TaskAttemptId in attempt sequence")
      else if attempt.attemptNumber ∈ seenNumbers then
        .error (.runtimeInvariant "duplicate attempt_number in attempt sequence")
      else
        checkAttempts taskRunId rest (attempt.attemptId :: seenIds)
          (attempt.attemptNumber :: seenNumbers)

/-- `tuple(range(1, count + 1))`. -/
def numbersFromOne (count : Nat) : List Int :=
  (List.range count).map fun index : Nat => (index : Int) + 1

/-- What the last of the existing attempts says against another one. -/
def previousViolation (previous : Option TaskAttempt) : Option PyError :=
  match previous with
  | none => none
  | some attempt =>
      if attempt.status = .failed ∨ attempt.status = .timedOut then none
      else
        some (.runtimeInvariant
          ("new attempt requires previous attempt to be FAILED or TIMED_OUT; got " ++
            attempt.status.value))

/-- `next_task_attempt`. -/
def nextTaskAttempt (taskRun : TaskRun) (existing : List TaskAttempt)
    (attemptId : TaskAttemptId) (createdAt : Instant) : Except PyError TaskAttempt :=
  if ¬ (taskRun.status = .ready ∨ taskRun.status = .running) then
    .error (.runtimeInvariant
      ("cannot create attempt while TaskRun " ++ taskRun.taskRunId.str ++ " is " ++
        taskRun.status.value))
  else
    match checkAttempts taskRun.taskRunId existing [] [] with
    | .error error => .error error
    | .ok () =>
        if attemptId ∈ existing.map TaskAttempt.attemptId then
          .error (.runtimeInvariant "new TaskAttemptId must be unique")
        else
          let ordered := sortBy TaskAttempt.attemptNumber existing
          if ordered.map TaskAttempt.attemptNumber ≠ numbersFromOne ordered.length then
            .error (.runtimeInvariant
              "existing attempt numbers must be contiguous from one")
          else
            match previousViolation ordered.getLast? with
            | some error => .error error
            | none =>
                .ok (TaskAttempt.new attemptId taskRun.taskRunId (ordered.length + 1)
                  (Nat.le_add_left 1 _) createdAt)

/-- The next attempt is a new one with the next number. -/
theorem nextTaskAttempt_eq_ok {taskRun : TaskRun} {existing : List TaskAttempt}
    {attemptId : TaskAttemptId} {createdAt : Instant} {attempt : TaskAttempt}
    (hattempt : nextTaskAttempt taskRun existing attemptId createdAt = .ok attempt) :
    attemptId ∉ existing.map TaskAttempt.attemptId ∧
      attempt = TaskAttempt.new attemptId taskRun.taskRunId (existing.length + 1)
        (Nat.le_add_left 1 _) createdAt := by
  unfold nextTaskAttempt at hattempt
  split at hattempt
  · cases hattempt
  split at hattempt
  · cases hattempt
  split at hattempt
  · cases hattempt
  next hfresh =>
  simp only at hattempt
  split at hattempt
  · cases hattempt
  split at hattempt
  · cases hattempt
  cases hattempt
  refine ⟨hfresh, ?_⟩
  congr 1
  rw [length_sortBy]

theorem nodup_numbersFromOne (count : Nat) : (numbersFromOne count).Nodup := by
  refine List.nodup_range.map_on fun left _ right _ heq => ?_
  have hsum : (left : Int) + 1 = (right : Int) + 1 := heq
  omega

theorem checkAttempts_eq_ok {taskRunId : TaskRunId} {attempts : List TaskAttempt}
    {seenIds : List TaskAttemptId} {seenNumbers : List Int}
    (howner : ∀ attempt ∈ attempts, attempt.taskRunId = taskRunId)
    (hids : (attempts.map TaskAttempt.attemptId).Nodup)
    (hnumbers : (attempts.map TaskAttempt.attemptNumber).Nodup)
    (hnewIds : ∀ attempt ∈ attempts, attempt.attemptId ∉ seenIds)
    (hnewNumbers : ∀ attempt ∈ attempts, attempt.attemptNumber ∉ seenNumbers) :
    checkAttempts taskRunId attempts seenIds seenNumbers = .ok () := by
  induction attempts generalizing seenIds seenNumbers with
  | nil => rfl
  | cons attempt rest ih =>
      rw [List.map_cons, List.nodup_cons] at hids hnumbers
      unfold checkAttempts
      rw [if_neg (not_not.mpr (howner attempt (by simp))),
        if_neg (hnewIds attempt (by simp)), if_neg (hnewNumbers attempt (by simp))]
      apply ih (fun other hother => howner other (List.mem_cons_of_mem _ hother)) hids.2
        hnumbers.2
      · intro other hother hseen
        rcases List.mem_cons.mp hseen with heq | hold
        · exact hids.1 (heq ▸ List.mem_map_of_mem hother)
        · exact hnewIds other (List.mem_cons_of_mem _ hother) hold
      · intro other hother hseen
        rcases List.mem_cons.mp hseen with heq | hold
        · exact hnumbers.1 (heq ▸ List.mem_map_of_mem hother)
        · exact hnewNumbers other (List.mem_cons_of_mem _ hother) hold

/-- A running task whose attempts are numbered in order and failed can have another. -/
theorem exists_nextTaskAttempt {taskRun : TaskRun} {existing : List TaskAttempt}
    {attemptId : TaskAttemptId} {createdAt : Instant} (hrunning : taskRun.status = .running)
    (howner : ∀ attempt ∈ existing, attempt.taskRunId = taskRun.taskRunId)
    (hids : (existing.map TaskAttempt.attemptId).Nodup)
    (hnumbers : existing.map TaskAttempt.attemptNumber = numbersFromOne existing.length)
    (hfresh : ∀ attempt ∈ existing, attempt.attemptId ≠ attemptId)
    (hfailed : ∀ attempt ∈ existing,
      attempt.status = .failed ∨ attempt.status = .timedOut) :
    ∃ attempt, nextTaskAttempt taskRun existing attemptId createdAt = .ok attempt := by
  have hcheck : checkAttempts taskRun.taskRunId existing [] [] = .ok () := by
    apply checkAttempts_eq_ok howner hids
    · rw [hnumbers]
      exact nodup_numbersFromOne _
    · simp
    · simp
  have hsorted : sortBy TaskAttempt.attemptNumber existing = existing := by
    apply sortBy_eq_self
    rw [← List.pairwise_map, hnumbers]
    exact List.pairwise_map.mpr (List.pairwise_lt_range.imp fun hlt => by omega)
  have hnew : attemptId ∉ existing.map TaskAttempt.attemptId := by
    intro hmem
    obtain ⟨attempt, hattempt, heq⟩ := List.mem_map.mp hmem
    exact hfresh attempt hattempt heq
  have hnumbered : (sortBy TaskAttempt.attemptNumber existing).map TaskAttempt.attemptNumber =
      numbersFromOne (sortBy TaskAttempt.attemptNumber existing).length := by
    rw [hsorted]
    exact hnumbers
  have hprevious : previousViolation (sortBy TaskAttempt.attemptNumber existing).getLast? =
      none := by
    rw [hsorted]
    unfold previousViolation
    split
    · rfl
    · next attempt hlast =>
      rw [if_pos (hfailed attempt (List.mem_of_getLast? hlast))]
  unfold nextTaskAttempt
  rw [if_neg (not_not.mpr (Or.inr hrunning)), hcheck]
  simp only
  rw [if_neg hnew, if_neg (not_not.mpr hnumbered), hprevious]
  exact ⟨_, rfl⟩

end PyWorkflowKit.Runtime
