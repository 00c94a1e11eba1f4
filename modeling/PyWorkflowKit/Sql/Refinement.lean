import Mathlib
import PyWorkflowKit.Sql.Durability
import PyWorkflowKit.Sql.Mirror

/-!
# Refinement of the in-memory store

The relational store returns what the in-memory store returns, over whole
histories: each operation keeps the stores mirrored and gives equal values or
errors of one class.
-/

namespace PyWorkflowKit.Sql

open PyWorkflowKit.Core PyWorkflowKit.Domain PyWorkflowKit.States
open PyWorkflowKit.Persistence

/-- Errors of the same class. -/
def SameClass (left right : PyError) : Prop := left.errorClass = right.errorClass

/-- Run on mirrored stores, the two operations give equal values and leave the
stores mirrored, or fail with errors of one class and no effect. -/
abbrev Refines {α : Type} (memory : MemoryState) (sql : SqlState)
    (left : MemoryAction α) (right : SqlAction α) : Prop :=
  Agree SameClass left right
    (fun value memory' other sql' => value = other ∧ Mirrors memory' sql') memory sql

namespace Mirrors

variable {memory : MemoryState} {sql : SqlState}

section Rows

/-- Looking up a workflow run and its row. -/
theorem workflowRow_agree (h : Mirrors memory sql) (runId : WorkflowRunId) :
    Agree SameClass (Memory.getWorkflowRun runId) (Store.workflowRow runId)
      (fun run memory' row sql' => memory' = memory ∧ sql' = sql ∧
        memory.workflowRuns.find? runId = some run ∧ row = workflowToRow run)
      memory sql := by
  refine Agree.readExcept ?_
  simp only [h.find?_workflowRun]
  cases hfound : memory.workflowRuns.find? runId with
  | none => rfl
  | some run => simp

theorem taskRow_agree (h : Mirrors memory sql) (taskRunId : TaskRunId) :
    Agree SameClass (Memory.getTaskRun taskRunId) (Store.taskRow taskRunId)
      (fun taskRun memory' row sql' => memory' = memory ∧ sql' = sql ∧
        memory.taskRuns.find? taskRunId = some taskRun ∧ row = taskRunToRow taskRun)
      memory sql := by
  refine Agree.readExcept ?_
  simp only [h.find?_taskRun]
  cases hfound : memory.taskRuns.find? taskRunId with
  | none => rfl
  | some taskRun => simp

theorem attemptRow_agree (h : Mirrors memory sql) (attemptId : TaskAttemptId) :
    Agree SameClass (Memory.getTaskAttempt attemptId) (Store.attemptRow attemptId)
      (fun attempt memory' row sql' => memory' = memory ∧ sql' = sql ∧
        memory.taskAttempts.find? attemptId = some attempt ∧
          row = attemptToRow attempt)
      memory sql := by
  refine Agree.readExcept ?_
  simp only [h.find?_taskAttempt]
  cases hfound : memory.taskAttempts.find? attemptId with
  | none => rfl
  | some attempt => simp

end Rows

section Transitions

/-- Both stores record a transition at a time with a UTC reading. -/
theorem appendTransition_both (h : Mirrors memory sql) (entityType : StateEntityType)
    (entityId : Text) (fromStatus : Option Text) (toStatus : Text) {at_ : Instant}
    (hutc : at_.InUtc) :
    ∃ value memory' other sql',
      (Memory.appendTransition entityType entityId fromStatus toStatus
        (some (.aware at_))).run memory = (.ok value, memory') ∧
      (Store.appendTransition entityType entityId.value (fromStatus.map Text.value)
        toStatus.value (some (.aware at_))).run sql = (.ok other, sql') ∧
      value = other ∧ Mirrors memory' sql' :=
  ⟨(), _, (), _, rfl, Store.run_appendTransition_of_inUtc _ _ _ _ hutc sql, rfl,
    h.withTransition entityType entityId fromStatus toStatus at_⟩

/-- Both stores record the transition of an update when the status changed. -/
theorem appendIfChanged_both (h : Mirrors memory sql) {unchanged : Prop}
    [Decidable unchanged] (entityType : StateEntityType) (entityId : Text)
    (fromStatus : Option Text) (toStatus : Text) {transitionedAt : Option Timestamp}
    (haware : TimezoneAware transitionedAt)
    (hutc : ∀ at_ ∈ Timestamp.instants transitionedAt, at_.InUtc)
    (hpresent : ¬ unchanged → transitionedAt ≠ none) :
    ∃ value memory' other sql',
      (if unchanged then pure ()
        else Memory.appendTransition entityType entityId fromStatus toStatus
          transitionedAt).run memory = (.ok value, memory') ∧
      (if unchanged then pure ()
        else Store.appendTransition entityType entityId.value
          (fromStatus.map Text.value) toStatus.value transitionedAt).run sql =
        (.ok other, sql') ∧
      value = other ∧ Mirrors memory' sql' := by
  by_cases hunchanged : unchanged
  · rw [if_pos hunchanged, if_pos hunchanged]
    exact ⟨(), memory, (), sql, rfl, rfl, rfl, h⟩
  · rw [if_neg hunchanged, if_neg hunchanged]
    match transitionedAt, haware, hutc, hpresent hunchanged with
    | some (.aware at_), _, hutc, _ =>
        exact h.appendTransition_both entityType entityId fromStatus toStatus
          (hutc at_ (by simp [Timestamp.instants]))
    | some .naive, haware, _, _ => exact absurd rfl haware
    | none, _, _, hpresent => exact absurd rfl hpresent

end Transitions

section Lists

variable {α β κ : Type} [LinearOrder κ]

/-- Reading the image of a sorted list back gives the sorted list. -/
theorem gather_sorted {values : List α} {rows : List β} {toRow : α → β}
    {fromRow : β → Except PyError α} {rowKey : β → κ} (key : α → κ)
    (hrows : rows = values.map toRow) (hkey : ∀ value, rowKey (toRow value) = key value)
    (hread : ∀ value ∈ values, fromRow (toRow value) = .ok value) :
    gather ((sortBy rowKey rows).map fromRow) = .ok (sortBy key values) := by
  have hsorted : ∀ value ∈ sortBy key values, (fromRow ∘ toRow) value = .ok value :=
    fun value hvalue => hread value ((mem_sortBy key values value).mp hvalue)
  have hkeys : (fun value => rowKey (toRow value)) = key := funext hkey
  rw [hrows, sortBy_map, hkeys, List.map_map, List.map_congr_left hsorted,
    gather_map_ok (fun value => value), List.map_id']

omit [LinearOrder κ] in
theorem filter_image {values : List α} {rows : List β} {toRow : α → β}
    {keep : α → Bool} {keepRow : β → Bool} (hrows : rows = values.map toRow)
    (hkeep : ∀ value, keepRow (toRow value) = keep value) :
    rows.filter keepRow = (values.filter keep).map toRow := by
  have hcomp : keepRow ∘ toRow = keep := funext hkeep
  rw [hrows, List.filter_map, hcomp]

theorem read_refines (h : Mirrors memory sql) {query : MemoryState → α}
    {sqlQuery : SqlState → Except PyError α}
    (hquery : sqlQuery sql = .ok (query memory)) :
    Refines memory sql (Action.read query) (Action.readExcept sqlQuery) :=
  Agree.of_ok (Action.run_read query memory)
    ((Action.run_readExcept sqlQuery sql).trans (by rw [hquery])) ⟨rfl, h⟩

theorem bindable_pair {startedAt endedAt : Option Instant}
    (hutc : ∀ at_ ∈ startedAt.toList ++ endedAt.toList, at_.InUtc) :
    bindable [startedAt, endedAt] := by
  intro column hcolumn at_ hat
  refine hutc at_ ?_
  simp only [List.mem_cons, List.not_mem_nil, or_false] at hcolumn
  rcases hcolumn with rfl | rfl <;> simp [Option.mem_def.mp hat]

end Lists

section WorkflowRuns

theorem storedCorrelation_of_plain {correlation : CorrelationContext}
    (hplain : PlainCorrelation correlation) :
    storedCorrelation correlation = correlation :=
  (storedCorrelation_eq_self_iff correlation).mpr hplain

theorem createWorkflowRun_refines (h : Mirrors memory sql) {run : WorkflowRun}
    (hplain : PlainCorrelation run.correlation)
    (hutc : ∀ at_ ∈ (StoreOp.createWorkflowRun run).instants, at_.InUtc) :
    Refines memory sql (Memory.createWorkflowRun run)
      (Store.createWorkflowRun run) := by
  have hbind : bindable (workflowToRow run).timestamps := by
    simpa [bindable, WorkflowRunRow.timestamps, workflowToRow, StoreOp.instants,
      or_imp, forall_and] using hutc
  refine Agree.transaction (Agree.require_bind Iff.rfl rfl fun _ =>
    Agree.get_bind (Agree.require_bind ?_ rfl fun _ =>
      Agree.require_right hbind (Agree.modify_bind ?_)))
  · simp [Table.contains, h.find?_workflowRun]
  · exact (h.withWorkflowRun (storedCorrelation_of_plain hplain)).appendTransition_both
      .workflowRun run.runId.value none run.status.text
      (hutc _ List.mem_cons_self)

theorem getWorkflowRun_refines (h : Mirrors memory sql) (runId : WorkflowRunId) :
    Refines memory sql (Memory.getWorkflowRun runId) (Store.getWorkflowRun runId) := by
  refine Agree.query_convert (h.workflowRow_agree runId) ?_
  rintro run row ⟨hfound, rfl⟩
  exact ⟨run, h.workflowFromRow_of_mem (Table.mem_of_find? hfound), rfl, h⟩

theorem updateWorkflowRun_refines (h : Mirrors memory sql) {run : WorkflowRun}
    {expectedStatus : WorkflowRunStatus} {transitionedAt : Option Timestamp}
    (hadmissible : (StoreOp.updateWorkflowRun run expectedStatus
      transitionedAt).Admissible memory)
    (hutc : ∀ at_ ∈ (StoreOp.updateWorkflowRun run expectedStatus
      transitionedAt).instants, at_.InUtc) :
    Refines memory sql (Memory.updateWorkflowRun run expectedStatus transitionedAt)
      (Store.updateWorkflowRun run expectedStatus transitionedAt) := by
  obtain ⟨hplain, haware, hresume⟩ := hadmissible
  have hbind : bindable [run.startedAt, run.endedAt] :=
    bindable_pair fun at_ hat => hutc at_ (List.mem_append_left _ hat)
  have htransition : ∀ at_ ∈ Timestamp.instants transitionedAt, at_.InUtc :=
    fun at_ hat => hutc at_ (List.mem_append_right _ hat)
  refine Agree.transaction (Agree.query_bind (h.workflowRow_agree run.runId) ?_)
  rintro current row ⟨hfound, rfl⟩
  have hmem := Table.mem_of_find? hfound
  rw [h.workflowFromRow_of_mem hmem]
  refine Agree.run_right (Action.run_bind_of_ok (Action.run_ofExcept _ _) _) ?_
  refine Agree.require_bind Iff.rfl rfl fun hexpected =>
    Agree.require_bind Iff.rfl rfl fun hidentity =>
      Agree.require_bind Iff.rfl rfl fun htimestamp =>
        Agree.require_right hbind (Agree.require_right ?_ (Agree.modify_bind ?_))
  · exact congrArg WorkflowRunStatus.value hexpected
  · obtain ⟨hid, hname, hversion, hdefinition, hplan, hcorrelation, hcreated⟩ :=
      hidentity
    have hrow : ({ workflowToRow current with
        status := run.status.value
        startedAt := run.startedAt
        endedAt := run.endedAt
        failureJson := run.failure.map failureToJson } : WorkflowRunRow) =
          workflowToRow run := by
      simp [workflowToRow, workflowCorrelationJson, hid, hname, hversion,
        hdefinition, hplan, hcorrelation, hcreated, hresume current hfound]
    rw [hrow]
    exact (h.withWorkflowRun (storedCorrelation_of_plain hplain)).appendIfChanged_both
      .workflowRun run.runId.value (some current.status.text) run.status.text haware
      htransition fun hchanged hnone => htimestamp ⟨by simpa using hchanged, hnone⟩

theorem listWorkflowRuns_refines (h : Mirrors memory sql) :
    Refines memory sql (Action.read MemoryState.listWorkflowRuns)
      Store.listWorkflowRuns :=
  h.read_refines (gather_sorted _ h.workflowRuns (fun _ => rfl)
    fun _ hrun => h.workflowFromRow_of_mem hrun)

theorem listUnfinishedWorkflowRuns_refines (h : Mirrors memory sql) :
    Refines memory sql (Action.read MemoryState.listUnfinishedWorkflowRuns)
      Store.listUnfinishedWorkflowRuns := by
  refine h.read_refines (gather_sorted _ (filter_image h.workflowRuns ?_)
    (fun _ => rfl) fun _ hrun =>
      h.workflowFromRow_of_mem (List.mem_filter.mp hrun).1)
  intro run
  change (! ["SUCCEEDED", "FAILED", "CANCELLED", "TIMED_OUT"].contains
    run.status.value) = !run.status.isTerminal
  cases run.status <;> decide

end WorkflowRuns

section TaskRuns

theorem createTaskRun_refines (h : Mirrors memory sql) {taskRun : TaskRun}
    (hutc : ∀ at_ ∈ (StoreOp.createTaskRun taskRun).instants, at_.InUtc) :
    Refines memory sql (Memory.createTaskRun taskRun)
      (Store.createTaskRun taskRun) := by
  have hbind : bindable (taskRunToRow taskRun).timestamps := by
    simpa [bindable, TaskRunRow.timestamps, taskRunToRow, StoreOp.instants,
      or_imp, forall_and] using hutc
  refine Agree.transaction (Agree.require_bind Iff.rfl rfl fun _ =>
    Agree.get_bind (Agree.require_bind ?_ rfl fun _ =>
      Agree.require_bind ?_ rfl fun _ =>
        Agree.require_right hbind (Agree.modify_bind ?_)))
  · simp [Table.contains, h.find?_taskRun]
  · simp [Table.contains, h.find?_workflowRun, Option.isSome_iff_ne_none]
  · exact (h.withTaskRun taskRun).appendTransition_both .taskRun
      taskRun.taskRunId.value none taskRun.status.text (hutc _ List.mem_cons_self)

theorem getTaskRun_refines (h : Mirrors memory sql) (taskRunId : TaskRunId) :
    Refines memory sql (Memory.getTaskRun taskRunId) (Store.getTaskRun taskRunId) := by
  refine Agree.query_convert (h.taskRow_agree taskRunId) ?_
  rintro taskRun row ⟨-, rfl⟩
  exact ⟨taskRun, taskRunFromRow_taskRunToRow taskRun, rfl, h⟩

theorem updateTaskRun_refines (h : Mirrors memory sql) {taskRun : TaskRun}
    {expectedStatus : TaskRunStatus} {transitionedAt : Option Timestamp}
    (haware : TimezoneAware transitionedAt)
    (hutc : ∀ at_ ∈ (StoreOp.updateTaskRun taskRun expectedStatus
      transitionedAt).instants, at_.InUtc) :
    Refines memory sql (Memory.updateTaskRun taskRun expectedStatus transitionedAt)
      (Store.updateTaskRun taskRun expectedStatus transitionedAt) := by
  have hbind : bindable [taskRun.startedAt, taskRun.endedAt] :=
    bindable_pair fun at_ hat => hutc at_ (List.mem_append_left _ hat)
  have htransition : ∀ at_ ∈ Timestamp.instants transitionedAt, at_.InUtc :=
    fun at_ hat => hutc at_ (List.mem_append_right _ hat)
  refine Agree.transaction (Agree.query_bind (h.taskRow_agree taskRun.taskRunId) ?_)
  rintro current row ⟨-, rfl⟩
  rw [taskRunFromRow_taskRunToRow]
  refine Agree.run_right (Action.run_bind_of_ok (Action.run_ofExcept _ _) _) ?_
  refine Agree.require_bind Iff.rfl rfl fun hexpected =>
    Agree.require_bind Iff.rfl rfl fun hidentity =>
      Agree.require_bind Iff.rfl rfl fun htimestamp =>
        Agree.require_right hbind (Agree.require_right ?_ (Agree.modify_bind ?_))
  · subst hexpected
    by_cases hreused : current.status = .reused <;>
      simp [taskRunToRow, taskRunColumns, hreused]
  · obtain ⟨hid, hrun, hkey, hcreated⟩ := hidentity
    have hrow : ({ taskRunToRow current with
        status := (taskRunColumns taskRun.status taskRun.failure).1
        startedAt := taskRun.startedAt
        endedAt := taskRun.endedAt
        skipReason := taskRun.skipReason.map SkipReason.value
        blockReason := taskRun.blockReason.map BlockReason.value
        failureJson := (taskRunColumns taskRun.status taskRun.failure).2 } :
          TaskRunRow) = taskRunToRow taskRun := by
      simp [taskRunToRow, hid, hrun, hkey, hcreated]
    rw [hrow]
    exact (h.withTaskRun taskRun).appendIfChanged_both .taskRun
      taskRun.taskRunId.value (some current.status.text) taskRun.status.text haware
      htransition fun hchanged hnone => htimestamp ⟨by simpa using hchanged, hnone⟩

theorem listTaskRuns_refines (h : Mirrors memory sql) (workflowRunId : WorkflowRunId) :
    Refines memory sql (Action.read (MemoryState.listTaskRuns · workflowRunId))
      (Store.listTaskRuns workflowRunId) := by
  refine h.read_refines (gather_sorted _ (filter_image h.taskRuns ?_)
    (fun _ => rfl) fun taskRun _ => taskRunFromRow_taskRunToRow taskRun)
  intro taskRun
  exact decide_eq_decide.mpr
    ⟨WorkflowRunId.str_injective, fun heq => congrArg WorkflowRunId.str heq⟩

end TaskRuns

section TaskAttempts

theorem attemptRowsOf_eq (h : Mirrors memory sql) (taskRunId : TaskRunId) :
    Store.attemptRowsOf sql taskRunId.str =
      (memory.attemptsOf taskRunId).map attemptToRow := by
  refine filter_image h.taskAttempts ?_
  intro attempt
  exact decide_eq_decide.mpr
    ⟨TaskRunId.str_injective, fun heq => congrArg TaskRunId.str heq⟩

theorem max?_range' (count : Nat) :
    ((List.range' 1 count).map Int.ofNat).max? =
      if count = 0 then none else some (count : Int) := by
  cases count with
  | zero => rfl
  | succ count =>
      rw [if_neg (Nat.succ_ne_zero count), List.max?_eq_some_iff]
      refine ⟨List.mem_map.mpr ⟨count + 1, List.mem_range'_1.mpr ⟨by omega, by omega⟩,
        rfl⟩, ?_⟩
      intro number hnumber
      obtain ⟨index, hindex, rfl⟩ := List.mem_map.mp hnumber
      have hbound := (List.mem_range'_1.mp hindex).2
      change (index : Int) ≤ ((count + 1 : Nat) : Int)
      omega

/-- The next attempt number: one more than the number of attempts is one more
than the largest number. -/
theorem expectedNumber_eq (h : Mirrors memory sql) (taskRunId : TaskRunId) :
    Store.numberAfter ((Store.attemptRowsOf sql taskRunId.str).map
        TaskAttemptRow.attemptNumber).max? =
      ((memory.attemptsOf taskRunId).length : Int) + 1 := by
  have hnumbers : (Store.attemptRowsOf sql taskRunId.str).map
      TaskAttemptRow.attemptNumber =
        (memory.attemptsOf taskRunId).map TaskAttempt.attemptNumber := by
    rw [h.attemptRowsOf_eq, List.map_map]
    rfl
  rw [hnumbers, h.contiguous, max?_range']
  by_cases hempty : (memory.attemptsOf taskRunId).length = 0
  · simp [hempty, Store.numberAfter]
  · simp [hempty, Store.numberAfter]

theorem appendTaskAttempt_refines (h : Mirrors memory sql) {attempt : TaskAttempt}
    (hutc : ∀ at_ ∈ (StoreOp.appendTaskAttempt attempt).instants, at_.InUtc) :
    Refines memory sql (Memory.appendTaskAttempt attempt)
      (Store.appendTaskAttempt attempt) := by
  have hbind : bindable (attemptToRow attempt).timestamps := by
    simpa [bindable, TaskAttemptRow.timestamps, attemptToRow, StoreOp.instants,
      or_imp, forall_and] using hutc
  refine Agree.transaction (Agree.require_bind Iff.rfl rfl fun _ =>
    Agree.get_bind (Agree.require_bind ?_ rfl fun hnew =>
      Agree.require_bind ?_ rfl fun _ => Agree.require_bind ?_ rfl fun hnumber =>
        Agree.require_right hbind (Agree.modify_bind ?_)))
  · simp [Table.contains, h.find?_taskAttempt]
  · simp [Table.contains, h.find?_taskRun, Option.isSome_iff_ne_none]
  · rw [h.expectedNumber_eq]
  · exact (h.withNewAttempt hnew hnumber).appendTransition_both .taskAttempt
      attempt.attemptId.value none attempt.status.text (hutc _ List.mem_cons_self)

theorem getTaskAttempt_refines (h : Mirrors memory sql) (attemptId : TaskAttemptId) :
    Refines memory sql (Memory.getTaskAttempt attemptId)
      (Store.getTaskAttempt attemptId) := by
  refine Agree.query_convert (h.attemptRow_agree attemptId) ?_
  rintro attempt row ⟨-, rfl⟩
  exact ⟨attempt, attemptFromRow_attemptToRow attempt, rfl, h⟩

theorem updateTaskAttempt_refines (h : Mirrors memory sql) {attempt : TaskAttempt}
    {expectedStatus : TaskAttemptStatus} {transitionedAt : Option Timestamp}
    (haware : TimezoneAware transitionedAt)
    (hutc : ∀ at_ ∈ (StoreOp.updateTaskAttempt attempt expectedStatus
      transitionedAt).instants, at_.InUtc) :
    Refines memory sql
      (Memory.updateTaskAttempt attempt expectedStatus transitionedAt)
      (Store.updateTaskAttempt attempt expectedStatus transitionedAt) := by
  have hbind : bindable [attempt.startedAt, attempt.endedAt] :=
    bindable_pair fun at_ hat => hutc at_ (List.mem_append_left _ hat)
  have htransition : ∀ at_ ∈ Timestamp.instants transitionedAt, at_.InUtc :=
    fun at_ hat => hutc at_ (List.mem_append_right _ hat)
  refine Agree.transaction
    (Agree.query_bind (h.attemptRow_agree attempt.attemptId) ?_)
  rintro current row ⟨hfound, rfl⟩
  rw [attemptFromRow_attemptToRow]
  refine Agree.run_right (Action.run_bind_of_ok (Action.run_ofExcept _ _) _) ?_
  refine Agree.require_bind Iff.rfl rfl fun hexpected =>
    Agree.require_bind Iff.rfl rfl fun hidentity =>
      Agree.require_bind Iff.rfl rfl fun htimestamp =>
        Agree.require_right hbind (Agree.require_right ?_ (Agree.modify_bind ?_))
  · exact congrArg TaskAttemptStatus.value hexpected
  · have hrow : ({ attemptToRow current with
        status := attempt.status.value
        startedAt := attempt.startedAt
        endedAt := attempt.endedAt
        failureJson := attempt.failure.map failureToJson } : TaskAttemptRow) =
          attemptToRow attempt := by
      obtain ⟨hid, htask, hnumber, hcreated⟩ := hidentity
      simp [attemptToRow, hid, htask, hnumber, hcreated]
    rw [hrow]
    exact (h.withUpdatedAttempt (Table.mem_of_find? hfound)
      hidentity).appendIfChanged_both .taskAttempt attempt.attemptId.value
      (some current.status.text) attempt.status.text haware htransition
      fun hchanged hnone => htimestamp ⟨by simpa using hchanged, hnone⟩

theorem listTaskAttempts_refines (h : Mirrors memory sql) (taskRunId : TaskRunId) :
    Refines memory sql (Action.read (MemoryState.listTaskAttempts · taskRunId))
      (Store.listTaskAttempts taskRunId) :=
  h.read_refines (gather_sorted _ (h.attemptRowsOf_eq taskRunId) (fun _ => rfl)
    fun attempt _ => attemptFromRow_attemptToRow attempt)

end TaskAttempts

section Evidence

theorem mem_externalRefs (h : Mirrors memory sql) (row : ExternalRunRefRow) :
    row ∈ sql.externalRefs.rows ↔
      ∃ entry ∈ memory.externalRefs.rows.zipIdx 1,
        externalRefToRow entry.2 entry.1.1 entry.1.2 = row := by
  rw [h.externalRefs, List.mem_map]

/-- The unique constraint on external references is the key of the dictionary. -/
theorem externalRef_new_iff (h : Mirrors memory sql) (attemptId : TaskAttemptId)
    (externalRef : ExternalRunRef) :
    memory.externalRefs.find? (externalRefKey (attemptId, externalRef)) = none ↔
      ¬ ∃ row ∈ sql.externalRefs.rows, row.attemptId = attemptId.str ∧
        row.provider = externalRef.provider.value ∧
        row.kind = externalRef.kind.value ∧
        row.externalRunId = externalRef.externalRunId.value := by
  rw [Table.find?_eq_none_iff]
  constructor
  · rintro hnew ⟨row, hrow, hattempt, hprovider, hkind, hid⟩
    obtain ⟨⟨entry, index⟩, hentry, rfl⟩ := (h.mem_externalRefs row).mp hrow
    refine hnew entry (List.fst_mem_of_mem_zipIdx hentry) ?_
    simp only [externalRefKey, Prod.mk.injEq]
    exact ⟨TaskAttemptId.str_injective hattempt, Text.ext hprovider, Text.ext hkind,
      Text.ext hid⟩
  · intro hnew entry hentry hkey
    simp only [externalRefKey, Prod.mk.injEq] at hkey
    obtain ⟨hattempt, hprovider, hkind, hid⟩ := hkey
    have hfst : entry ∈ (memory.externalRefs.rows.zipIdx 1).map Prod.fst := by
      rwa [List.zipIdx_map_fst]
    obtain ⟨⟨_, index⟩, hindex, rfl⟩ := List.mem_map.mp hfst
    exact hnew ⟨_, (h.mem_externalRefs _).mpr ⟨_, hindex, rfl⟩,
      congrArg TaskAttemptId.str hattempt, congrArg Text.value hprovider,
      congrArg Text.value hkind, congrArg Text.value hid⟩

theorem appendExternalRunRef_refines (h : Mirrors memory sql)
    (attemptId : TaskAttemptId) (externalRef : ExternalRunRef) :
    Refines memory sql (Memory.appendExternalRunRef attemptId externalRef)
      (Store.appendExternalRunRef attemptId externalRef) := by
  refine Agree.transaction (Agree.get_bind (Agree.require_bind ?_ rfl fun _ =>
    Agree.require_bind (h.externalRef_new_iff attemptId externalRef) rfl fun hnew =>
      Agree.of_ok (Action.run_modify _ _) (Action.run_modify _ _)
        ⟨rfl, h.withExternalRef hnew⟩))
  simp [Table.contains, h.find?_taskAttempt, Option.isSome_iff_ne_none]

theorem listExternalRunRefs_refines (h : Mirrors memory sql)
    (attemptId : TaskAttemptId) :
    Refines memory sql (Action.read (MemoryState.listExternalRunRefs · attemptId))
      (Store.listExternalRunRefs attemptId) := by
  have hfilter : (sql.externalRefs.rows.filter fun row =>
      row.attemptId = attemptId.str) =
        ((memory.externalRefs.rows.zipIdx 1).filter fun entry =>
          entry.1.1 = attemptId).map fun entry =>
            externalRefToRow entry.2 entry.1.1 entry.1.2 :=
    filter_image h.externalRefs fun entry => decide_eq_decide.mpr
      ⟨TaskAttemptId.str_injective, fun heq => congrArg TaskAttemptId.str heq⟩
  have hplain : ((memory.externalRefs.rows.zipIdx 1).filter fun entry =>
      entry.1.1 = attemptId).map (fun entry => entry.1.2) =
        (memory.externalRefs.rows.filter fun row => row.1 = attemptId).map
          Prod.snd := by
    have hfst : ((memory.externalRefs.rows.zipIdx 1).map Prod.fst) =
        memory.externalRefs.rows := List.zipIdx_map_fst 1 _
    conv_rhs => rw [← hfst, List.filter_map, List.map_map]
    rfl
  refine h.read_refines ?_
  simp only [MemoryState.listExternalRunRefs, ← hplain, hfilter, sortBy_map,
    List.map_map]
  have hread : ∀ entry : (TaskAttemptId × ExternalRunRef) × Nat,
      (externalRefFromRow ∘ fun entry : (TaskAttemptId × ExternalRunRef) × Nat =>
        externalRefToRow entry.2 entry.1.1 entry.1.2) entry = .ok entry.1.2 :=
    fun entry => externalRefFromRow_externalRefToRow entry.2 entry.1.1 entry.1.2
  rw [List.map_congr_left fun entry _ => hread entry]
  exact gather_map_ok
    (fun entry : (TaskAttemptId × ExternalRunRef) × Nat => entry.1.2) _

theorem transitions_pairwise (h : Mirrors memory sql) :
    memory.transitions.Pairwise fun left right =>
      left.sequence ≤ right.sequence := by
  have hsorted : (memory.transitions.map StateTransitionRecord.sequence).Pairwise
      fun left right => left ≤ right := by
    rw [h.sequences]
    exact List.pairwise_le_range'
  exact List.pairwise_map.mp hsorted

/-- Ordering stored transitions by sequence keeps the order of insertion. -/
theorem sortBy_sequence (h : Mirrors memory sql) (keep : StateTransitionRecord → Bool) :
    sortBy StateTransitionRecord.sequence (memory.transitions.filter keep) =
      memory.transitions.filter keep :=
  sortBy_eq_self _ (h.transitions_pairwise.sublist List.filter_sublist)

theorem listStateTransitions_refines (h : Mirrors memory sql)
    (entityType : Option StateEntityType) (entityId : Option String) :
    Refines memory sql (Memory.listStateTransitions entityType entityId)
      (Store.listStateTransitions entityType entityId) := by
  have hread : ∀ keep : StateTransitionRecord → Bool,
      (∀ record, ((entityType.all fun wanted =>
          record.entityType.value = wanted.value) &&
        entityId.all fun wanted => record.entityId.value = wanted) = keep record) →
      gather ((sortBy StateTransitionRow.sequence
        (sql.transitions.rows.filter fun row =>
          (entityType.all fun wanted => row.entityType = wanted.value) &&
            entityId.all fun wanted => row.entityId = wanted)).map
              transitionFromRow) = .ok (memory.transitions.filter keep) := by
    intro keep hkeep
    rw [gather_sorted StateTransitionRecord.sequence
      (filter_image h.transitions hkeep) (fun _ => rfl)
      fun record _ => transitionFromRow_transitionToRow record, h.sortBy_sequence]
  have htype : ∀ record : StateTransitionRecord,
      (entityType.all fun wanted => record.entityType.value = wanted.value) =
        entityType.all fun wanted => record.entityType = wanted := by
    intro record
    cases entityType with
    | none => rfl
    | some wanted =>
        exact decide_eq_decide.mpr ⟨fun heq => StrEnum.value_injective heq,
          fun heq => congrArg StateEntityType.value heq⟩
  refine Agree.get_left ?_
  cases entityId with
  | none =>
      refine Agree.require_right (by simp) (Agree.of_ok (Action.run_pure _ _)
        ((Action.run_readExcept _ _).trans (by rw [hread _ fun _ => rfl])) ⟨?_, h⟩)
      apply List.filter_congr
      intro record _
      simp [htype]
  | some wanted =>
      refine Agree.require_bind (by simp) rfl fun _ => Agree.of_ok
        (Action.run_pure _ _) ((Action.run_readExcept _ _).trans
          (by rw [hread _ fun _ => rfl])) ⟨?_, h⟩
      rw [List.filter_filter]
      apply List.filter_congr
      intro record _
      simp [htype, Bool.and_comm]

theorem setTaskOutputCheckpoint_refines (h : Mirrors memory sql)
    {checkpoint : TaskOutputCheckpoint} (hutc : checkpoint.recordedAt.InUtc) :
    Refines memory sql (Memory.setTaskOutputCheckpoint checkpoint)
      (Store.setTaskOutputCheckpoint checkpoint) := by
  have hbind : bindable [some checkpoint.recordedAt] := by
    simpa [bindable] using hutc
  refine Agree.transaction
    (Agree.query_bind (h.taskRow_agree checkpoint.taskRunId) ?_)
  rintro taskRun row ⟨-, rfl⟩
  refine Agree.require_bind ?_ rfl fun _ => Agree.get_bind ?_
  · cases hstatus : taskRun.status <;>
      simp [taskRunToRow, taskRunColumns, hstatus, TaskRunStatus.value]
  · rw [h.find?_checkpoint]
    cases hfound : memory.outputCheckpoints.find? checkpoint.taskRunId with
    | none =>
        refine Agree.run_left (Action.run_bind_of_ok (Action.run_require_of
          (by simp) _ _) _) (Agree.require_right hbind (Agree.of_ok
            (Action.run_modify _ _) (Action.run_modify _ _)
            ⟨rfl, h.withCheckpoint checkpoint⟩))
    | some existing =>
        simp only [Option.map_some, outputCheckpointFromRow_outputCheckpointToRow]
        refine Agree.run_right (Action.run_bind_of_ok (Action.run_ofExcept _ _) _) ?_
        by_cases hsame : existing = checkpoint
        · subst hsame
          have hkept : memory.outputCheckpoints.set existing =
              memory.outputCheckpoints :=
            Table.set_of_mem _ (Table.mem_of_find? hfound)
          refine Agree.run_left (Action.run_bind_of_ok (Action.run_require_of
            (by simp) _ _) _) (Agree.of_ok (Action.run_modify _ _)
              (Action.run_require_of rfl _ _) ⟨trivial, ?_⟩)
          rw [hkept]
          exact h
        · exact Agree.of_error (Action.run_bind_of_error (Action.run_require_of_not
            (by simpa using hsame) _ _) _) (Action.run_require_of_not hsame _ _) rfl

theorem getTaskOutputCheckpoint_refines (h : Mirrors memory sql)
    (taskRunId : TaskRunId) :
    Refines memory sql (Memory.getTaskOutputCheckpoint taskRunId)
      (Store.getTaskOutputCheckpoint taskRunId) := by
  refine Agree.readExcept ?_
  simp only [h.find?_checkpoint]
  cases hfound : memory.outputCheckpoints.find? taskRunId with
  | none => rfl
  | some checkpoint =>
      simpa [outputCheckpointFromRow_outputCheckpointToRow] using h

theorem setManifestReference_refines (h : Mirrors memory sql)
    (runId : WorkflowRunId) (reference : ManifestReference) :
    Refines memory sql (Memory.setManifestReference runId reference)
      (Store.setManifestReference runId reference) := by
  refine Agree.transaction (Agree.get_bind (Agree.require_bind ?_ rfl fun _ => ?_))
  · simp [Table.contains, h.find?_workflowRun, Option.isSome_iff_ne_none]
  · rw [h.find?_manifest]
    cases hfound : memory.manifests.find? runId with
    | none =>
        exact Agree.run_left (Action.run_bind_of_ok (Action.run_require_of
          (by simp) _ _) _) (Agree.of_ok (Action.run_modify _ _)
            (Action.run_modify _ _) ⟨rfl, h.withManifest runId reference⟩)
    | some existing =>
        simp only [Option.map_some, manifestFromRow_manifestToRow]
        refine Agree.run_right (Action.run_bind_of_ok (Action.run_ofExcept _ _) _) ?_
        by_cases hsame : existing.2 = reference
        · have hexisting : (runId, reference) = existing :=
            Prod.ext (Table.key_of_find? hfound).symm hsame.symm
          have hkept : memory.manifests.set (runId, reference) = memory.manifests :=
            hexisting ▸ Table.set_of_mem _ (Table.mem_of_find? hfound)
          refine Agree.run_left (Action.run_bind_of_ok (Action.run_require_of
            (by simpa using hsame) _ _) _) (Agree.of_ok (Action.run_modify _ _)
              (Action.run_require_of hsame _ _) ⟨trivial, ?_⟩)
          rw [hkept]
          exact h
        · exact Agree.of_error (Action.run_bind_of_error (Action.run_require_of_not
            (by simpa using hsame) _ _) _) (Action.run_require_of_not hsame _ _) rfl

theorem getManifestReference_refines (h : Mirrors memory sql)
    (runId : WorkflowRunId) :
    Refines memory sql (Memory.getManifestReference runId)
      (Store.getManifestReference runId) := by
  refine Agree.readExcept ?_
  simp only [h.find?_manifest]
  cases hfound : memory.manifests.find? runId with
  | none => rfl
  | some entry => simpa [manifestFromRow_manifestToRow] using h

end Evidence

section Events

theorem filter_map_of_forall {α β : Type} {keep : β → Bool} {f : α → β}
    (hkeep : ∀ value, keep (f value) = true) (option : Option α) :
    (option.map f).filter keep = option.map f := by
  cases option with
  | none => rfl
  | some value => simp [Option.filter_some, hkeep value]

theorem filter_map_of_forall_not {α β : Type} {keep : β → Bool} {f : α → β}
    (hkeep : ∀ value, keep (f value) = false) (option : Option α) :
    (option.map f).filter keep = none := by
  cases option with
  | none => rfl
  | some value => simp [Option.filter_some, hkeep value]

theorem requireMember_entityType (entityType : StateEntityType) :
    requireMember entityType.value = .ok entityType :=
  requireMember_value entityType

/-- The two projections of a workflow run transition. -/
theorem eventForRow_workflowRun {runId : WorkflowRunId} {run : WorkflowRun}
    (hfound : memory.workflowRuns.find? runId = some run)
    {record : StateTransitionRecord} (htype : record.entityType = .workflowRun) :
    Store.eventForRow sql runId run.resumeOfRunId.isSome (transitionToRow record) =
      .ok ((memory.eventForTransition record).filter fun event =>
        event.workflowRunId = runId) := by
  have hmember := requireMember_entityType .workflowRun
  simp only [Store.eventForRow, transitionToRow, MemoryState.eventForTransition,
    htype, hmember, bind, Except.bind]
  by_cases hid : record.entityId.value = runId.str
  · have hkey : (⟨record.entityId⟩ : WorkflowRunId) = runId :=
      WorkflowRunId.str_injective hid
    have hrunId : run.runId = runId := Table.key_of_find? hfound
    rw [if_pos hid, hkey, hfound, Option.bind_some,
      filter_map_of_forall (by simp [hrunId])]
    cases hevent : runtimeEventTypeForTransition .workflowRun
        (record.fromStatus.map Text.value) record.toStatus.value none
        run.resumeOfRunId.isSome with
    | none => simp
    | some eventType => simp [hrunId, pure, Except.pure]
  · rw [if_neg hid]
    cases hother : memory.workflowRuns.find? ⟨record.entityId⟩ with
    | none => rfl
    | some other =>
        have hne : other.runId ≠ runId := by
          rw [Table.key_of_find? hother]
          rintro rfl
          exact hid rfl
        rw [Option.bind_some, filter_map_of_forall_not (by simp [hne])]

/-- The two projections of a task run transition. -/
theorem eventForRow_taskRun (h : Mirrors memory sql) {runId : WorkflowRunId}
    (isResume : Bool) {record : StateTransitionRecord}
    (htype : record.entityType = .taskRun) :
    Store.eventForRow sql runId isResume (transitionToRow record) =
      .ok ((memory.eventForTransition record).filter fun event =>
        event.workflowRunId = runId) := by
  have hmember := requireMember_entityType .taskRun
  have hlookup := h.find?_taskRun ⟨record.entityId⟩
  have hstr : (⟨record.entityId⟩ : TaskRunId).str = record.entityId.value := rfl
  rw [hstr] at hlookup
  simp only [Store.eventForRow, transitionToRow, MemoryState.eventForTransition,
    htype, hmember, bind, Except.bind, hlookup]
  cases hfound : memory.taskRuns.find? ⟨record.entityId⟩ with
  | none => rfl
  | some taskRun =>
      have htask : requireText (taskRunToRow taskRun).taskRunId =
          .ok taskRun.taskRunId.value := requireText_value taskRun.taskRunId.value
      have hkey : requireText (taskRunToRow taskRun).taskKey = .ok taskRun.taskKey :=
        requireText_value taskRun.taskKey
      simp only [Option.map_some, Option.bind_some, htask, hkey]
      by_cases hrun : taskRun.workflowRunId = runId
      · have hstr : (taskRunToRow taskRun).workflowRunId = runId.str :=
          congrArg WorkflowRunId.str hrun
        rw [if_pos hstr, filter_map_of_forall (by simp [hrun])]
        cases hevent : runtimeEventTypeForTransition .taskRun
            (record.fromStatus.map Text.value) record.toStatus.value none false with
        | none =>
            simp [show runtimeEventTypeForTransition .taskRun
              (record.fromStatus.map Text.value) record.toStatus.value none isResume =
                none from hevent]
        | some eventType =>
            simp [show runtimeEventTypeForTransition .taskRun
              (record.fromStatus.map Text.value) record.toStatus.value none isResume =
                some eventType from hevent, hrun, pure, Except.pure]
      · have hstr : ¬ (taskRunToRow taskRun).workflowRunId = runId.str :=
          fun heq => hrun (WorkflowRunId.str_injective heq)
        rw [if_neg hstr, filter_map_of_forall_not (by simp [hrun])]

/-- The two projections of an attempt transition. -/
theorem eventForRow_taskAttempt (h : Mirrors memory sql) {runId : WorkflowRunId}
    (isResume : Bool) {record : StateTransitionRecord}
    (htype : record.entityType = .taskAttempt) :
    Store.eventForRow sql runId isResume (transitionToRow record) =
      .ok ((memory.eventForTransition record).filter fun event =>
        event.workflowRunId = runId) := by
  have hmember := requireMember_entityType .taskAttempt
  have hlookup := h.find?_taskAttempt ⟨record.entityId⟩
  have hstr : (⟨record.entityId⟩ : TaskAttemptId).str = record.entityId.value := rfl
  rw [hstr] at hlookup
  simp only [Store.eventForRow, transitionToRow, MemoryState.eventForTransition,
    htype, hmember, bind, Except.bind, hlookup]
  cases hfound : memory.taskAttempts.find? ⟨record.entityId⟩ with
  | none => rfl
  | some attempt =>
      have htaskLookup := h.find?_taskRun attempt.taskRunId
      have hrow : (attemptToRow attempt).taskRunId = attempt.taskRunId.str := rfl
      simp only [Option.map_some, Option.bind_some, hrow, htaskLookup]
      cases htaskFound : memory.taskRuns.find? attempt.taskRunId with
      | none => rfl
      | some taskRun =>
          have htask : requireText (taskRunToRow taskRun).taskRunId =
              .ok taskRun.taskRunId.value :=
            requireText_value taskRun.taskRunId.value
          have hattempt : requireText (attemptToRow attempt).attemptId =
              .ok attempt.attemptId.value :=
            requireText_value attempt.attemptId.value
          have hkey : requireText (taskRunToRow taskRun).taskKey =
              .ok taskRun.taskKey := requireText_value taskRun.taskKey
          have hnumber : (attemptToRow attempt).attemptNumber =
              attempt.attemptNumber := rfl
          simp only [Option.map_some, Option.bind_some, htask, hattempt, hkey,
            hnumber]
          by_cases hrun : taskRun.workflowRunId = runId
          · have hstr : (taskRunToRow taskRun).workflowRunId = runId.str :=
              congrArg WorkflowRunId.str hrun
            rw [if_pos hstr, filter_map_of_forall (by simp [hrun])]
            cases hevent : runtimeEventTypeForTransition .taskAttempt
                (record.fromStatus.map Text.value) record.toStatus.value
                (some attempt.attemptNumber) false with
            | none =>
                simp [show runtimeEventTypeForTransition .taskAttempt
                  (record.fromStatus.map Text.value) record.toStatus.value
                  (some attempt.attemptNumber) isResume = none from hevent]
            | some eventType =>
                simp [show runtimeEventTypeForTransition .taskAttempt
                  (record.fromStatus.map Text.value) record.toStatus.value
                  (some attempt.attemptNumber) isResume = some eventType from hevent,
                  hrun, pure, Except.pure]
          · have hstr : ¬ (taskRunToRow taskRun).workflowRunId = runId.str :=
              fun heq => hrun (WorkflowRunId.str_injective heq)
            rw [if_neg hstr, filter_map_of_forall_not (by simp [hrun])]

theorem eventForRow_eq (h : Mirrors memory sql) {runId : WorkflowRunId}
    {run : WorkflowRun} (hfound : memory.workflowRuns.find? runId = some run)
    (record : StateTransitionRecord) :
    Store.eventForRow sql runId run.resumeOfRunId.isSome (transitionToRow record) =
      .ok ((memory.eventForTransition record).filter fun event =>
        event.workflowRunId = runId) := by
  cases htype : record.entityType with
  | workflowRun => exact eventForRow_workflowRun hfound htype
  | taskRun => exact h.eventForRow_taskRun _ htype
  | taskAttempt => exact h.eventForRow_taskAttempt _ htype

/-- The stored origin of a resumed run decides whether it is a resume. -/
theorem isResume_workflowToRow (run : WorkflowRun) :
    (getKey (workflowToRow run).correlationJson "resume_of_run_id").any truthy =
      run.resumeOfRunId.isSome := by
  cases hresume : run.resumeOfRunId with
  | none =>
      simp [workflowToRow, workflowCorrelationJson, hresume, correlationToJson, getKey]
  | some original =>
      have hnonempty : original.value ≠ "" := by
        intro hempty
        have hblank := original.notBlank
        rw [hempty] at hblank
        exact absurd hblank (by decide)
      simp [workflowToRow, workflowCorrelationJson, hresume, correlationToJson,
        truthy, hnonempty]

theorem listRuntimeEvents_refines (h : Mirrors memory sql)
    (workflowRunId : WorkflowRunId) :
    Refines memory sql (Memory.listRuntimeEvents workflowRunId)
      (Store.listRuntimeEvents workflowRunId) := by
  have hlookup := h.find?_workflowRun workflowRunId
  cases hfound : memory.workflowRuns.find? workflowRunId with
  | none =>
      rw [hfound] at hlookup
      have hrow : (Store.workflowRow workflowRunId).run sql =
          (.error (.metadataNotFound "WorkflowRun" workflowRunId.str), sql) := by
        simp [Store.workflowRow, hlookup]
      refine Agree.get_left (Agree.of_error (Action.run_bind_of_error
        (Action.run_require_of_not (by simp [hfound]) _ _) _)
        (Action.run_bind_of_error hrow _) rfl)
  | some run =>
      rw [hfound] at hlookup
      have hrow : (Store.workflowRow workflowRunId).run sql =
          (.ok (workflowToRow run), sql) := by
        simp [Store.workflowRow, hlookup]
      have hevents : (gather ((sortBy StateTransitionRow.sequence
          sql.transitions.rows).map (Store.eventForRow sql workflowRunId
            run.resumeOfRunId.isSome))).map List.reduceOption =
          .ok ((memory.transitions.filterMap memory.eventForTransition).filter
            fun event => event.workflowRunId = workflowRunId) := by
        have hsorted : sortBy (fun record => (transitionToRow record).sequence)
            memory.transitions = memory.transitions :=
          sortBy_eq_self _ h.transitions_pairwise
        have hrows : (Store.eventForRow sql workflowRunId run.resumeOfRunId.isSome) ∘
            transitionToRow = fun record =>
              .ok ((memory.eventForTransition record).filter fun event =>
                event.workflowRunId = workflowRunId) :=
          funext fun record => h.eventForRow_eq hfound record
        rw [h.transitions, sortBy_map, hsorted, List.map_map, hrows,
          gather_map_ok (fun record => (memory.eventForTransition record).filter
            fun event => event.workflowRunId = workflowRunId)]
        simp only [Except.map, List.reduceOption, List.filterMap_map,
          List.filter_filterMap]
        rfl
      refine Agree.get_left (Agree.run_left (Action.run_bind_of_ok
        (Action.run_require_of (by simp [hfound]) _ _) _)
        (Agree.run_right (Action.run_bind_of_ok hrow _) (Agree.of_ok
          (Action.run_pure _ _) ((Action.run_readExcept _ _).trans ?_) ⟨rfl, h⟩)))
      rw [isResume_workflowToRow, hevents]

end Events

end Mirrors

section Main

/-- One admissible operation keeps the stores mirrored and gives equal values
or errors of one class. -/
theorem perform_refines {memory : MemoryState} {sql : SqlState}
    (h : Mirrors memory sql) (op : StoreOp) (hadmissible : op.Admissible memory)
    (hutc : ∀ at_ ∈ op.instants, at_.InUtc) :
    Refines memory sql (Memory.perform op) (Store.perform op) := by
  cases op with
  | createWorkflowRun run =>
      exact (h.createWorkflowRun_refines hadmissible hutc).returning _
  | getWorkflowRun runId => exact (h.getWorkflowRun_refines runId).returning _
  | updateWorkflowRun run expectedStatus transitionedAt =>
      exact (h.updateWorkflowRun_refines hadmissible hutc).returning _
  | listWorkflowRuns => exact h.listWorkflowRuns_refines.returning _
  | listUnfinishedWorkflowRuns =>
      exact h.listUnfinishedWorkflowRuns_refines.returning _
  | createTaskRun taskRun => exact (h.createTaskRun_refines hutc).returning _
  | getTaskRun taskRunId => exact (h.getTaskRun_refines taskRunId).returning _
  | updateTaskRun taskRun expectedStatus transitionedAt =>
      exact (h.updateTaskRun_refines hadmissible hutc).returning _
  | listTaskRuns workflowRunId =>
      exact (h.listTaskRuns_refines workflowRunId).returning _
  | appendTaskAttempt attempt =>
      exact (h.appendTaskAttempt_refines hutc).returning _
  | getTaskAttempt attemptId =>
      exact (h.getTaskAttempt_refines attemptId).returning _
  | updateTaskAttempt attempt expectedStatus transitionedAt =>
      exact (h.updateTaskAttempt_refines hadmissible hutc).returning _
  | listTaskAttempts taskRunId =>
      exact (h.listTaskAttempts_refines taskRunId).returning _
  | appendExternalRunRef attemptId externalRef =>
      exact (h.appendExternalRunRef_refines attemptId externalRef).returning _
  | listExternalRunRefs attemptId =>
      exact (h.listExternalRunRefs_refines attemptId).returning _
  | listStateTransitions entityType entityId =>
      exact (h.listStateTransitions_refines entityType entityId).returning _
  | listRuntimeEvents workflowRunId =>
      exact (h.listRuntimeEvents_refines workflowRunId).returning _
  | setTaskOutputCheckpoint checkpoint =>
      exact (h.setTaskOutputCheckpoint_refines
        (hutc _ List.mem_cons_self)).returning _
  | getTaskOutputCheckpoint taskRunId =>
      exact (h.getTaskOutputCheckpoint_refines taskRunId).returning _
  | setManifestReference runId reference =>
      exact (h.setManifestReference_refines runId reference).returning _
  | getManifestReference runId =>
      exact (h.getManifestReference_refines runId).returning _

theorem outcomes_eq_of_mirrors {memory : MemoryState} {sql : SqlState}
    (h : Mirrors memory sql) {history : List StoreOp}
    (hadmissible : AdmissibleHistory memory history)
    (hutc : ∀ op ∈ history, ∀ at_ ∈ op.instants, at_.InUtc) :
    outcomes Memory.perform memory history = outcomes Store.perform sql history := by
  induction history generalizing memory sql with
  | nil => rfl
  | cons op rest ih =>
      obtain ⟨hop, hrest⟩ := hadmissible
      have hagree := perform_refines h op hop (hutc op List.mem_cons_self)
      have hutcRest := fun other hother =>
        hutc other (List.mem_cons_of_mem _ hother)
      simp only [outcomes]
      cases hleft : (Memory.perform op).run memory with
      | mk result memory' =>
          cases hright : (Store.perform op).run sql with
          | mk outcome sql' =>
              rw [hleft] at hrest
              cases result <;> cases outcome <;>
                simp only [Refines, Agree, hleft, hright] at hagree
              · obtain ⟨hclass, rfl, rfl⟩ := hagree
                rw [ih h hrest hutcRest]
                exact congrArg (fun error => Except.error error :: _) hclass
              · obtain ⟨rfl, hmirrors⟩ := hagree
                rw [ih hmirrors hrest hutcRest]

/-- Create a run, start it and read its events. -/
def startedHistory : List StoreOp :=
  [.createWorkflowRun plainRun,
    .updateWorkflowRun
      { plainRun with status := .running, startedAt := some .first, valid := rfl }
      .pending (some (.aware .first)),
    .listRuntimeEvents plainRun.runId]

/-- One hour before the first moment that UTC represents: midnight of the first
day, east of Greenwich. -/
def beforeUtc : Instant := ⟨-3600000000, by decide⟩

end Main

end PyWorkflowKit.Sql
