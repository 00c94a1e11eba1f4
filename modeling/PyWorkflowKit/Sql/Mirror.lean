import PyWorkflowKit.Core.Simulation
import PyWorkflowKit.Sql.Store

/-!
# Mirrored stores

The relation between the two stores after the same operations: every table of
the relational store is, row by row and in the same order, the image of the
corresponding dictionary, and the generated keys count from one.
-/

namespace PyWorkflowKit.Sql

open PyWorkflowKit.Core PyWorkflowKit.Domain PyWorkflowKit.States
open PyWorkflowKit.Persistence

/-- The relational store mirrors the in-memory store. -/
structure Mirrors (memory : MemoryState) (sql : SqlState) : Prop where
  workflowRuns :
    sql.workflowRuns.rows = memory.workflowRuns.rows.map workflowToRow
  taskRuns : sql.taskRuns.rows = memory.taskRuns.rows.map taskRunToRow
  taskAttempts : sql.taskAttempts.rows = memory.taskAttempts.rows.map attemptToRow
  externalRefs : sql.externalRefs.rows =
    (memory.externalRefs.rows.zipIdx 1).map fun entry =>
      externalRefToRow entry.2 entry.1.1 entry.1.2
  transitions : sql.transitions.rows = memory.transitions.map transitionToRow
  outputCheckpoints : sql.outputCheckpoints.rows =
    memory.outputCheckpoints.rows.map outputCheckpointToRow
  manifests : sql.manifests.rows =
    memory.manifests.rows.map fun entry => manifestToRow entry.1 entry.2
  sequences : memory.transitions.map StateTransitionRecord.sequence =
    List.range' 1 memory.transitions.length
  nextSequence : memory.nextTransitionSequence = memory.transitions.length + 1
  plain : ∀ run ∈ memory.workflowRuns.rows,
    storedCorrelation run.correlation = run.correlation
  contiguous : ∀ taskRunId,
    (memory.attemptsOf taskRunId).map TaskAttempt.attemptNumber =
      (List.range' 1 (memory.attemptsOf taskRunId).length).map Int.ofNat

theorem mirrors_empty : Mirrors .empty .empty := by
  constructor <;> first | rfl | simp [MemoryState.empty]
  intro taskRunId
  rfl

namespace Mirrors

variable {memory : MemoryState} {sql : SqlState}

section Lookups

theorem find?_workflowRun (h : Mirrors memory sql) (runId : WorkflowRunId) :
    sql.workflowRuns.find? runId.str =
      (memory.workflowRuns.find? runId).map workflowToRow :=
  Table.find?_image h.workflowRuns (fun _ => rfl)
    (fun _ _ => WorkflowRunId.str_injective) runId

theorem find?_taskRun (h : Mirrors memory sql) (taskRunId : TaskRunId) :
    sql.taskRuns.find? taskRunId.str =
      (memory.taskRuns.find? taskRunId).map taskRunToRow :=
  Table.find?_image h.taskRuns (fun _ => rfl)
    (fun _ _ => TaskRunId.str_injective) taskRunId

theorem find?_taskAttempt (h : Mirrors memory sql) (attemptId : TaskAttemptId) :
    sql.taskAttempts.find? attemptId.str =
      (memory.taskAttempts.find? attemptId).map attemptToRow :=
  Table.find?_image h.taskAttempts (fun _ => rfl)
    (fun _ _ => TaskAttemptId.str_injective) attemptId

theorem find?_checkpoint (h : Mirrors memory sql) (taskRunId : TaskRunId) :
    sql.outputCheckpoints.find? taskRunId.str =
      (memory.outputCheckpoints.find? taskRunId).map outputCheckpointToRow :=
  Table.find?_image h.outputCheckpoints (fun _ => rfl)
    (fun _ _ => TaskRunId.str_injective) taskRunId

theorem find?_manifest (h : Mirrors memory sql) (runId : WorkflowRunId) :
    sql.manifests.find? runId.str =
      (memory.manifests.find? runId).map fun entry => manifestToRow entry.1 entry.2 :=
  Table.find?_image h.manifests (fun _ => rfl)
    (fun _ _ => WorkflowRunId.str_injective) runId

/-- A stored run comes back from its row unchanged. -/
theorem workflowFromRow_of_mem (h : Mirrors memory sql) {run : WorkflowRun}
    (hrun : run ∈ memory.workflowRuns.rows) :
    workflowFromRow (workflowToRow run) = .ok run := by
  rw [workflowFromRow_workflowToRow, h.plain run hrun]

end Lookups

section Frames

theorem nextRowId_range' (count : Nat) :
    nextRowId (List.range' 1 count) = count + 1 := by
  have hfold : ∀ count start, start ≤ 1 →
      (List.range' 1 count).foldl max start = max start count := by
    intro count
    induction count with
    | zero => simp
    | succ count ih =>
        intro start hstart
        rw [List.range'_concat, List.foldl_append, ih start hstart]
        simp only [List.foldl_cons, List.foldl_nil]
        omega
  rw [nextRowId, hfold count 0 (by omega)]
  omega

theorem nextRowId_transitions (h : Mirrors memory sql) :
    nextRowId (sql.transitions.rows.map StateTransitionRow.sequence) =
      memory.nextTransitionSequence := by
  have hsequence : sql.transitions.rows.map StateTransitionRow.sequence =
      memory.transitions.map StateTransitionRecord.sequence := by
    rw [h.transitions, List.map_map]
    rfl
  rw [hsequence, h.sequences, nextRowId_range', h.nextSequence]

/-- Both stores append a transition. -/
theorem withTransition (h : Mirrors memory sql) (entityType : StateEntityType)
    (entityId : Text) (fromStatus : Option Text) (toStatus : Text) (at_ : Instant) :
    Mirrors (memory.withTransition entityType entityId fromStatus toStatus at_)
      { sql with
        transitions := sql.transitions.set
          ⟨nextRowId (sql.transitions.rows.map StateTransitionRow.sequence),
            entityType.value, entityId.value, fromStatus.map Text.value,
            toStatus.value, at_⟩ } := by
  have habsent : sql.transitions.find? memory.nextTransitionSequence = none := by
    rw [Table.find?_eq_none_iff]
    intro row hrow
    rw [h.transitions] at hrow
    obtain ⟨record, hrecord, rfl⟩ := List.mem_map.mp hrow
    have hsequence : record.sequence ∈ List.range' 1 memory.transitions.length :=
      h.sequences ▸ List.mem_map_of_mem hrecord
    have hbound := (List.mem_range'_1.mp hsequence).2
    have hnext := h.nextSequence
    change record.sequence ≠ _
    omega
  refine { h with transitions := ?_, sequences := ?_, nextSequence := ?_ }
  · rw [h.nextRowId_transitions, Table.rows_set_of_absent _ habsent, h.transitions]
    simp [MemoryState.withTransition, transitionToRow]
  · have hnext := h.nextSequence
    simp only [MemoryState.withTransition, List.map_append, h.sequences,
      List.map_cons, List.map_nil, List.length_append, List.length_cons,
      List.length_nil, Nat.zero_add, List.range'_concat, hnext, Nat.one_mul]
    rw [Nat.add_comm]
  · simp [MemoryState.withTransition, h.nextSequence]

/-- Both stores assign a workflow run. -/
theorem withWorkflowRun (h : Mirrors memory sql) {run : WorkflowRun}
    (hplain : storedCorrelation run.correlation = run.correlation) :
    Mirrors (memory.withWorkflowRun run)
      { sql with workflowRuns := sql.workflowRuns.set (workflowToRow run) } := by
  refine { h with workflowRuns := ?_, plain := ?_ }
  · exact Table.rows_set_image h.workflowRuns (fun _ => rfl)
      (fun _ _ => WorkflowRunId.str_injective) run
  · intro other hother
    rcases (Table.mem_set _ _ _).mp hother with rfl | ⟨hmem, -⟩
    · exact hplain
    · exact h.plain other hmem

/-- Both stores assign a task run. -/
theorem withTaskRun (h : Mirrors memory sql) (taskRun : TaskRun) :
    Mirrors (memory.withTaskRun taskRun)
      { sql with taskRuns := sql.taskRuns.set (taskRunToRow taskRun) } :=
  { h with
    taskRuns := Table.rows_set_image h.taskRuns (fun _ => rfl)
      (fun _ _ => TaskRunId.str_injective) taskRun }

/-- Both stores append the next attempt of a task run. -/
theorem withNewAttempt (h : Mirrors memory sql) {attempt : TaskAttempt}
    (hnew : memory.taskAttempts.find? attempt.attemptId = none)
    (hnumber : attempt.attemptNumber =
      (memory.attemptsOf attempt.taskRunId).length + 1) :
    Mirrors (memory.withTaskAttempt attempt)
      { sql with taskAttempts := sql.taskAttempts.set (attemptToRow attempt) } := by
  refine { h with taskAttempts := ?_, contiguous := ?_ }
  · exact Table.rows_set_image h.taskAttempts (fun _ => rfl)
      (fun _ _ => TaskAttemptId.str_injective) attempt
  · intro taskRunId
    have hrows : (memory.withTaskAttempt attempt).attemptsOf taskRunId =
        memory.attemptsOf taskRunId ++
          [attempt].filter fun other => other.taskRunId = taskRunId := by
      simp only [MemoryState.attemptsOf, MemoryState.withTaskAttempt,
        Table.rows_set_of_absent _ hnew, List.filter_append]
    rw [hrows]
    by_cases hsame : attempt.taskRunId = taskRunId
    · subst hsame
      simp only [List.filter_cons, decide_true, if_true, List.filter_nil,
        List.map_append, h.contiguous, List.map_cons, List.map_nil,
        List.length_append, List.length_cons, List.length_nil, Nat.zero_add,
        List.range'_concat, hnumber, Nat.one_mul, Int.ofNat_eq_natCast,
        Int.natCast_add, Int.natCast_one]
      rw [Int.add_comm]
    · simp [hsame, h.contiguous]

/-- Both stores replace an attempt by one with the same identity. -/
theorem withUpdatedAttempt (h : Mirrors memory sql) {current attempt : TaskAttempt}
    (hcurrent : current ∈ memory.taskAttempts.rows)
    (hsame : current.SameIdentity attempt) :
    Mirrors (memory.withTaskAttempt attempt)
      { sql with taskAttempts := sql.taskAttempts.set (attemptToRow attempt) } := by
  refine { h with taskAttempts := ?_, contiguous := ?_ }
  · exact Table.rows_set_image h.taskAttempts (fun _ => rfl)
      (fun _ _ => TaskAttemptId.str_injective) attempt
  · intro taskRunId
    have hpresent : attempt.attemptId ∈
        memory.taskAttempts.rows.map TaskAttempt.attemptId :=
      hsame.1 ▸ List.mem_map_of_mem hcurrent
    have hreplaced : ∀ other ∈ memory.taskAttempts.rows,
        ((if other.attemptId = attempt.attemptId then attempt else other).taskRunId =
            other.taskRunId) ∧
          (if other.attemptId = attempt.attemptId then attempt
            else other).attemptNumber = other.attemptNumber := by
      intro other hother
      split
      · next hid =>
        have heq : other = current := memory.taskAttempts.eq_of_mem hother hcurrent
          (hid.trans hsame.1.symm)
        subst heq
        exact ⟨hsame.2.1.symm, hsame.2.2.1.symm⟩
      · exact ⟨rfl, rfl⟩
    have hnumbers : ((memory.withTaskAttempt attempt).attemptsOf taskRunId).map
        TaskAttempt.attemptNumber =
          (memory.attemptsOf taskRunId).map TaskAttempt.attemptNumber := by
      simp only [MemoryState.attemptsOf, MemoryState.withTaskAttempt,
        Table.rows_set_of_present _ hpresent, List.filter_map, List.map_map]
      have hfilter : memory.taskAttempts.rows.filter
          ((fun other => decide (other.taskRunId = taskRunId)) ∘ fun other =>
            if other.attemptId = attempt.attemptId then attempt else other) =
          memory.taskAttempts.rows.filter fun other =>
            decide (other.taskRunId = taskRunId) := by
        apply List.filter_congr
        intro other hother
        simp only [Function.comp_apply, (hreplaced other hother).1]
      rw [hfilter]
      apply List.map_congr_left
      intro other hother
      exact (hreplaced other (List.mem_filter.mp hother).1).2
    have hlength := congrArg List.length hnumbers
    simp only [List.length_map] at hlength
    rw [hnumbers, hlength, h.contiguous]

/-- Both stores append a new external reference. -/
theorem withExternalRef (h : Mirrors memory sql) {attemptId : TaskAttemptId}
    {externalRef : ExternalRunRef}
    (hnew : memory.externalRefs.find?
      (externalRefKey (attemptId, externalRef)) = none) :
    Mirrors
      { memory with
        externalRefs := memory.externalRefs.set (attemptId, externalRef) }
      { sql with
        externalRefs := sql.externalRefs.set
          (externalRefToRow (nextRowId
            (sql.externalRefs.rows.map ExternalRunRefRow.externalRefPk))
            attemptId externalRef) } := by
  have hkeys : sql.externalRefs.rows.map ExternalRunRefRow.externalRefPk =
      List.range' 1 memory.externalRefs.rows.length := by
    rw [h.externalRefs, List.map_map]
    have hsnd : (ExternalRunRefRow.externalRefPk ∘
        fun entry : (TaskAttemptId × ExternalRunRef) × Nat =>
          externalRefToRow entry.2 entry.1.1 entry.1.2) = Prod.snd := rfl
    rw [hsnd, List.zipIdx_map_snd]
  have habsent : sql.externalRefs.find?
      (memory.externalRefs.rows.length + 1) = none := by
    rw [Table.find?_eq_none_iff]
    intro row hrow
    have hpk : row.externalRefPk ∈ List.range' 1 memory.externalRefs.rows.length :=
      hkeys ▸ List.mem_map_of_mem hrow
    have hbound := (List.mem_range'_1.mp hpk).2
    omega
  refine { h with externalRefs := ?_ }
  simp only [hkeys, nextRowId_range']
  rw [Table.rows_set_of_absent _ habsent, Table.rows_set_of_absent _ hnew,
    h.externalRefs, List.zipIdx_append, List.map_append]
  simp [Nat.add_comm]

/-- Both stores assign a checkpoint. -/
theorem withCheckpoint (h : Mirrors memory sql) (checkpoint : TaskOutputCheckpoint) :
    Mirrors
      { memory with
        outputCheckpoints := memory.outputCheckpoints.set checkpoint }
      { sql with
        outputCheckpoints :=
          sql.outputCheckpoints.set (outputCheckpointToRow checkpoint) } :=
  { h with
    outputCheckpoints := Table.rows_set_image h.outputCheckpoints (fun _ => rfl)
      (fun _ _ => TaskRunId.str_injective) checkpoint }

/-- Both stores assign a manifest reference. -/
theorem withManifest (h : Mirrors memory sql) (runId : WorkflowRunId)
    (reference : ManifestReference) :
    Mirrors { memory with manifests := memory.manifests.set (runId, reference) }
      { sql with
        manifests := sql.manifests.set (manifestToRow runId reference) } :=
  { h with
    manifests := Table.rows_set_image
      (f := fun entry : WorkflowRunId × ManifestReference =>
        manifestToRow entry.1 entry.2)
      h.manifests (fun _ => rfl) (fun _ _ => WorkflowRunId.str_injective)
      (runId, reference) }

end Frames

end Mirrors

end PyWorkflowKit.Sql
