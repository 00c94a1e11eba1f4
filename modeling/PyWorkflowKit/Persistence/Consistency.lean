import PyWorkflowKit.Core.Trail
import PyWorkflowKit.Persistence.History
import PyWorkflowKit.States.Machine

/-!
# Consistency of the in-memory store

The evidence log, the numbering of attempts, the references between rows and the
checkpoints stay in agreement through every history of the store.
-/

namespace PyWorkflowKit.Persistence

open PyWorkflowKit.Core PyWorkflowKit.Domain PyWorkflowKit.States

namespace MemoryState

/-- The recorded transitions as steps of their entities. -/
def steps (state : MemoryState) : List (Step (StateEntityType × Text) Text) :=
  state.transitions.map fun record =>
    ⟨(record.entityType, record.entityId), record.fromStatus, record.toStatus⟩

/-- The status of a stored entity. -/
def statusOf (state : MemoryState) : StateEntityType × Text → Option Text
  | (.workflowRun, entityId) =>
      (state.workflowRuns.find? ⟨entityId⟩).map fun run => run.status.text
  | (.taskRun, entityId) =>
      (state.taskRuns.find? ⟨entityId⟩).map fun taskRun => taskRun.status.text
  | (.taskAttempt, entityId) =>
      (state.taskAttempts.find? ⟨entityId⟩).map fun attempt => attempt.status.text

/-- Sequence numbers grow along the log and stay below the counter. -/
structure Ordered (state : MemoryState) : Prop where
  increasing : state.transitions.Pairwise fun left right => left.sequence < right.sequence
  below : ∀ record ∈ state.transitions, record.sequence < state.nextTransitionSequence

/-- Every row refers to a stored parent. -/
structure Referential (state : MemoryState) : Prop where
  taskRuns : ∀ taskRun ∈ state.taskRuns.rows,
    state.workflowRuns.find? taskRun.workflowRunId ≠ none
  taskAttempts : ∀ attempt ∈ state.taskAttempts.rows,
    state.taskRuns.find? attempt.taskRunId ≠ none
  externalRefs : ∀ row ∈ state.externalRefs.rows, state.taskAttempts.find? row.1 ≠ none
  outputCheckpoints : ∀ checkpoint ∈ state.outputCheckpoints.rows,
    state.taskRuns.find? checkpoint.taskRunId ≠ none
  manifests : ∀ row ∈ state.manifests.rows, state.workflowRuns.find? row.1 ≠ none

/-- The attempts of every task are numbered from one without gap. -/
def Numbered (state : MemoryState) : Prop :=
  ∀ taskRunId, (state.attemptsOf taskRunId).map TaskAttempt.attemptNumber =
    (List.range (state.attemptsOf taskRunId).length).map fun index : Nat => (index : Int) + 1

/-- The parts of the store agree with one another. -/
structure Consistent (state : MemoryState) : Prop where
  evidence : Step.Complete TaskRunStatus.pending.text state.steps state.statusOf
  ordered : state.Ordered
  numbered : state.Numbered
  referential : state.Referential

theorem consistent_empty : Consistent empty where
  evidence := by
    have hnone : empty.statusOf = fun _ => none := by
      funext ⟨entityType, entityId⟩
      cases entityType <;> rfl
    rw [hnone]
    exact Step.complete_nil
  ordered := ⟨List.Pairwise.nil, by simp [empty]⟩
  numbered taskRunId := rfl
  referential := ⟨by simp [empty], by simp [empty], by simp [empty], by simp [empty],
    by simp [empty]⟩

variable {state : MemoryState}

section Evidence

theorem steps_withTransition (entityType : StateEntityType) (entityId : Text)
    (fromStatus : Option Text) (toStatus : Text) (at_ : Instant) :
    (state.withTransition entityType entityId fromStatus toStatus at_).steps =
      state.steps ++ [⟨(entityType, entityId), fromStatus, toStatus⟩] := by
  simp [steps, withTransition]

theorem statusOf_withTransition (entityType : StateEntityType) (entityId : Text)
    (fromStatus : Option Text) (toStatus : Text) (at_ : Instant) :
    (state.withTransition entityType entityId fromStatus toStatus at_).statusOf =
      state.statusOf := by
  funext ⟨entityType, entityId⟩
  cases entityType <;> rfl

theorem statusOf_withWorkflowRun (run : WorkflowRun) :
    (state.withWorkflowRun run).statusOf =
      Function.update state.statusOf (.workflowRun, run.runId.value)
        (some run.status.text) := by
  funext ⟨entityType, entityId⟩
  cases entityType with
  | workflowRun =>
      by_cases hid : run.runId.value = entityId
      · subst hid
        rw [Function.update_self]
        simp [statusOf, withWorkflowRun]
      · rw [Function.update_of_ne (by simp [Ne.symm hid])]
        simp only [statusOf, withWorkflowRun]
        rw [Table.find?_set_of_ne]
        exact fun heq => hid (congrArg WorkflowRunId.value heq)
  | taskRun =>
      rw [Function.update_of_ne (by simp)]
      rfl
  | taskAttempt =>
      rw [Function.update_of_ne (by simp)]
      rfl

theorem statusOf_withTaskRun (taskRun : TaskRun) :
    (state.withTaskRun taskRun).statusOf =
      Function.update state.statusOf (.taskRun, taskRun.taskRunId.value)
        (some taskRun.status.text) := by
  funext ⟨entityType, entityId⟩
  cases entityType with
  | taskRun =>
      by_cases hid : taskRun.taskRunId.value = entityId
      · subst hid
        rw [Function.update_self]
        simp [statusOf, withTaskRun]
      · rw [Function.update_of_ne (by simp [Ne.symm hid])]
        simp only [statusOf, withTaskRun]
        rw [Table.find?_set_of_ne]
        exact fun heq => hid (congrArg TaskRunId.value heq)
  | workflowRun =>
      rw [Function.update_of_ne (by simp)]
      rfl
  | taskAttempt =>
      rw [Function.update_of_ne (by simp)]
      rfl

theorem statusOf_withTaskAttempt (attempt : TaskAttempt) :
    (state.withTaskAttempt attempt).statusOf =
      Function.update state.statusOf (.taskAttempt, attempt.attemptId.value)
        (some attempt.status.text) := by
  funext ⟨entityType, entityId⟩
  cases entityType with
  | taskAttempt =>
      by_cases hid : attempt.attemptId.value = entityId
      · subst hid
        rw [Function.update_self]
        simp [statusOf, withTaskAttempt]
      · rw [Function.update_of_ne (by simp [Ne.symm hid])]
        simp only [statusOf, withTaskAttempt]
        rw [Table.find?_set_of_ne]
        exact fun heq => hid (congrArg TaskAttemptId.value heq)
  | workflowRun =>
      rw [Function.update_of_ne (by simp)]
      rfl
  | taskRun =>
      rw [Function.update_of_ne (by simp)]
      rfl

/-- The log explains every status. -/
abbrev Explained (state : MemoryState) : Prop :=
  Step.Complete TaskRunStatus.pending.text state.steps state.statusOf

/-- The log and the entities alone decide whether the log explains them. -/
theorem Explained.of_tables {after : MemoryState} (hexplained : state.Explained)
    (htransitions : after.transitions = state.transitions)
    (hruns : after.workflowRuns = state.workflowRuns)
    (htasks : after.taskRuns = state.taskRuns)
    (hattempts : after.taskAttempts = state.taskAttempts) : after.Explained := by
  have hstatus : after.statusOf = state.statusOf := by
    funext ⟨entityType, entityId⟩
    cases entityType <;> simp [statusOf, hruns, htasks, hattempts]
  unfold Explained steps
  rw [hstatus, htransitions]
  exact hexplained

/-- A new entity starts its trail. -/
theorem Explained.created {base : MemoryState} {entityType : StateEntityType}
    {entityId toStatus : Text} (hexplained : state.Explained) (hsteps : base.steps = state.steps)
    (hstatus : base.statusOf =
      Function.update state.statusOf (entityType, entityId) (some toStatus))
    (habsent : state.statusOf (entityType, entityId) = none)
    (hpending : toStatus = TaskRunStatus.pending.text) (at_ : Instant) :
    (base.withTransition entityType entityId none toStatus at_).Explained := by
  unfold Explained
  rw [steps_withTransition, statusOf_withTransition, hsteps, hstatus]
  exact hexplained.append ⟨(entityType, entityId), none, toStatus⟩ habsent.symm
    fun _ => hpending

/-- A changed entity continues its trail. -/
theorem Explained.changed {base : MemoryState} {entityType : StateEntityType}
    {entityId fromStatus toStatus : Text} {changed : Bool} (hexplained : state.Explained)
    (hsteps : base.steps = state.steps)
    (hstatus : base.statusOf =
      Function.update state.statusOf (entityType, entityId) (some toStatus))
    (hpresent : state.statusOf (entityType, entityId) = some fromStatus)
    (hsame : changed = false → fromStatus = toStatus) (at_ : Instant) :
    (base.noteChange entityType entityId changed (some fromStatus) toStatus
      at_).Explained := by
  unfold noteChange
  cases changed with
  | true =>
      unfold Explained
      rw [if_pos rfl, steps_withTransition, statusOf_withTransition, hsteps, hstatus]
      exact hexplained.append ⟨(entityType, entityId), some fromStatus, toStatus⟩
        hpresent.symm fun hnone => by simp [hpresent] at hnone
  | false =>
      unfold Explained
      rw [if_neg (by simp), hsteps, hstatus, ← hsame rfl, ← hpresent,
        Function.update_eq_self]
      exact hexplained

end Evidence

section Pruning

/-- Whether pruning these runs removes the entity. -/
def prunes (state : MemoryState) (runIds : List WorkflowRunId) :
    StateEntityType × Text → Bool
  | (.workflowRun, entityId) => runIds.contains ⟨entityId⟩
  | (.taskRun, entityId) =>
      ((Memory.targets state runIds).taskRuns.map TaskRun.taskRunId).contains ⟨entityId⟩
  | (.taskAttempt, entityId) =>
      ((Memory.targets state runIds).attempts.map TaskAttempt.attemptId).contains
        ⟨entityId⟩

/-- The state after pruning these runs. -/
abbrev pruned (state : MemoryState) (runIds : List WorkflowRunId) : MemoryState :=
  Memory.removeTargets state (Memory.targets state runIds)

variable (runIds : List WorkflowRunId)

/-- Distinct sequence numbers make removal by number removal by entity. -/
theorem transitions_pruned (hordered : state.Ordered) :
    (state.pruned runIds).transitions = state.transitions.filter fun record =>
      !state.prunes runIds (record.entityType, record.entityId) := by
  apply List.filter_congr
  intro record hrecord
  congr 1
  rw [Bool.eq_iff_iff, List.contains_iff_mem, List.mem_map]
  constructor
  · rintro ⟨other, hother, hsequence⟩
    obtain ⟨hmem, htarget⟩ := List.mem_filter.mp hother
    have hnodup : (state.transitions.map StateTransitionRecord.sequence).Nodup :=
      (List.pairwise_map.mpr hordered.increasing).imp Nat.ne_of_lt
    have hsame : other = record :=
      List.inj_on_of_nodup_map hnodup hmem hrecord hsequence
    subst hsame
    cases htype : other.entityType <;> rw [htype] at htarget <;> exact htarget
  · intro hprunes
    refine ⟨record, List.mem_filter.mpr ⟨hrecord, ?_⟩, rfl⟩
    cases htype : record.entityType <;> rw [htype] at hprunes <;> exact hprunes

theorem statusOf_pruned : (state.pruned runIds).statusOf = fun subject =>
    if !state.prunes runIds subject then state.statusOf subject else none := by
  funext ⟨entityType, entityId⟩
  cases entityType with
  | workflowRun =>
      have hfind := state.workflowRuns.find?_filter_key
        (fun runId => !runIds.contains runId) ⟨entityId⟩
      simp only [statusOf, pruned, Memory.removeTargets, Memory.targets] at hfind ⊢
      rw [hfind]
      unfold prunes
      split <;> rfl
  | taskRun =>
      have hfind := state.taskRuns.find?_filter_key (fun taskRunId =>
        !((Memory.targets state runIds).taskRuns.map TaskRun.taskRunId).contains taskRunId)
        ⟨entityId⟩
      simp only [statusOf, pruned, Memory.removeTargets] at hfind ⊢
      rw [hfind]
      unfold prunes
      split <;> rfl
  | taskAttempt =>
      have hfind := state.taskAttempts.find?_filter_key (fun attemptId =>
        !((Memory.targets state runIds).attempts.map TaskAttempt.attemptId).contains
          attemptId) ⟨entityId⟩
      simp only [statusOf, pruned, Memory.removeTargets] at hfind ⊢
      rw [hfind]
      unfold prunes
      split <;> rfl

theorem explained_pruned (hexplained : state.Explained) (hordered : state.Ordered) :
    (state.pruned runIds).Explained := by
  have hsteps : (state.pruned runIds).steps =
      state.steps.filter fun step => !state.prunes runIds step.subject := by
    unfold steps
    rw [transitions_pruned runIds hordered, List.filter_map]
    rfl
  unfold Explained
  rw [hsteps, statusOf_pruned]
  exact hexplained.filter fun subject => !state.prunes runIds subject

/-- A task run is pruned with its run, an attempt with its task run. -/
theorem mem_targets_taskRuns {taskRun : TaskRun} :
    taskRun ∈ (Memory.targets state runIds).taskRuns ↔
      taskRun ∈ state.taskRuns.rows ∧ taskRun.workflowRunId ∈ runIds := by
  simp [Memory.targets, List.mem_filter]

theorem mem_targets_attempts {attempt : TaskAttempt} :
    attempt ∈ (Memory.targets state runIds).attempts ↔
      attempt ∈ state.taskAttempts.rows ∧
        attempt.taskRunId ∈ (Memory.targets state runIds).taskRuns.map TaskRun.taskRunId := by
  simp [Memory.targets, List.mem_filter]

theorem workflowRun_kept {runId : WorkflowRunId}
    (hpresent : state.workflowRuns.find? runId ≠ none) (hkept : runId ∉ runIds) :
    (state.pruned runIds).workflowRuns.find? runId ≠ none := by
  have hfind := state.workflowRuns.find?_filter_key
    (fun runId => !runIds.contains runId) runId
  rw [if_pos (by simpa using hkept)] at hfind
  change (state.workflowRuns.filter fun run => !runIds.contains run.runId).find? runId ≠ none
  rw [hfind]
  exact hpresent

theorem taskRun_kept {taskRunId : TaskRunId}
    (hpresent : state.taskRuns.find? taskRunId ≠ none)
    (hkept : taskRunId ∉ (Memory.targets state runIds).taskRuns.map TaskRun.taskRunId) :
    (state.pruned runIds).taskRuns.find? taskRunId ≠ none := by
  have hfind := state.taskRuns.find?_filter_key (fun taskRunId =>
    !((Memory.targets state runIds).taskRuns.map TaskRun.taskRunId).contains taskRunId)
    taskRunId
  rw [if_pos (by simpa using hkept)] at hfind
  change (state.taskRuns.filter _).find? taskRunId ≠ none
  rw [hfind]
  exact hpresent

theorem taskAttempt_kept {attemptId : TaskAttemptId}
    (hpresent : state.taskAttempts.find? attemptId ≠ none)
    (hkept : attemptId ∉
      (Memory.targets state runIds).attempts.map TaskAttempt.attemptId) :
    (state.pruned runIds).taskAttempts.find? attemptId ≠ none := by
  have hfind := state.taskAttempts.find?_filter_key (fun attemptId =>
    !((Memory.targets state runIds).attempts.map TaskAttempt.attemptId).contains attemptId)
    attemptId
  rw [if_pos (by simpa using hkept)] at hfind
  change (state.taskAttempts.filter _).find? attemptId ≠ none
  rw [hfind]
  exact hpresent

theorem referential_pruned (href : state.Referential) :
    (state.pruned runIds).Referential where
  taskRuns taskRun hmem := by
    obtain ⟨hrow, hkept⟩ := List.mem_filter.mp hmem
    apply workflowRun_kept runIds (href.taskRuns taskRun hrow)
    intro hrun
    have htarget := (mem_targets_taskRuns runIds).mpr ⟨hrow, hrun⟩
    simp [List.mem_map_of_mem htarget] at hkept
  taskAttempts attempt hmem := by
    obtain ⟨hrow, hkept⟩ := List.mem_filter.mp hmem
    apply taskRun_kept runIds (href.taskAttempts attempt hrow)
    intro htask
    have htarget := (mem_targets_attempts runIds).mpr ⟨hrow, htask⟩
    simp [List.mem_map_of_mem htarget] at hkept
  externalRefs row hmem := by
    obtain ⟨hrow, hkept⟩ := List.mem_filter.mp hmem
    apply taskAttempt_kept runIds (href.externalRefs row hrow)
    intro hattempt
    rw [← List.contains_iff_mem] at hattempt
    rw [hattempt] at hkept
    cases hkept
  outputCheckpoints checkpoint hmem := by
    obtain ⟨hrow, hkept⟩ := List.mem_filter.mp hmem
    apply taskRun_kept runIds (href.outputCheckpoints checkpoint hrow)
    intro htask
    rw [← List.contains_iff_mem] at htask
    rw [htask] at hkept
    cases hkept
  manifests row hmem := by
    obtain ⟨hrow, hkept⟩ := List.mem_filter.mp hmem
    apply workflowRun_kept runIds (href.manifests row hrow)
    intro hrun
    rw [← List.contains_iff_mem] at hrun
    rw [show (Memory.targets state runIds).runIds = runIds from rfl, hrun] at hkept
    cases hkept

/-- A task loses all of its attempts or none. -/
theorem attemptsOf_pruned (taskRunId : TaskRunId) :
    (state.pruned runIds).attemptsOf taskRunId =
      if taskRunId ∈ (Memory.targets state runIds).taskRuns.map TaskRun.taskRunId then []
      else state.attemptsOf taskRunId := by
  have hmem : ∀ attempt ∈ state.taskAttempts.rows,
      attempt.attemptId ∈ (Memory.targets state runIds).attempts.map TaskAttempt.attemptId ↔
        attempt.taskRunId ∈
          (Memory.targets state runIds).taskRuns.map TaskRun.taskRunId := by
    intro attempt hrow
    constructor
    · intro htarget
      obtain ⟨other, hother, hid⟩ := List.mem_map.mp htarget
      obtain ⟨hotherRow, howner⟩ := (mem_targets_attempts runIds).mp hother
      rwa [state.taskAttempts.eq_of_mem hotherRow hrow hid] at howner
    · intro howner
      exact List.mem_map_of_mem ((mem_targets_attempts runIds).mpr ⟨hrow, howner⟩)
  unfold attemptsOf
  change (List.filter _ (List.filter _ state.taskAttempts.rows)) = _
  rw [List.filter_filter]
  split
  · next htarget =>
    rw [List.filter_eq_nil_iff]
    intro attempt hrow hboth
    simp only [Bool.and_eq_true, decide_eq_true_eq, Bool.not_eq_true',
      List.contains_eq_mem, decide_eq_false_iff_not] at hboth
    exact hboth.2 ((hmem attempt hrow).mpr (hboth.1 ▸ htarget))
  · next htarget =>
    apply List.filter_congr
    intro attempt hrow
    by_cases howner : attempt.taskRunId = taskRunId
    · have hkept : attempt.attemptId ∉
          (Memory.targets state runIds).attempts.map TaskAttempt.attemptId := by
        rw [hmem attempt hrow, howner]
        exact htarget
      simp only [howner, decide_true, Bool.true_and, Bool.not_eq_true',
        List.contains_eq_mem, decide_eq_false_iff_not]
      exact hkept
    · simp [howner]

end Pruning

section Writes

theorem Ordered.withTransition (hordered : state.Ordered) (entityType : StateEntityType)
    (entityId : Text) (fromStatus : Option Text) (toStatus : Text) (at_ : Instant) :
    (state.withTransition entityType entityId fromStatus toStatus at_).Ordered where
  increasing := by
    unfold MemoryState.withTransition
    rw [List.pairwise_append]
    refine ⟨hordered.increasing, List.pairwise_singleton _ _, ?_⟩
    intro record hrecord last hlast
    obtain rfl := List.mem_singleton.mp hlast
    exact hordered.below record hrecord
  below record hrecord := by
    unfold MemoryState.withTransition at hrecord ⊢
    rcases List.mem_append.mp hrecord with hold | hnew
    · exact Nat.lt_succ_of_lt (hordered.below record hold)
    · obtain rfl := List.mem_singleton.mp hnew
      exact Nat.lt_succ_self _

theorem Ordered.noteChange (hordered : state.Ordered) (entityType : StateEntityType)
    (entityId : Text) (changed : Bool) (fromStatus : Option Text) (toStatus : Text)
    (at_ : Instant) :
    (state.noteChange entityType entityId changed fromStatus toStatus at_).Ordered := by
  unfold MemoryState.noteChange
  split
  · exact hordered.withTransition _ _ _ _ _
  · exact hordered

theorem Ordered.write {after : MemoryState} (hordered : state.Ordered)
    (hwrite : Write state after) : after.Ordered := by
  cases hwrite with
  | @workflowRunCreated run =>
      have hbase : (state.withWorkflowRun run).Ordered := ⟨hordered.increasing, hordered.below⟩
      exact hbase.withTransition _ _ _ _ _
  | @workflowRunUpdated current run at_ =>
      have hbase : (state.withWorkflowRun run).Ordered := ⟨hordered.increasing, hordered.below⟩
      exact hbase.noteChange _ _ _ _ _ _
  | @taskRunCreated taskRun =>
      have hbase : (state.withTaskRun taskRun).Ordered := ⟨hordered.increasing, hordered.below⟩
      exact hbase.withTransition _ _ _ _ _
  | @taskRunUpdated current taskRun at_ =>
      have hbase : (state.withTaskRun taskRun).Ordered := ⟨hordered.increasing, hordered.below⟩
      exact hbase.noteChange _ _ _ _ _ _
  | @taskAttemptAppended attempt =>
      have hbase : (state.withTaskAttempt attempt).Ordered := ⟨hordered.increasing, hordered.below⟩
      exact hbase.withTransition _ _ _ _ _
  | @taskAttemptUpdated current attempt at_ =>
      have hbase : (state.withTaskAttempt attempt).Ordered := ⟨hordered.increasing, hordered.below⟩
      exact hbase.noteChange _ _ _ _ _ _
  | externalRefAppended => exact ⟨hordered.increasing, hordered.below⟩
  | checkpointSet => exact ⟨hordered.increasing, hordered.below⟩
  | manifestSet => exact ⟨hordered.increasing, hordered.below⟩
  | pruned runIds =>
      exact ⟨hordered.increasing.sublist List.filter_sublist,
        fun record hrecord => hordered.below record (List.mem_of_mem_filter hrecord)⟩

theorem Explained.write {after : MemoryState} (hexplained : state.Explained)
    (hordered : state.Ordered) (hwrite : Write state after) : after.Explained := by
  cases hwrite with
  | @workflowRunCreated run hstatus habsent =>
      apply hexplained.created (show (state.withWorkflowRun run).steps = state.steps from rfl)
        (statusOf_withWorkflowRun run)
      · simp [statusOf, habsent]
      · rw [hstatus]
        rfl
  | @workflowRunUpdated current run at_ hfound =>
      apply hexplained.changed (show (state.withWorkflowRun run).steps = state.steps from rfl)
        (statusOf_withWorkflowRun run)
      · simp [statusOf, hfound]
      · simp +contextual
  | @taskRunCreated taskRun hstatus habsent =>
      apply hexplained.created (show (state.withTaskRun taskRun).steps = state.steps from rfl)
        (statusOf_withTaskRun taskRun)
      · simp [statusOf, habsent]
      · rw [hstatus]
  | @taskRunUpdated current taskRun at_ hfound =>
      apply hexplained.changed (show (state.withTaskRun taskRun).steps = state.steps from rfl)
        (statusOf_withTaskRun taskRun)
      · simp [statusOf, hfound]
      · simp +contextual
  | @taskAttemptAppended attempt hstatus habsent =>
      apply hexplained.created (show (state.withTaskAttempt attempt).steps = state.steps from rfl)
        (statusOf_withTaskAttempt attempt)
      · simp [statusOf, habsent]
      · rw [hstatus]
        rfl
  | @taskAttemptUpdated current attempt at_ hfound =>
      apply hexplained.changed (show (state.withTaskAttempt attempt).steps = state.steps from rfl)
        (statusOf_withTaskAttempt attempt)
      · simp [statusOf, hfound]
      · simp +contextual
  | externalRefAppended => exact hexplained.of_tables rfl rfl rfl rfl
  | checkpointSet => exact hexplained.of_tables rfl rfl rfl rfl
  | manifestSet => exact hexplained.of_tables rfl rfl rfl rfl
  | pruned runIds => exact explained_pruned runIds hexplained hordered

/-- An appended attempt has the next number of its task. -/
theorem attemptsOf_addTaskAttempt {attempt : TaskAttempt}
    (habsent : state.taskAttempts.find? attempt.attemptId = none) (taskRunId : TaskRunId) :
    (state.addTaskAttempt attempt).attemptsOf taskRunId =
      if attempt.taskRunId = taskRunId then state.attemptsOf taskRunId ++ [attempt]
      else state.attemptsOf taskRunId := by
  unfold attemptsOf
  change List.filter _ (state.taskAttempts.set attempt).rows = _
  rw [Table.rows_set_of_absent _ habsent, List.filter_append]
  by_cases howner : attempt.taskRunId = taskRunId
  · simp [howner]
  · simp [howner]

theorem Numbered.write {after : MemoryState} (hnumbered : state.Numbered)
    (hwrite : Write state after) : after.Numbered := by
  intro taskRunId
  have hsame : after.attemptsOf taskRunId = state.attemptsOf taskRunId →
      (after.attemptsOf taskRunId).map TaskAttempt.attemptNumber =
        (List.range (after.attemptsOf taskRunId).length).map
          fun index : Nat => (index : Int) + 1 := by
    intro hattempts
    rw [hattempts]
    exact hnumbered taskRunId
  cases hwrite with
  | workflowRunCreated => exact hsame rfl
  | workflowRunUpdated => exact hsame (by simp [attemptsOf])
  | taskRunCreated => exact hsame rfl
  | taskRunUpdated => exact hsame (by simp [attemptsOf])
  | externalRefAppended => exact hsame rfl
  | checkpointSet => exact hsame rfl
  | manifestSet => exact hsame rfl
  | taskAttemptAppended hstatus habsent hparent hnumber =>
      rw [attemptsOf_addTaskAttempt habsent]
      split
      · next howner =>
        rw [howner] at hnumber
        simp [hnumbered taskRunId, hnumber, List.range_succ]
      · exact hnumbered taskRunId
  | taskAttemptUpdated at_ hfound hidentity =>
      rw [attemptsOf_afterTaskAttempt state _ at_ (Table.mem_of_find? hfound) hidentity]
      unfold replaceAttempt
      rw [List.length_map, ← hnumbered taskRunId, List.map_map]
      apply List.map_congr_left
      intro other hother
      have hrow : other ∈ state.taskAttempts.rows := List.mem_of_mem_filter hother
      simp only [Function.comp_apply]
      split
      · next hid =>
        have hcurrent := Table.find?_of_mem _ hrow
        rw [hid, hfound] at hcurrent
        cases hcurrent
        exact hidentity.2.2.1.symm
      · rfl
  | pruned runIds =>
      rw [attemptsOf_pruned]
      split
      · rfl
      · exact hnumbered taskRunId

/-- A new or replaced row whose parent is stored keeps the references. -/
theorem Referential.write {after : MemoryState} (href : state.Referential)
    (hwrite : Write state after) : after.Referential := by
  cases hwrite with
  | workflowRunCreated =>
      exact ⟨fun taskRun hmem => Table.find?_set_ne_none _ _ (href.taskRuns taskRun hmem),
        href.taskAttempts, href.externalRefs, href.outputCheckpoints,
        fun row hmem => Table.find?_set_ne_none _ _ (href.manifests row hmem)⟩
  | workflowRunUpdated at_ =>
      constructor
      · intro taskRun hmem
        simp only [taskRuns_afterWorkflowRun, workflowRuns_afterWorkflowRun] at hmem ⊢
        exact Table.find?_set_ne_none _ _ (href.taskRuns taskRun hmem)
      · simpa using href.taskAttempts
      · simpa using href.externalRefs
      · simpa using href.outputCheckpoints
      · intro row hmem
        simp only [manifests_afterWorkflowRun, workflowRuns_afterWorkflowRun] at hmem ⊢
        exact Table.find?_set_ne_none _ _ (href.manifests row hmem)
  | @taskRunCreated taskRun hstatus habsent hparent =>
      constructor
      · intro other hmem
        rcases (Table.mem_set _ _ _).mp hmem with rfl | ⟨hold, -⟩
        · exact hparent
        · exact href.taskRuns other hold
      · exact fun attempt hmem =>
          Table.find?_set_ne_none _ _ (href.taskAttempts attempt hmem)
      · exact href.externalRefs
      · exact fun checkpoint hmem =>
          Table.find?_set_ne_none _ _ (href.outputCheckpoints checkpoint hmem)
      · exact href.manifests
  | taskRunUpdated at_ hfound hidentity =>
      constructor
      · intro other hmem
        simp only [taskRuns_afterTaskRun, workflowRuns_afterTaskRun] at hmem ⊢
        rcases (Table.mem_set _ _ _).mp hmem with rfl | ⟨hold, -⟩
        · rw [← hidentity.2.1]
          exact href.taskRuns _ (Table.mem_of_find? hfound)
        · exact href.taskRuns other hold
      · intro attempt hmem
        simp only [taskAttempts_afterTaskRun, taskRuns_afterTaskRun] at hmem ⊢
        exact Table.find?_set_ne_none _ _ (href.taskAttempts attempt hmem)
      · simpa using href.externalRefs
      · intro checkpoint hmem
        simp only [outputCheckpoints_afterTaskRun, taskRuns_afterTaskRun] at hmem ⊢
        exact Table.find?_set_ne_none _ _ (href.outputCheckpoints checkpoint hmem)
      · simpa using href.manifests
  | @taskAttemptAppended attempt hstatus habsent hparent hnumber =>
      constructor
      · exact href.taskRuns
      · intro other hmem
        rcases (Table.mem_set _ _ _).mp hmem with rfl | ⟨hold, -⟩
        · exact hparent
        · exact href.taskAttempts other hold
      · exact fun row hmem => Table.find?_set_ne_none _ _ (href.externalRefs row hmem)
      · exact href.outputCheckpoints
      · exact href.manifests
  | taskAttemptUpdated at_ hfound hidentity =>
      constructor
      · simpa using href.taskRuns
      · intro other hmem
        simp only [taskAttempts_afterTaskAttempt, taskRuns_afterTaskAttempt] at hmem ⊢
        rcases (Table.mem_set _ _ _).mp hmem with rfl | ⟨hold, -⟩
        · rw [← hidentity.2.1]
          exact href.taskAttempts _ (Table.mem_of_find? hfound)
        · exact href.taskAttempts other hold
      · intro row hmem
        simp only [externalRefs_afterTaskAttempt, taskAttempts_afterTaskAttempt] at hmem ⊢
        exact Table.find?_set_ne_none _ _ (href.externalRefs row hmem)
      · simpa using href.outputCheckpoints
      · simpa using href.manifests
  | externalRefAppended hparent =>
      refine { href with externalRefs := fun row hmem => ?_ }
      rcases (Table.mem_set _ _ _).mp hmem with rfl | ⟨hold, -⟩
      · exact hparent
      · exact href.externalRefs row hold
  | checkpointSet hparent =>
      refine { href with outputCheckpoints := fun checkpoint hmem => ?_ }
      rcases (Table.mem_set _ _ _).mp hmem with rfl | ⟨hold, -⟩
      · change state.taskRuns.find? _ ≠ none
        rw [hparent]
        simp
      · exact href.outputCheckpoints checkpoint hold
  | manifestSet hparent =>
      refine { href with manifests := fun row hmem => ?_ }
      rcases (Table.mem_set _ _ _).mp hmem with rfl | ⟨hold, -⟩
      · exact hparent
      · exact href.manifests row hold
  | pruned runIds => exact referential_pruned runIds href

/-- Every write keeps the parts of the store in agreement. -/
theorem Consistent.write {after : MemoryState} (hconsistent : state.Consistent)
    (hwrite : Write state after) : after.Consistent where
  evidence := Explained.write hconsistent.evidence hconsistent.ordered hwrite
  ordered := hconsistent.ordered.write hwrite
  numbered := Numbered.write hconsistent.numbered hwrite
  referential := hconsistent.referential.write hwrite

end Writes

section Sequences

/-- Between two states every record is old or has a number never used before. -/
structure Continues (before after : MemoryState) : Prop where
  counter : before.nextTransitionSequence ≤ after.nextTransitionSequence
  records : ∀ record ∈ after.transitions, record ∈ before.transitions ∨
    before.nextTransitionSequence ≤ record.sequence

theorem Continues.refl (state : MemoryState) : Continues state state :=
  ⟨Nat.le_refl _, fun _ hrecord => Or.inl hrecord⟩

theorem Continues.trans {first second third : MemoryState}
    (hfirst : Continues first second) (hsecond : Continues second third) :
    Continues first third where
  counter := hfirst.counter.trans hsecond.counter
  records record hrecord := by
    rcases hsecond.records record hrecord with hold | hnew
    · exact hfirst.records record hold
    · exact Or.inr (hfirst.counter.trans hnew)

theorem continues_withTransition (entityType : StateEntityType) (entityId : Text)
    (fromStatus : Option Text) (toStatus : Text) (at_ : Instant) :
    Continues state (state.withTransition entityType entityId fromStatus toStatus at_) where
  counter := Nat.le_succ _
  records record hrecord := by
    rcases List.mem_append.mp hrecord with hold | hnew
    · exact Or.inl hold
    · obtain rfl := List.mem_singleton.mp hnew
      exact Or.inr (Nat.le_refl _)

theorem continues_noteChange (entityType : StateEntityType) (entityId : Text)
    (changed : Bool) (fromStatus : Option Text) (toStatus : Text) (at_ : Instant) :
    Continues state
      (state.noteChange entityType entityId changed fromStatus toStatus at_) := by
  unfold MemoryState.noteChange
  split
  · exact continues_withTransition _ _ _ _ _
  · exact Continues.refl state

theorem Continues.of_write {after : MemoryState} (hwrite : Write state after) :
    Continues state after := by
  cases hwrite with
  | @workflowRunCreated run =>
      have hbase : Continues state (state.withWorkflowRun run) := ⟨Nat.le_refl _, fun _ h => Or.inl h⟩
      exact hbase.trans (continues_withTransition _ _ _ _ _)
  | @workflowRunUpdated current run =>
      have hbase : Continues state (state.withWorkflowRun run) := ⟨Nat.le_refl _, fun _ h => Or.inl h⟩
      exact hbase.trans (continues_noteChange _ _ _ _ _ _)
  | @taskRunCreated taskRun =>
      have hbase : Continues state (state.withTaskRun taskRun) := ⟨Nat.le_refl _, fun _ h => Or.inl h⟩
      exact hbase.trans (continues_withTransition _ _ _ _ _)
  | @taskRunUpdated current taskRun =>
      have hbase : Continues state (state.withTaskRun taskRun) := ⟨Nat.le_refl _, fun _ h => Or.inl h⟩
      exact hbase.trans (continues_noteChange _ _ _ _ _ _)
  | @taskAttemptAppended attempt =>
      have hbase : Continues state (state.withTaskAttempt attempt) := ⟨Nat.le_refl _, fun _ h => Or.inl h⟩
      exact hbase.trans (continues_withTransition _ _ _ _ _)
  | @taskAttemptUpdated current attempt =>
      have hbase : Continues state (state.withTaskAttempt attempt) := ⟨Nat.le_refl _, fun _ h => Or.inl h⟩
      exact hbase.trans (continues_noteChange _ _ _ _ _ _)
  | externalRefAppended => exact ⟨Nat.le_refl _, fun _ hrecord => Or.inl hrecord⟩
  | checkpointSet => exact ⟨Nat.le_refl _, fun _ hrecord => Or.inl hrecord⟩
  | manifestSet => exact ⟨Nat.le_refl _, fun _ hrecord => Or.inl hrecord⟩
  | pruned runIds =>
      exact ⟨Nat.le_refl _, fun _ hrecord => Or.inl (List.mem_of_mem_filter hrecord)⟩

end Sequences

section Checkpoints

/-- Between two states every stored task run keeps its status or takes one that
the table of task runs allows. -/
def TasksFollowTable (before after : MemoryState) : Prop :=
  ∀ taskRunId current next, before.taskRuns.find? taskRunId = some current →
    after.taskRuns.find? taskRunId = some next →
    next.status = current.status ∨ next.status ∈ taskRunTransitions current.status

/-- Every checkpoint belongs to a task run that has an output. -/
def Justified (state : MemoryState) : Prop :=
  ∀ checkpoint ∈ state.outputCheckpoints.rows,
    ∃ taskRun, state.taskRuns.find? checkpoint.taskRunId = some taskRun ∧
      (taskRun.status = .succeeded ∨ taskRun.status = .reused)

/-- A checkpoint is as it was or has been removed. -/
def CheckpointsKept (before after : MemoryState) : Prop :=
  ∀ taskRunId checkpoint, before.outputCheckpoints.find? taskRunId = some checkpoint →
    after.outputCheckpoints.find? taskRunId = some checkpoint ∨
      after.outputCheckpoints.find? taskRunId = none

theorem CheckpointsKept.of_write {after : MemoryState} (hwrite : Write state after) :
    CheckpointsKept state after := by
  intro taskRunId checkpoint hfound
  cases hwrite with
  | workflowRunCreated => exact Or.inl hfound
  | workflowRunUpdated => exact Or.inl (by simpa using hfound)
  | taskRunCreated => exact Or.inl hfound
  | taskRunUpdated => exact Or.inl (by simpa using hfound)
  | taskAttemptAppended => exact Or.inl hfound
  | taskAttemptUpdated => exact Or.inl (by simpa using hfound)
  | externalRefAppended => exact Or.inl hfound
  | @checkpointSet other taskRun hparent hstatus hsame =>
      left
      change (state.outputCheckpoints.set other).find? taskRunId = some checkpoint
      by_cases hkey : other.taskRunId = taskRunId
      · subst hkey
        rw [hsame checkpoint hfound, Table.find?_set_self]
      · rwa [Table.find?_set_of_ne _ _ hkey]
  | manifestSet => exact Or.inl hfound
  | pruned runIds =>
      have hfind := state.outputCheckpoints.find?_filter_key (fun taskRunId =>
        !((Memory.targets state runIds).taskRuns.map TaskRun.taskRunId).contains taskRunId)
        taskRunId
      change (state.outputCheckpoints.filter _).find? taskRunId = some checkpoint ∨
        (state.outputCheckpoints.filter _).find? taskRunId = none
      rw [hfind]
      split
      · exact Or.inl hfound
      · exact Or.inr rfl

/-- The task run of a kept checkpoint may only move along the table, which holds
no way out of a status with an output. -/
theorem Justified.of_rows {after : MemoryState} (hjustified : state.Justified)
    (hfollows : TasksFollowTable state after)
    (hrows : ∀ checkpoint ∈ after.outputCheckpoints.rows,
      checkpoint ∈ state.outputCheckpoints.rows ∧
        after.taskRuns.find? checkpoint.taskRunId ≠ none) : after.Justified := by
  intro checkpoint hmem
  obtain ⟨hold, hpresent⟩ := hrows checkpoint hmem
  obtain ⟨current, hcurrent, hstatus⟩ := hjustified checkpoint hold
  obtain ⟨next, hnext⟩ := Option.ne_none_iff_exists'.mp hpresent
  refine ⟨next, hnext, ?_⟩
  rcases hfollows _ current next hcurrent hnext with hsame | hmoved
  · rwa [hsame]
  · rcases hstatus with hsucceeded | hreused
    · rw [hsucceeded] at hmoved
      cases hmoved
    · rw [hreused] at hmoved
      cases hmoved

theorem Justified.write {after : MemoryState} (hjustified : state.Justified)
    (hafter : after.Referential) (hfollows : TasksFollowTable state after)
    (hwrite : Write state after) : after.Justified := by
  have hkept : after.outputCheckpoints = state.outputCheckpoints → after.Justified := by
    intro hsame
    apply hjustified.of_rows hfollows
    intro checkpoint hmem
    exact ⟨hsame ▸ hmem, hafter.outputCheckpoints checkpoint hmem⟩
  cases hwrite with
  | workflowRunCreated => exact hkept rfl
  | workflowRunUpdated => exact hkept (by simp)
  | taskRunCreated => exact hkept rfl
  | taskRunUpdated => exact hkept (by simp)
  | taskAttemptAppended => exact hkept rfl
  | taskAttemptUpdated => exact hkept (by simp)
  | externalRefAppended => exact hkept rfl
  | manifestSet => exact hkept rfl
  | checkpointSet hparent hstatus =>
      intro other hmem
      rcases (Table.mem_set _ _ _).mp hmem with rfl | ⟨hold, -⟩
      · exact ⟨_, hparent, hstatus⟩
      · exact hjustified other hold
  | pruned runIds =>
      apply hjustified.of_rows hfollows
      intro checkpoint hmem
      exact ⟨List.mem_of_mem_filter hmem, hafter.outputCheckpoints checkpoint hmem⟩

end Checkpoints

end MemoryState

section Histories

open MemoryState

variable {state : MemoryState}

theorem afterHistory_append (first second : List StoreCommand) :
    afterHistory state (first ++ second) = afterHistory (afterHistory state first) second :=
  List.foldl_append

/-- What every write of a command keeps holds after a history. -/
theorem afterHistory_induction (property : MemoryState → Prop)
    (hwrite : ∀ before after, property before → Write before after → property after)
    (history : List StoreCommand) (haware : ∀ command ∈ history, command.Aware)
    (hstart : property state) : property (afterHistory state history) := by
  induction history generalizing state with
  | nil => exact hstart
  | cons command rest ih =>
      apply ih fun other hother => haware other (List.mem_cons_of_mem _ hother)
      rcases command.after_cases (haware command List.mem_cons_self) with hsame | hchanged
      · rwa [hsame]
      · exact hwrite _ _ hstart hchanged

theorem consistent_afterHistory (history : List StoreCommand)
    (haware : ∀ command ∈ history, command.Aware) :
    (afterHistory .empty history).Consistent :=
  afterHistory_induction MemoryState.Consistent
    (fun _ _ hbefore hwrite => hbefore.write hwrite) history haware consistent_empty

theorem continues_afterHistory (state : MemoryState) (history : List StoreCommand)
    (haware : ∀ command ∈ history, command.Aware) :
    Continues state (afterHistory state history) :=
  afterHistory_induction (Continues state)
    (fun _ _ hbefore hwrite => hbefore.trans (.of_write hwrite)) history haware
    (.refl state)

/-- Every command of the history moves tasks along their table. -/
def FollowsTable (state : MemoryState) : List StoreCommand → Prop
  | [] => True
  | command :: rest =>
      TasksFollowTable state (command.after state) ∧ FollowsTable (command.after state) rest

theorem justified_afterHistory (history : List StoreCommand)
    (haware : ∀ command ∈ history, command.Aware) (hfollows : FollowsTable state history)
    (hconsistent : state.Consistent) (hjustified : state.Justified) :
    (afterHistory state history).Justified := by
  induction history generalizing state with
  | nil => exact hjustified
  | cons command rest ih =>
      have hrest := fun other hother => haware other (List.mem_cons_of_mem command hother)
      rcases command.after_cases (haware command List.mem_cons_self) with hsame | hwrite
      · apply ih hrest hfollows.2
        · rwa [hsame]
        · rwa [hsame]
      · have hafter := hconsistent.write hwrite
        exact ih hrest hfollows.2 hafter
          (hjustified.write hafter.referential hfollows.1 hwrite)

/-- As long as a task run has a checkpoint it is the same one. -/
theorem checkpoint_afterHistory {taskRunId : TaskRunId} {checkpoint : TaskOutputCheckpoint}
    (history : List StoreCommand) (haware : ∀ command ∈ history, command.Aware)
    (hfound : state.outputCheckpoints.find? taskRunId = some checkpoint)
    (hpresent : ∀ first second, history = first ++ second →
      (afterHistory state first).outputCheckpoints.find? taskRunId ≠ none) :
    (afterHistory state history).outputCheckpoints.find? taskRunId = some checkpoint := by
  induction history generalizing state with
  | nil => exact hfound
  | cons command rest ih =>
      have hrest := fun other hother => haware other (List.mem_cons_of_mem command hother)
      have hlater : ∀ first second, rest = first ++ second →
          (afterHistory (command.after state) first).outputCheckpoints.find? taskRunId ≠
            none := by
        intro first second hsplit
        exact hpresent (command :: first) second (by simp [hsplit])
      apply ih hrest ?_ hlater
      rcases command.after_cases (haware command List.mem_cons_self) with hsame | hwrite
      · rwa [hsame]
      · rcases CheckpointsKept.of_write hwrite _ _ hfound with hkept | hgone
        · exact hkept
        · exact absurd hgone (hlater [] rest rfl)

/-- The recorded transitions of every stored entity lead from its creation as
PENDING to its status. -/
structure TrailsComplete (state : MemoryState) : Prop where
  workflowRuns : ∀ run ∈ state.workflowRuns.rows,
    Step.Trail WorkflowRunStatus.pending.text
      (Step.of (.workflowRun, run.runId.value) state.steps) run.status.text
  taskRuns : ∀ taskRun ∈ state.taskRuns.rows,
    Step.Trail TaskRunStatus.pending.text
      (Step.of (.taskRun, taskRun.taskRunId.value) state.steps) taskRun.status.text
  taskAttempts : ∀ attempt ∈ state.taskAttempts.rows,
    Step.Trail TaskAttemptStatus.pending.text
      (Step.of (.taskAttempt, attempt.attemptId.value) state.steps) attempt.status.text

theorem MemoryState.Consistent.trails (hconsistent : state.Consistent) :
    TrailsComplete state where
  workflowRuns run hmem := hconsistent.evidence.trail _ _ (by
    simp [statusOf, Table.find?_of_mem _ hmem])
  taskRuns taskRun hmem := hconsistent.evidence.trail _ _ (by
    simp [statusOf, Table.find?_of_mem _ hmem])
  taskAttempts attempt hmem := hconsistent.evidence.trail _ _ (by
    simp [statusOf, Table.find?_of_mem _ hmem])

/-- What holds of the store after a history, whatever further history follows. -/
structure Evidential (history : List StoreCommand) : Prop where
  trails : TrailsComplete (afterHistory .empty history)
  increasing : (afterHistory .empty history).transitions.Pairwise
    fun left right => left.sequence < right.sequence
  neverReused : ∀ further, (∀ command ∈ further, command.Aware) →
    ∀ record ∈ (afterHistory .empty (history ++ further)).transitions,
      record ∈ (afterHistory .empty history).transitions ∨
        ∀ earlier, (∃ first second, history = first ++ second ∧
            earlier ∈ (afterHistory .empty first).transitions) →
          earlier.sequence < record.sequence
  numbered : (afterHistory .empty history).Numbered
  referential : (afterHistory .empty history).Referential
  justified : FollowsTable .empty history → (afterHistory .empty history).Justified
  unchanged : ∀ further, (∀ command ∈ further, command.Aware) →
    ∀ taskRunId checkpoint,
      (afterHistory .empty history).outputCheckpoints.find? taskRunId = some checkpoint →
      (∀ first second, further = first ++ second →
        (afterHistory .empty (history ++ first)).outputCheckpoints.find? taskRunId ≠ none) →
      (afterHistory .empty (history ++ further)).outputCheckpoints.find? taskRunId =
        some checkpoint

/-- Every history with timezone-aware transition times, pruning and failing
commands included, leaves a consistent store. -/
theorem evidential (history : List StoreCommand)
    (haware : ∀ command ∈ history, command.Aware) : Evidential history where
  trails := (consistent_afterHistory history haware).trails
  increasing := (consistent_afterHistory history haware).ordered.increasing
  neverReused further hfurther record hrecord := by
    rw [afterHistory_append] at hrecord
    rcases (continues_afterHistory _ further hfurther).records record hrecord with hold | hnew
    · exact Or.inl hold
    · right
      rintro earlier ⟨first, second, rfl, hearlier⟩
      have hfirst := consistent_afterHistory first fun command hmem =>
        haware command (List.mem_append_left _ hmem)
      have hcounter := (continues_afterHistory (afterHistory .empty first) second
        fun command hmem => haware command (List.mem_append_right _ hmem)).counter
      rw [← afterHistory_append] at hcounter
      calc earlier.sequence < (afterHistory .empty first).nextTransitionSequence :=
            hfirst.ordered.below earlier hearlier
        _ ≤ (afterHistory .empty (first ++ second)).nextTransitionSequence := hcounter
        _ ≤ record.sequence := hnew
  numbered := (consistent_afterHistory history haware).numbered
  referential := (consistent_afterHistory history haware).referential
  justified hfollows :=
    justified_afterHistory history haware hfollows consistent_empty
      (by simp [Justified, MemoryState.empty])
  unchanged further hfurther taskRunId checkpoint hfound hpresent := by
    rw [afterHistory_append]
    apply checkpoint_afterHistory further hfurther hfound
    intro first second hsplit
    rw [← afterHistory_append]
    exact hpresent first second hsplit

/-- A run with one task, which is skipped, then a second task of the same id. -/
def skippedHistory : List StoreCommand :=
  let run : WorkflowRun := .new ⟨.lit "run-1"⟩ (.lit "orders") (.lit "1")
    (.lit "sha256:d") (.lit "sha256:p") (.new ⟨.lit "correlation-1"⟩) .first none
  let taskRun : TaskRun := .new ⟨.lit "task-1"⟩ ⟨.lit "run-1"⟩ (.lit "extract") .first
  [.operation (.createWorkflowRun run), .operation (.createTaskRun taskRun),
    .operation (.updateTaskRun { taskRun with
      status := .skipped, endedAt := some .first,
      skipReason := some .triggerRuleUnsatisfied, valid := rfl } .pending
      (some (.aware .first))),
    .operation (.createTaskRun taskRun)]

theorem evidential_skipped : Evidential skippedHistory :=
  evidential skippedHistory (by simp [skippedHistory, StoreCommand.Aware, TimezoneAware])

end Histories

end PyWorkflowKit.Persistence
