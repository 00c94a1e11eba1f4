import PyWorkflowKit.Persistence.Consistency

/-!
# The records of one run

What the store holds about the tasks of one run, what a write of the store does to
it, and the part of the evidence log that belongs to the run.
-/

namespace PyWorkflowKit.Persistence

open PyWorkflowKit.Core PyWorkflowKit.Domain PyWorkflowKit.States

/-- What the store holds about one task of a run. -/
@[ext]
structure TaskRecord where
  taskRun : TaskRun
  attempts : List TaskAttempt
  checkpoint : Option TaskOutputCheckpoint

/-- Change the records of one task run. -/
def modifyTask (taskRunId : TaskRunId) (change : TaskRecord → TaskRecord)
    (tasks : List TaskRecord) : List TaskRecord :=
  tasks.map fun task =>
    if task.taskRun.taskRunId = taskRunId then change task else task

namespace MemoryState

variable {state : MemoryState}

/-- The task runs of one run, in the order of their creation. -/
def taskRunsOf (state : MemoryState) (runId : WorkflowRunId) : List TaskRun :=
  state.taskRuns.rows.filter fun taskRun => taskRun.workflowRunId = runId

def taskRecord (state : MemoryState) (taskRun : TaskRun) : TaskRecord where
  taskRun := taskRun
  attempts := state.attemptsOf taskRun.taskRunId
  checkpoint := state.outputCheckpoints.find? taskRun.taskRunId

/-- The records of the tasks of one run. -/
def tasksOf (state : MemoryState) (runId : WorkflowRunId) : List TaskRecord :=
  (state.taskRunsOf runId).map state.taskRecord

theorem mem_taskRunsOf {runId : WorkflowRunId} {taskRun : TaskRun} :
    taskRun ∈ state.taskRunsOf runId ↔
      taskRun ∈ state.taskRuns.rows ∧ taskRun.workflowRunId = runId := by
  simp [taskRunsOf]

theorem listTaskRuns_eq (runId : WorkflowRunId) :
    state.listTaskRuns runId =
      sortBy (fun taskRun => toLex (taskRun.taskKey.value, taskRun.taskRunId.str))
        ((state.tasksOf runId).map TaskRecord.taskRun) := by
  unfold listTaskRuns tasksOf taskRunsOf
  rw [List.map_map]
  congr 1
  exact (List.map_id _).symm

theorem nodup_taskRunIds (runId : WorkflowRunId) :
    ((state.tasksOf runId).map fun task => task.taskRun.taskRunId).Nodup := by
  unfold tasksOf taskRunsOf
  rw [List.map_map]
  exact state.taskRuns.nodup.sublist (List.filter_sublist.map _)

theorem modifyTask_taskRecord (taskRunId : TaskRunId) (change : TaskRecord → TaskRecord)
    (taskRuns : List TaskRun) :
    modifyTask taskRunId change (taskRuns.map state.taskRecord) =
      taskRuns.map fun taskRun =>
        if taskRun.taskRunId = taskRunId then change (state.taskRecord taskRun)
        else state.taskRecord taskRun := by
  unfold modifyTask
  rw [List.map_map]
  rfl

/-- A record of a run is what the tables hold under its id. -/
theorem mem_tasksOf {runId : WorkflowRunId} {task : TaskRecord} :
    task ∈ state.tasksOf runId ↔
      state.taskRuns.find? task.taskRun.taskRunId = some task.taskRun ∧
        task.taskRun.workflowRunId = runId ∧
        task.attempts = state.attemptsOf task.taskRun.taskRunId ∧
        task.checkpoint = state.outputCheckpoints.find? task.taskRun.taskRunId := by
  unfold tasksOf
  rw [List.mem_map]
  constructor
  · rintro ⟨taskRun, htaskRun, rfl⟩
    obtain ⟨hrow, howner⟩ := mem_taskRunsOf.mp htaskRun
    exact ⟨Table.find?_of_mem _ hrow, howner, rfl, rfl⟩
  · rintro ⟨hfound, howner, hattempts, hcheckpoint⟩
    refine ⟨task.taskRun, mem_taskRunsOf.mpr ⟨Table.mem_of_find? hfound, howner⟩, ?_⟩
    exact TaskRecord.ext rfl hattempts.symm hcheckpoint.symm

/-- The attempts of a run have distinct ids. -/
theorem nodup_attemptIds (runId : WorkflowRunId) :
    ((state.tasksOf runId).flatMap fun task =>
      task.attempts.map TaskAttempt.attemptId).Nodup := by
  have hids := state.nodup_taskRunIds runId
  rw [List.nodup_flatMap]
  constructor
  · intro task htask
    obtain ⟨-, -, hattempts, -⟩ := mem_tasksOf.mp htask
    rw [hattempts]
    exact state.taskAttempts.nodup.sublist (List.filter_sublist.map _)
  · rw [List.nodup_map_iff_inj_on] at hids
    · refine (List.Pairwise.imp_of_mem ?_ (List.Nodup.of_map _ (state.nodup_taskRunIds runId)))
      intro left right hleft hright hne
      rw [Function.onFun_apply, List.disjoint_left]
      intro attemptId hinLeft hinRight
      obtain ⟨-, -, hleftAttempts, -⟩ := mem_tasksOf.mp hleft
      obtain ⟨-, -, hrightAttempts, -⟩ := mem_tasksOf.mp hright
      rw [hleftAttempts] at hinLeft
      rw [hrightAttempts] at hinRight
      obtain ⟨attempt, hattempt, rfl⟩ := List.mem_map.mp hinLeft
      obtain ⟨other, hother, hid⟩ := List.mem_map.mp hinRight
      obtain ⟨hrow, howner⟩ := List.mem_filter.mp hattempt
      obtain ⟨hotherRow, hotherOwner⟩ := List.mem_filter.mp hother
      have hsame := state.taskAttempts.eq_of_mem hotherRow hrow hid
      subst hsame
      exact hne (hids left hleft right hright
        ((of_decide_eq_true howner).symm.trans (of_decide_eq_true hotherOwner)))
    · exact List.Nodup.of_map _ (state.nodup_taskRunIds runId)

section Writes

variable (runId : WorkflowRunId)

@[simp]
theorem tasksOf_afterWorkflowRun (status : WorkflowRunStatus) (run : WorkflowRun)
    (at_ : Instant) : (state.afterWorkflowRun status run at_).tasksOf runId =
      state.tasksOf runId := by
  unfold tasksOf taskRunsOf taskRecord attemptsOf
  simp

@[simp]
theorem tasksOf_addWorkflowRun (run : WorkflowRun) :
    (state.addWorkflowRun run).tasksOf runId = state.tasksOf runId := rfl

@[simp]
theorem tasksOf_addExternalRef (attemptId : TaskAttemptId) (externalRef : ExternalRunRef) :
    (state.addExternalRef attemptId externalRef).tasksOf runId = state.tasksOf runId := rfl

/-- A new task run stands alone, because references are kept. -/
theorem tasksOf_addTaskRun (href : state.Referential) {taskRun : TaskRun}
    (habsent : state.taskRuns.find? taskRun.taskRunId = none) :
    (state.addTaskRun taskRun).tasksOf runId =
      if taskRun.workflowRunId = runId then state.tasksOf runId ++ [⟨taskRun, [], none⟩]
      else state.tasksOf runId := by
  have hattempts : state.attemptsOf taskRun.taskRunId = [] := by
    apply List.filter_eq_nil_iff.mpr
    intro attempt hattempt howner
    exact href.taskAttempts attempt hattempt (by simpa [of_decide_eq_true howner] using habsent)
  have hcheckpoint : state.outputCheckpoints.find? taskRun.taskRunId = none := by
    rw [Table.find?_eq_none_iff]
    intro checkpoint hmem hid
    exact href.outputCheckpoints checkpoint hmem (by simpa [hid] using habsent)
  have hrecord : (state.addTaskRun taskRun).taskRecord = state.taskRecord := rfl
  have hrows : (state.addTaskRun taskRun).taskRuns.rows = state.taskRuns.rows ++ [taskRun] :=
    Table.rows_set_of_absent _ habsent
  unfold tasksOf taskRunsOf
  rw [hrecord, hrows, List.filter_append, List.map_append]
  by_cases howner : taskRun.workflowRunId = runId
  · simp [howner, taskRecord, hattempts, hcheckpoint]
  · simp [howner]

theorem tasksOf_afterTaskRun {current next : TaskRun} (at_ : Instant)
    (hfound : state.taskRuns.find? next.taskRunId = some current)
    (hidentity : current.SameIdentity next) :
    (state.afterTaskRun current.status next at_).tasksOf runId =
      modifyTask next.taskRunId (fun task => { task with taskRun := next })
        (state.tasksOf runId) := by
  have hrow := Table.mem_of_find? hfound
  have hpresent : next.taskRunId ∈ state.taskRuns.rows.map TaskRun.taskRunId := by
    rw [← hidentity.1]
    exact List.mem_map_of_mem hrow
  unfold tasksOf taskRunsOf
  rw [modifyTask_taskRecord, taskRuns_afterTaskRun,
    Table.rows_set_of_present _ hpresent, List.filter_map, List.map_map]
  have hkept : ∀ other ∈ state.taskRuns.rows,
      (if other.taskRunId = next.taskRunId then next else other).workflowRunId =
        other.workflowRunId := by
    intro other hother
    split
    · next hid =>
      rw [state.taskRuns.eq_of_mem hother hrow (hid.trans hidentity.1.symm)]
      exact hidentity.2.1.symm
    · rfl
  rw [List.filter_congr fun other hother => by
    simp only [Function.comp_apply]
    rw [hkept other hother]]
  apply List.map_congr_left
  intro other _
  by_cases hid : other.taskRunId = next.taskRunId
  · simp [taskRecord, attemptsOf, hid]
  · simp [taskRecord, attemptsOf, hid]

theorem tasksOf_addTaskAttempt {attempt : TaskAttempt}
    (habsent : state.taskAttempts.find? attempt.attemptId = none) :
    (state.addTaskAttempt attempt).tasksOf runId =
      modifyTask attempt.taskRunId
        (fun task => { task with attempts := task.attempts ++ [attempt] })
        (state.tasksOf runId) := by
  unfold tasksOf
  rw [modifyTask_taskRecord]
  apply List.map_congr_left
  intro taskRun _
  unfold taskRecord
  rw [attemptsOf_addTaskAttempt habsent]
  by_cases howner : attempt.taskRunId = taskRun.taskRunId
  · rw [if_pos howner, if_pos howner.symm]
    rfl
  · rw [if_neg howner, if_neg (Ne.symm howner)]
    rfl

theorem tasksOf_afterTaskAttempt {current next : TaskAttempt} (at_ : Instant)
    (hfound : state.taskAttempts.find? next.attemptId = some current)
    (hidentity : current.SameIdentity next) :
    (state.afterTaskAttempt current.status next at_).tasksOf runId =
      modifyTask next.taskRunId
        (fun task => { task with attempts := replaceAttempt next task.attempts })
        (state.tasksOf runId) := by
  have hrow := Table.mem_of_find? hfound
  unfold tasksOf taskRunsOf
  rw [modifyTask_taskRecord, taskRuns_afterTaskAttempt]
  apply List.map_congr_left
  intro taskRun _
  unfold taskRecord
  rw [attemptsOf_afterTaskAttempt state _ at_ hrow hidentity]
  by_cases hother : taskRun.taskRunId = next.taskRunId
  · simp [hother]
  · have hsame : replaceAttempt next (state.attemptsOf taskRun.taskRunId) =
        state.attemptsOf taskRun.taskRunId := by
      unfold replaceAttempt
      conv_rhs => rw [← List.map_id (state.attemptsOf taskRun.taskRunId)]
      apply List.map_congr_left
      intro attempt hattempt
      obtain ⟨hmem, howner⟩ := List.mem_filter.mp hattempt
      rw [if_neg]
      · rfl
      · intro hid
        have hcurrent := state.taskAttempts.eq_of_mem hmem hrow
          (hid.trans hidentity.1.symm)
        subst hcurrent
        exact hother ((of_decide_eq_true howner).symm.trans hidentity.2.1)
    simp [hsame, hother]

theorem tasksOf_addCheckpoint (checkpoint : TaskOutputCheckpoint) :
    (state.addCheckpoint checkpoint).tasksOf runId =
      modifyTask checkpoint.taskRunId
        (fun task => { task with checkpoint := some checkpoint }) (state.tasksOf runId) := by
  unfold tasksOf
  rw [modifyTask_taskRecord]
  apply List.map_congr_left
  intro taskRun _
  unfold taskRecord addCheckpoint
  by_cases hid : taskRun.taskRunId = checkpoint.taskRunId
  · simp [hid, attemptsOf]
  · rw [if_neg hid, Table.find?_set_of_ne _ _ (Ne.symm hid)]
    rfl

end Writes

section ExternalRefs

theorem mem_listExternalRunRefs {attemptId : TaskAttemptId} {externalRef : ExternalRunRef} :
    externalRef ∈ state.listExternalRunRefs attemptId ↔
      (attemptId, externalRef) ∈ state.externalRefs.rows := by
  unfold listExternalRunRefs
  simp

/-- Adding a new reference to an attempt lists no other new reference. -/
theorem mem_listExternalRunRefs_add {attemptId : TaskAttemptId}
    {externalRef other : ExternalRunRef}
    (habsent : state.externalRefs.find? (externalRefKey (attemptId, externalRef)) = none) :
    other ∈ (state.addExternalRef attemptId externalRef).listExternalRunRefs attemptId ↔
      other ∈ state.listExternalRunRefs attemptId ∨ other = externalRef := by
  have hrows : (state.addExternalRef attemptId externalRef).externalRefs.rows =
      state.externalRefs.rows ++ [(attemptId, externalRef)] :=
    Table.rows_set_of_absent _ habsent
  rw [mem_listExternalRunRefs, mem_listExternalRunRefs, hrows]
  simp

/-- A reference is only rejected where the attempt has one with the same key. -/
theorem exists_mem_listExternalRunRefs {attemptId : TaskAttemptId}
    {externalRef : ExternalRunRef}
    (hpresent : state.externalRefs.find? (externalRefKey (attemptId, externalRef)) ≠ none) :
    ∃ stored ∈ state.listExternalRunRefs attemptId,
      (stored.provider, stored.kind, stored.externalRunId) =
        (externalRef.provider, externalRef.kind, externalRef.externalRunId) := by
  obtain ⟨⟨owner, stored⟩, hfound⟩ := Option.ne_none_iff_exists'.mp hpresent
  have hkey := Table.key_of_find? hfound
  simp only [externalRefKey, Prod.mk.injEq] at hkey
  obtain ⟨rfl, hprovider, hkind, hrun⟩ := hkey
  refine ⟨stored, mem_listExternalRunRefs.mpr (Table.mem_of_find? hfound), ?_⟩
  rw [hprovider, hkind, hrun]

end ExternalRefs

section Log

/-- The run that an entity belongs to. -/
def ownerOf (state : MemoryState) : StateEntityType × Text → Option WorkflowRunId
  | (.workflowRun, entityId) => some ⟨entityId⟩
  | (.taskRun, entityId) => (state.taskRuns.find? ⟨entityId⟩).map TaskRun.workflowRunId
  | (.taskAttempt, entityId) =>
      (state.taskAttempts.find? ⟨entityId⟩).bind fun attempt =>
        (state.taskRuns.find? attempt.taskRunId).map TaskRun.workflowRunId

/-- The part of the evidence log that belongs to one run. -/
def transitionsOf (state : MemoryState) (runId : WorkflowRunId) :
    List StateTransitionRecord :=
  state.transitions.filter fun record =>
    state.ownerOf (record.entityType, record.entityId) = some runId

/-- Everything that the store holds about one run. -/
structure Archive where
  run : Option WorkflowRun
  tasks : List TaskRecord
  transitions : List StateTransitionRecord

def archive (state : MemoryState) (runId : WorkflowRunId) : Archive where
  run := state.workflowRuns.find? runId
  tasks := state.tasksOf runId
  transitions := state.transitionsOf runId

/-- A write to the records of one run. -/
inductive RunWrite (state : MemoryState) (runId : WorkflowRunId) : MemoryState → Prop
  | workflowRunCreated {run : WorkflowRun} (hstatus : run.status = .pending)
      (habsent : state.workflowRuns.find? run.runId = none) (hrun : run.runId = runId) :
      RunWrite state runId (state.addWorkflowRun run)
  | workflowRunUpdated {current run : WorkflowRun} (at_ : Instant)
      (hfound : state.workflowRuns.find? run.runId = some current)
      (hidentity : current.SameIdentity run) (hrun : run.runId = runId) :
      RunWrite state runId (state.afterWorkflowRun current.status run at_)
  | taskRunCreated {taskRun : TaskRun} (hstatus : taskRun.status = .pending)
      (habsent : state.taskRuns.find? taskRun.taskRunId = none)
      (hparent : state.workflowRuns.find? taskRun.workflowRunId ≠ none)
      (hrun : taskRun.workflowRunId = runId) :
      RunWrite state runId (state.addTaskRun taskRun)
  | taskRunUpdated {current taskRun : TaskRun} (at_ : Instant)
      (hfound : state.taskRuns.find? taskRun.taskRunId = some current)
      (hidentity : current.SameIdentity taskRun) (hrun : current.workflowRunId = runId) :
      RunWrite state runId (state.afterTaskRun current.status taskRun at_)
  | taskAttemptAppended {attempt : TaskAttempt} {taskRun : TaskRun}
      (hstatus : attempt.status = .pending)
      (habsent : state.taskAttempts.find? attempt.attemptId = none)
      (hparent : state.taskRuns.find? attempt.taskRunId = some taskRun)
      (hnumber : attempt.attemptNumber = (state.attemptsOf attempt.taskRunId).length + 1)
      (hrun : taskRun.workflowRunId = runId) :
      RunWrite state runId (state.addTaskAttempt attempt)
  | taskAttemptUpdated {current attempt : TaskAttempt} {taskRun : TaskRun} (at_ : Instant)
      (hfound : state.taskAttempts.find? attempt.attemptId = some current)
      (hidentity : current.SameIdentity attempt)
      (hparent : state.taskRuns.find? attempt.taskRunId = some taskRun)
      (hrun : taskRun.workflowRunId = runId) :
      RunWrite state runId (state.afterTaskAttempt current.status attempt at_)
  | externalRefAppended {attemptId : TaskAttemptId} {externalRef : ExternalRunRef}
      (hparent : state.taskAttempts.find? attemptId ≠ none) :
      RunWrite state runId (state.addExternalRef attemptId externalRef)
  | checkpointSet {checkpoint : TaskOutputCheckpoint} {taskRun : TaskRun}
      (hparent : state.taskRuns.find? checkpoint.taskRunId = some taskRun)
      (hstatus : taskRun.status = .succeeded ∨ taskRun.status = .reused)
      (hsame : ∀ existing ∈ state.outputCheckpoints.find? checkpoint.taskRunId,
        existing = checkpoint)
      (hrun : taskRun.workflowRunId = runId) :
      RunWrite state runId (state.addCheckpoint checkpoint)

variable {runId other : WorkflowRunId}

theorem RunWrite.write {after : MemoryState} (hwrite : RunWrite state runId after) :
    Write state after := by
  cases hwrite with
  | workflowRunCreated hstatus habsent => exact .workflowRunCreated hstatus habsent
  | workflowRunUpdated at_ hfound hidentity => exact .workflowRunUpdated at_ hfound hidentity
  | taskRunCreated hstatus habsent hparent => exact .taskRunCreated hstatus habsent hparent
  | taskRunUpdated at_ hfound hidentity => exact .taskRunUpdated at_ hfound hidentity
  | taskAttemptAppended hstatus habsent hparent hnumber =>
      exact .taskAttemptAppended hstatus habsent (by simp [hparent]) hnumber
  | taskAttemptUpdated at_ hfound hidentity => exact .taskAttemptUpdated at_ hfound hidentity
  | externalRefAppended hparent => exact .externalRefAppended hparent
  | checkpointSet hparent hstatus hsame => exact .checkpointSet hparent hstatus hsame

/-- The records of a task that is not among them cannot be changed. -/
theorem modifyTask_of_absent {taskRunId : TaskRunId} {change : TaskRecord → TaskRecord}
    {tasks : List TaskRecord}
    (habsent : ∀ task ∈ tasks, task.taskRun.taskRunId ≠ taskRunId) :
    modifyTask taskRunId change tasks = tasks := by
  unfold modifyTask
  conv_rhs => rw [← List.map_id tasks]
  apply List.map_congr_left
  intro task htask
  rw [if_neg (habsent task htask)]
  rfl

/-- A task run of one run is not a task run of another. -/
theorem taskRunId_ne_of_other {taskRun : TaskRun} {taskRunId : TaskRunId}
    (hfound : state.taskRuns.find? taskRunId = some taskRun)
    (hrun : taskRun.workflowRunId = runId) (hother : runId ≠ other) :
    ∀ task ∈ state.tasksOf other, task.taskRun.taskRunId ≠ taskRunId := by
  intro task htask hid
  obtain ⟨hrow, howner, -⟩ := mem_tasksOf.mp htask
  rw [hid, hfound] at hrow
  cases hrow
  exact hother (hrun.symm.trans howner)

/-- Every record of the log is about a stored entity. -/
theorem Consistent.stored (hconsistent : state.Consistent) {record : StateTransitionRecord}
    (hrecord : record ∈ state.transitions) :
    state.statusOf (record.entityType, record.entityId) ≠ none := by
  intro hnone
  have hempty := hconsistent.evidence.absent _ hnone
  have hmem : (⟨(record.entityType, record.entityId), record.fromStatus,
      record.toStatus⟩ : Step (StateEntityType × Text) Text) ∈
        Step.of (record.entityType, record.entityId) state.steps := by
    apply List.mem_filter.mpr
    refine ⟨List.mem_map.mpr ⟨record, hrecord, rfl⟩, by simp⟩
  rw [hempty] at hmem
  cases hmem

/-- The log of a run does not see records about other runs. -/
theorem transitionsOf_of_append {after : MemoryState} {added : List StateTransitionRecord}
    (happend : after.transitions = state.transitions ++ added)
    (hadded : ∀ record ∈ added,
      after.ownerOf (record.entityType, record.entityId) ≠ some other)
    (howner : ∀ record ∈ state.transitions,
      after.ownerOf (record.entityType, record.entityId) =
        state.ownerOf (record.entityType, record.entityId)) :
    after.transitionsOf other = state.transitionsOf other := by
  have hnew : added.filter (fun record =>
      after.ownerOf (record.entityType, record.entityId) = some other) = [] := by
    apply List.filter_eq_nil_iff.mpr
    intro record hrecord
    simpa using hadded record hrecord
  unfold transitionsOf
  rw [happend, List.filter_append, hnew, List.append_nil]
  apply List.filter_congr
  intro record hrecord
  rw [howner record hrecord]

/-- What `noteChange` adds to the log. -/
theorem transitions_noteChange (state : MemoryState) (entityType : StateEntityType) (entityId : Text)
    (changed : Bool) (fromStatus : Option Text) (toStatus : Text) (at_ : Instant) :
    ∃ added, (state.noteChange entityType entityId changed fromStatus toStatus
        at_).transitions = state.transitions ++ added ∧
      ∀ record ∈ added, record.entityType = entityType ∧ record.entityId = entityId := by
  unfold noteChange
  split
  · exact ⟨_, rfl, by simp⟩
  · exact ⟨[], by simp, by simp⟩

theorem ownerOf_congr {after : MemoryState}
    (htasks : ∀ taskRunId, (after.taskRuns.find? taskRunId).map TaskRun.workflowRunId =
      (state.taskRuns.find? taskRunId).map TaskRun.workflowRunId)
    (hattempts : ∀ attemptId, (after.taskAttempts.find? attemptId).map TaskAttempt.taskRunId =
      (state.taskAttempts.find? attemptId).map TaskAttempt.taskRunId) :
    after.ownerOf = state.ownerOf := by
  funext ⟨entityType, entityId⟩
  cases entityType with
  | workflowRun => rfl
  | taskRun => exact htasks ⟨entityId⟩
  | taskAttempt =>
      have hsame := hattempts ⟨entityId⟩
      simp only [ownerOf]
      cases hafter : after.taskAttempts.find? ⟨entityId⟩ with
      | none =>
          cases hbefore : state.taskAttempts.find? ⟨entityId⟩ with
          | none => rfl
          | some attempt => simp [hafter, hbefore] at hsame
      | some attempt =>
          cases hbefore : state.taskAttempts.find? ⟨entityId⟩ with
          | none => simp [hafter, hbefore] at hsame
          | some former =>
              simp only [hafter, hbefore, Option.map_some, Option.some.injEq] at hsame
              simp only [Option.bind_some, hsame]
              exact htasks _

/-- Replacing a row by one that agrees with it in `f` keeps `f` of every row. -/
theorem map_find?_set {κ ν β : Type} [DecidableEq κ] {key : ν → κ} (table : Table key)
    (f : ν → β) {current next : ν} (hfound : table.find? (key next) = some current)
    (hsame : f current = f next) (wanted : κ) :
    ((table.set next).find? wanted).map f = (table.find? wanted).map f := by
  by_cases hkey : key next = wanted
  · subst hkey
    simp [hfound, hsame]
  · rw [Table.find?_set_of_ne _ _ hkey]

/-- Whatever is written about one run, the records of the others stay. -/
theorem RunWrite.archive_other {after : MemoryState} (hconsistent : state.Consistent)
    (hwrite : RunWrite state runId after) (hother : runId ≠ other) :
    after.archive other = state.archive other := by
  have hsplit : after.workflowRuns.find? other = state.workflowRuns.find? other →
      after.tasksOf other = state.tasksOf other →
      after.transitionsOf other = state.transitionsOf other →
      after.archive other = state.archive other := by
    intro hrun htasks htransitions
    unfold archive
    rw [hrun, htasks, htransitions]
  cases hwrite with
  | @workflowRunCreated run hstatus habsent hrun =>
      refine hsplit (Table.find?_set_of_ne _ _ (by rw [hrun]; exact hother)) rfl ?_
      refine transitionsOf_of_append rfl ?_ fun _ _ => ?_
      · intro record hrecord
        obtain rfl := List.mem_singleton.mp hrecord
        simpa [ownerOf, hrun] using hother
      · exact congrFun (ownerOf_congr (fun _ => rfl) fun _ => rfl) _
  | @workflowRunUpdated current run at_ hfound hidentity hrun =>
      have howner : (state.afterWorkflowRun current.status run at_).ownerOf =
          state.ownerOf := ownerOf_congr (fun _ => by simp) fun _ => by simp
      obtain ⟨added, happend, hadded⟩ := transitions_noteChange
        (state.withWorkflowRun run) .workflowRun run.runId.value
        (current.status ≠ run.status) (some current.status.text) run.status.text at_
      refine hsplit ?_ (by simp) (transitionsOf_of_append happend ?_ ?_)
      · rw [workflowRuns_afterWorkflowRun, Table.find?_set_of_ne]
        rw [hrun]
        exact hother
      · intro record hrecord
        obtain ⟨htype, hid⟩ := hadded record hrecord
        rw [htype, hid]
        simpa [ownerOf, hrun] using hother
      · intro record _
        rw [howner]
  | @taskRunCreated taskRun hstatus habsent hparent hrun =>
      refine hsplit rfl ?_ (transitionsOf_of_append rfl ?_ ?_)
      · rw [tasksOf_addTaskRun _ hconsistent.referential habsent, if_neg]
        rw [hrun]
        exact hother
      · intro record hrecord
        obtain rfl := List.mem_singleton.mp hrecord
        simpa [ownerOf, addTaskRun, withTransition, withTaskRun, hrun] using hother
      · rintro ⟨_, entityType, entityId, _, _, _, _⟩ hrecord
        have hstored := hconsistent.stored hrecord
        have hkept : ∀ taskRunId, state.taskRuns.find? taskRunId ≠ none →
            (state.addTaskRun taskRun).taskRuns.find? taskRunId =
              state.taskRuns.find? taskRunId := by
          intro taskRunId hpresent
          refine Table.find?_set_of_ne _ _ fun heq => hpresent ?_
          rw [← heq]
          exact habsent
        cases entityType with
        | workflowRun => rfl
        | taskRun =>
            have hpresent : state.taskRuns.find? ⟨entityId⟩ ≠ none := by
              intro hnone
              simp [statusOf, hnone] at hstored
            exact congrArg (Option.map TaskRun.workflowRunId) (hkept _ hpresent)
        | taskAttempt =>
            change (state.taskAttempts.find? ⟨entityId⟩).bind _ =
              (state.taskAttempts.find? ⟨entityId⟩).bind _
            cases hattempt : state.taskAttempts.find? ⟨entityId⟩ with
            | none => rfl
            | some attempt =>
                exact congrArg (Option.map TaskRun.workflowRunId)
                  (hkept _ (hconsistent.referential.taskAttempts attempt
                    (Table.mem_of_find? hattempt)))
  | @taskRunUpdated current taskRun at_ hfound hidentity hrun =>
      have howner : (state.afterTaskRun current.status taskRun at_).ownerOf =
          state.ownerOf := by
        refine ownerOf_congr (fun wanted => ?_) fun _ => by simp
        rw [taskRuns_afterTaskRun]
        exact map_find?_set _ _ hfound hidentity.2.1 wanted
      obtain ⟨added, happend, hadded⟩ := transitions_noteChange
        (state.withTaskRun taskRun) .taskRun taskRun.taskRunId.value
        (current.status ≠ taskRun.status) (some current.status.text) taskRun.status.text at_
      refine hsplit (by simp) ?_ (transitionsOf_of_append happend ?_ ?_)
      · rw [tasksOf_afterTaskRun _ at_ hfound hidentity]
        exact modifyTask_of_absent (taskRunId_ne_of_other hfound hrun hother)
      · intro record hrecord
        obtain ⟨htype, hid⟩ := hadded record hrecord
        have hfound' : state.taskRuns.find? taskRun.taskRunId = some current := hfound
        rw [howner, htype, hid]
        simpa [ownerOf, hfound', hrun] using hother
      · intro record _
        rw [howner]
  | @taskAttemptAppended attempt taskRun hstatus habsent hparent hnumber hrun =>
      refine hsplit rfl ?_ (transitionsOf_of_append rfl ?_ ?_)
      · rw [tasksOf_addTaskAttempt _ habsent]
        exact modifyTask_of_absent (taskRunId_ne_of_other hparent hrun hother)
      · intro record hrecord
        obtain rfl := List.mem_singleton.mp hrecord
        simpa [ownerOf, addTaskAttempt, withTransition, withTaskAttempt, hparent, hrun]
          using hother
      · rintro ⟨_, entityType, entityId, _, _, _, _⟩ hrecord
        have hstored := hconsistent.stored hrecord
        cases entityType with
        | workflowRun => rfl
        | taskRun => rfl
        | taskAttempt =>
            have hne : attempt.attemptId ≠ ⟨entityId⟩ := by
              intro heq
              rw [heq] at habsent
              simp [statusOf, habsent] at hstored
            exact congrArg (fun found : Option TaskAttempt => found.bind _)
              (Table.find?_set_of_ne _ _ hne)
  | @taskAttemptUpdated current attempt taskRun at_ hfound hidentity hparent hrun =>
      have howner : (state.afterTaskAttempt current.status attempt at_).ownerOf =
          state.ownerOf := by
        refine ownerOf_congr (fun _ => by simp) fun wanted => ?_
        rw [taskAttempts_afterTaskAttempt]
        exact map_find?_set _ _ hfound hidentity.2.1 wanted
      obtain ⟨added, happend, hadded⟩ := transitions_noteChange
        (state.withTaskAttempt attempt) .taskAttempt attempt.attemptId.value
        (current.status ≠ attempt.status) (some current.status.text) attempt.status.text at_
      refine hsplit (by simp) ?_ (transitionsOf_of_append happend ?_ ?_)
      · rw [tasksOf_afterTaskAttempt _ at_ hfound hidentity]
        exact modifyTask_of_absent (taskRunId_ne_of_other hparent hrun hother)
      · intro record hrecord
        obtain ⟨htype, hid⟩ := hadded record hrecord
        have hfound' : state.taskAttempts.find? attempt.attemptId = some current := hfound
        have hparent' : state.taskRuns.find? current.taskRunId = some taskRun := by
          rw [hidentity.2.1]
          exact hparent
        rw [howner, htype, hid]
        simpa [ownerOf, hfound', hparent', hrun] using hother
      · intro record _
        rw [howner]
  | externalRefAppended => rfl
  | @checkpointSet checkpoint taskRun hparent hstatus hsame hrun =>
      refine hsplit rfl ?_ rfl
      rw [tasksOf_addCheckpoint]
      exact modifyTask_of_absent (taskRunId_ne_of_other hparent hrun hother)

/-- A write to one run leaves the owner of every entity, or makes it this run. -/
theorem RunWrite.ownerOf_eq {after : MemoryState} (hwrite : RunWrite state runId after)
    (entity : StateEntityType × Text) :
    after.ownerOf entity = state.ownerOf entity ∨ after.ownerOf entity = some runId := by
  cases hwrite with
  | workflowRunCreated => exact Or.inl (congrFun (ownerOf_congr (fun _ => rfl) fun _ => rfl) _)
  | workflowRunUpdated =>
      exact Or.inl (congrFun (ownerOf_congr (fun _ => by simp) fun _ => by simp) _)
  | @taskRunCreated taskRun hstatus habsent hparent hrun =>
      have hfound : ∀ wanted, (state.addTaskRun taskRun).taskRuns.find? wanted =
          if taskRun.taskRunId = wanted then some taskRun
          else state.taskRuns.find? wanted := by
        intro wanted
        by_cases hid : taskRun.taskRunId = wanted
        · subst hid
          rw [if_pos rfl]
          exact Table.find?_set_self _ _
        · rw [if_neg hid]
          exact Table.find?_set_of_ne _ _ hid
      obtain ⟨entityType, entityId⟩ := entity
      cases entityType with
      | workflowRun => exact Or.inl rfl
      | taskRun =>
          simp only [ownerOf, hfound]
          split
          · exact Or.inr (by simp [hrun])
          · exact Or.inl rfl
      | taskAttempt =>
          change (state.taskAttempts.find? ⟨entityId⟩).bind _ =
              (state.taskAttempts.find? ⟨entityId⟩).bind _ ∨
            (state.taskAttempts.find? ⟨entityId⟩).bind _ = some runId
          cases state.taskAttempts.find? ⟨entityId⟩ with
          | none => exact Or.inl rfl
          | some attempt =>
              simp only [Option.bind_some, hfound]
              split
              · exact Or.inr (by simp [hrun])
              · exact Or.inl rfl
  | taskRunUpdated at_ hfound hidentity =>
      refine Or.inl (congrFun (ownerOf_congr (fun wanted => ?_) fun _ => by simp) _)
      rw [taskRuns_afterTaskRun]
      exact map_find?_set _ _ hfound hidentity.2.1 wanted
  | @taskAttemptAppended attempt taskRun hstatus habsent hparent hnumber hrun =>
      obtain ⟨entityType, entityId⟩ := entity
      cases entityType with
      | workflowRun => exact Or.inl rfl
      | taskRun => exact Or.inl rfl
      | taskAttempt =>
          change ((state.taskAttempts.set attempt).find? ⟨entityId⟩).bind _ =
              (state.taskAttempts.find? ⟨entityId⟩).bind _ ∨
            ((state.taskAttempts.set attempt).find? ⟨entityId⟩).bind _ = some runId
          by_cases hid : attempt.attemptId = ⟨entityId⟩
          · right
            rw [← hid, Table.find?_set_self]
            simp [addTaskAttempt, withTransition, withTaskAttempt, hparent, hrun]
          · left
            rw [Table.find?_set_of_ne _ _ hid]
            rfl
  | taskAttemptUpdated at_ hfound hidentity =>
      refine Or.inl (congrFun (ownerOf_congr (fun _ => by simp) fun wanted => ?_) _)
      rw [taskAttempts_afterTaskAttempt]
      exact map_find?_set _ _ hfound hidentity.2.1 wanted
  | externalRefAppended => exact Or.inl rfl
  | checkpointSet => exact Or.inl rfl

end Log

end MemoryState

end PyWorkflowKit.Persistence
