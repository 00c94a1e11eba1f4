import PyWorkflowKit.Runtime.Scenes
import PyWorkflowKit.Runtime.Workflow

/-!
# Steps on the record of a run

What the queries, the creations and the transitions of the runtime do to the record
of the run.  They fail with errors that say nothing about the plan.
-/

namespace PyWorkflowKit.Runtime

open PyWorkflowKit.Core PyWorkflowKit.Domain PyWorkflowKit.States
open PyWorkflowKit.Persistence PyWorkflowKit.Executors Program

/-- The error is not a broken invariant of the runtime. -/
def Harmless (error : PyError) : Prop := error.errorClass ≠ .runtimeInvariant

theorem harmless_of_stateMachine {error : PyError}
    (herror : error.isStateMachineError = true) : Harmless error := by
  cases error <;> simp [PyError.isStateMachineError] at herror <;>
    simp [Harmless, PyError.errorClass]

/-- The outcome that a result reports for one task. -/
def taskOutcome (outputs : Outputs) (task : TaskRecord) : TaskOutcome where
  taskKey := task.taskRun.taskKey
  taskRunId := task.taskRun.taskRunId
  status := task.taskRun.status
  attemptIds := task.attempts.map TaskAttempt.attemptId
  output := ((outputs.find? task.taskRun.taskKey).map Prod.snd).getD .none
  failure := task.taskRun.failure

/-- A result reports the recorded run and its tasks. -/
structure Reports (run : WorkflowRun) (tasks : List TaskRecord) (outputs : Outputs)
    (result : WorkflowResult) : Prop where
  runId : result.runId = run.runId
  status : result.status = run.status
  failure : result.failure = run.failure
  outcomes : ∀ outcome, outcome ∈ result.taskOutcomes ↔
    ∃ task ∈ tasks, outcome = taskOutcome outputs task

namespace Scene

variable {scene : Scene} {α : Type} {run : Option WorkflowRun}
  {done todo tasks : List TaskRecord} {task : TaskRecord}
  {executions : List (TaskExecutionRequest × Execution)} {record : RunRecord}

/-- The rows behind a record. -/
theorem Stands.taskRow {world : World} (hstands : scene.Stands record world)
    (htask : task ∈ record.tasks) :
    world.store.taskRuns.find? task.taskRun.taskRunId = some task.taskRun ∧
      task.taskRun.workflowRunId = scene.runId ∧
      task.attempts = world.store.attemptsOf task.taskRun.taskRunId ∧
      task.checkpoint = world.store.outputCheckpoints.find? task.taskRun.taskRunId := by
  rw [← hstands.record] at htask
  exact MemoryState.mem_tasksOf.mp htask

theorem Stands.runRow {world : World} (hstands : scene.Stands record world) :
    world.store.workflowRuns.find? scene.runId = record.run := by
  rw [← hstands.record]
  rfl

theorem Stands.attemptRow {world : World} (hstands : scene.Stands record world)
    (htask : task ∈ record.tasks) {attempt : TaskAttempt} (hattempt : attempt ∈ task.attempts) :
    world.store.taskAttempts.find? attempt.attemptId = some attempt ∧
      attempt.taskRunId = task.taskRun.taskRunId := by
  rw [(hstands.taskRow htask).2.2.1] at hattempt
  obtain ⟨hrow, howner⟩ := List.mem_filter.mp hattempt
  exact ⟨Table.find?_of_mem _ hrow, of_decide_eq_true howner⟩

/-- A stored task run with an id that is kept for the run is one of its tasks. -/
theorem Stands.task_of_kept {world : World} (hstands : scene.Stands record world)
    {taskRunId : TaskRunId} (hkept : scene.taskIds taskRunId)
    (hstored : world.store.taskRuns.find? taskRunId ≠ none) :
    ∃ task ∈ record.tasks, task.taskRun.taskRunId = taskRunId := by
  obtain ⟨taskRun, hfound⟩ := Option.ne_none_iff_exists'.mp hstored
  have howner : taskRun.workflowRunId = scene.runId :=
    hstands.reserved.taskIds taskRunId hkept _ (by simp [MemoryState.ownerOf, hfound])
  have hid := Table.key_of_find? hfound
  refine ⟨world.store.taskRecord taskRun, ?_, hid⟩
  rw [← hstands.record]
  exact MemoryState.mem_tasksOf.mpr ⟨hid ▸ hfound, howner, rfl, rfl⟩

/-- A stored attempt with an id that is kept for the run is an attempt of its tasks. -/
theorem Stands.attempt_of_kept {world : World} (hstands : scene.Stands record world)
    {attemptId : TaskAttemptId} (hkept : scene.attemptIds attemptId)
    (hstored : world.store.taskAttempts.find? attemptId ≠ none) :
    ∃ task ∈ record.tasks, ∃ attempt ∈ task.attempts, attempt.attemptId = attemptId := by
  obtain ⟨attempt, hfound⟩ := Option.ne_none_iff_exists'.mp hstored
  have hmem := Table.mem_of_find? hfound
  obtain ⟨taskRun, hparent⟩ := Option.ne_none_iff_exists'.mp
    (hstands.consistent.referential.taskAttempts attempt hmem)
  have howner : taskRun.workflowRunId = scene.runId :=
    hstands.reserved.attemptIds attemptId hkept _
      (by simp [MemoryState.ownerOf, hfound, hparent])
  have hid := Table.key_of_find? hparent
  refine ⟨world.store.taskRecord taskRun, ?_, attempt, ?_, Table.key_of_find? hfound⟩
  · rw [← hstands.record]
    exact MemoryState.mem_tasksOf.mpr ⟨hid ▸ hparent, howner, rfl, rfl⟩
  · exact List.mem_filter.mpr ⟨hmem, decide_eq_true hid.symm⟩

section Clock

theorem ensures_now {post : Except PyError DateTime → RunRecord → Prop}
    (hok : ∀ at_, scene.answers record .now (some at_) → post (.ok at_) record)
    (hnaive : scene.answers record .now none → ∀ error, Harmless error →
      post (.error error) record) :
    scene.Ensures now record post := by
  unfold now
  have hasked : scene.Ensures (Program.ask Service.now) record
      (Ends (fun answer last => last = record ∧ scene.answers record .now answer)
        fun _ _ => False) :=
    ensures_ask (by simp) fun answer hanswer _ => ⟨rfl, hanswer⟩
  refine hasked.bind ?_ fun _ _ => False.elim
  rintro answer last ⟨rfl, hanswer⟩
  cases answer with
  | some at_ => exact ensures_pure (hok at_ hanswer)
  | none =>
      exact ensures_raise (hnaive hanswer _ (by simp [Harmless, PyError.errorClass]))

end Clock

section Queries

theorem ensures_getWorkflowRun {current : WorkflowRun}
    {post : Except PyError WorkflowRun → RunRecord → Prop} (hrun : record.run = some current)
    (hpost : post (.ok current) record) :
    scene.Ensures (onStore (Memory.getWorkflowRun scene.runId)) record post :=
  ensures_read fun _ hstands =>
    ⟨_, Memory.run_getWorkflowRun (hstands.runRow.trans hrun), hpost⟩

theorem ensures_getTaskRun {post : Except PyError TaskRun → RunRecord → Prop}
    (htask : task ∈ record.tasks) (hpost : post (.ok task.taskRun) record) :
    scene.Ensures (onStore (Memory.getTaskRun task.taskRun.taskRunId)) record post :=
  ensures_read fun _ hstands => ⟨_, Memory.run_getTaskRun (hstands.taskRow htask).1, hpost⟩

theorem ensures_getTaskAttempt {attempt : TaskAttempt}
    {post : Except PyError TaskAttempt → RunRecord → Prop} (htask : task ∈ record.tasks)
    (hattempt : attempt ∈ task.attempts) (hpost : post (.ok attempt) record) :
    scene.Ensures (onStore (Memory.getTaskAttempt attempt.attemptId)) record post :=
  ensures_read fun _ hstands =>
    ⟨_, Memory.run_getTaskAttempt (hstands.attemptRow htask hattempt).1, hpost⟩

/-- `list_task_runs` lists the tasks of the record in some order. -/
theorem ensures_listTaskRuns {post : Except PyError (List TaskRun) → RunRecord → Prop}
    (hpost : ∀ taskRuns : List TaskRun,
      taskRuns.Perm (record.tasks.map TaskRecord.taskRun) → post (.ok taskRuns) record) :
    scene.Ensures (query fun store => store.listTaskRuns scene.runId) record post := by
  apply ensures_query
  intro world hstands
  apply hpost
  rw [MemoryState.listTaskRuns_eq, ← hstands.record]
  exact sortBy_perm _ _

/-- `list_task_attempts` lists the attempts in the order they were appended. -/
theorem ensures_listTaskAttempts
    {post : Except PyError (List TaskAttempt) → RunRecord → Prop}
    (htask : task ∈ record.tasks) (hpost : post (.ok task.attempts) record) :
    scene.Ensures (query fun store => store.listTaskAttempts task.taskRun.taskRunId)
      record post := by
  apply ensures_query
  intro world hstands
  have hsorted : world.store.listTaskAttempts task.taskRun.taskRunId = task.attempts := by
    rw [(hstands.taskRow htask).2.2.1]
    apply sortBy_eq_self
    have hnumbers := hstands.consistent.numbered task.taskRun.taskRunId
    rw [← List.pairwise_map, hnumbers, List.pairwise_map]
    exact List.pairwise_lt_range.imp fun hlt => by omega
  rw [hsorted]
  exact hpost

/-- The references of an attempt are appended to by its own procedure only. -/
theorem ensures_appendRefs {attempt : TaskAttempt} {bad : PyError → RunRecord → Prop}
    (htask : task ∈ record.tasks) (hattempt : attempt ∈ task.attempts)
    (hbad : ∀ error, Harmless error → ¬ scene.attemptIds attempt.attemptId →
      bad error record)
    (externalRefs : List ExternalRunRef) (existing : List (Text × Text × Text)) (world : World)
    (hstands : scene.Stands record world)
    (hexisting : scene.attemptIds attempt.attemptId →
      ∀ ref ∈ world.store.listExternalRunRefs attempt.attemptId,
        (ref.provider, ref.kind, ref.externalRunId) ∈ existing) :
    (appendRefs attempt.attemptId externalRefs existing).Meets scene.contract
      (fun result after => ∃ last, scene.Stands last after ∧
        Ends (fun _ last => last = record) bad result last) world := by
  induction externalRefs generalizing existing world with
  | nil => exact ⟨record, hstands, rfl⟩
  | cons externalRef rest ih =>
      unfold appendRefs
      simp only
      split
      · exact ih existing world hstands hexisting
      · next hnew =>
        rw [meets_bind]
        change (atomic _ : Procedure Unit).Meets scene.contract _ world
        rw [meets_atomic]
        intro drifted hdrift
        obtain ⟨next, hnext, hstands'⟩ := hstands.drift hdrift
        obtain rfl : next = record := hnext
        have hparent : drifted.store.taskAttempts.find? attempt.attemptId ≠ none := by
          rw [(hstands'.attemptRow htask hattempt).1]
          simp
        by_cases habsent : drifted.store.externalRefs.find?
            (externalRefKey (attempt.attemptId, externalRef)) = none
        · have hrun : (Memory.appendExternalRunRef attempt.attemptId externalRef).run
              drifted.store =
              (.ok (), drifted.store.addExternalRef attempt.attemptId externalRef) := by
            unfold Memory.appendExternalRunRef
            rw [Action.run_bind_of_ok (Action.run_get _),
              Action.run_bind_of_ok (Action.run_require_of hparent _ _),
              Action.run_bind_of_ok (Action.run_require_of habsent _ _)]
            rfl
          have hwrite : MemoryState.RunWrite drifted.store scene.runId
              (drifted.store.addExternalRef attempt.attemptId externalRef) :=
            .externalRefAppended hparent
          simp only [hrun]
          refine ⟨⟨hstands'.consistent.write hwrite.write, Or.inl rfl, fun _ _ => rfl⟩,
            ih _ _ ⟨hstands'.consistent.write hwrite.write, hstands'.record,
              hstands'.archives, hstands'.reserved.write hwrite⟩ ?_⟩
          intro hkept ref href
          rcases (MemoryState.mem_listExternalRunRefs_add habsent).mp href with hold | rfl
          · rw [hdrift.externalRefs _ hkept] at hold
            exact List.mem_cons_of_mem _ (hexisting hkept ref hold)
          · exact List.mem_cons_self
        · obtain ⟨error, hrun, hharmless⟩ : ∃ error,
              (Memory.appendExternalRunRef attempt.attemptId externalRef).run
                drifted.store = (.error error, drifted.store) ∧ Harmless error := by
            refine ⟨_, (Action.run_bind_of_ok (Action.run_get _) _).trans
              ((Action.run_bind_of_ok (Action.run_require_of hparent _ _) _).trans
                (Action.run_bind_of_error (Action.run_require_of_not habsent _ _) _)), ?_⟩
            simp [Harmless, PyError.errorClass]
          simp only [hrun]
          refine ⟨⟨hstands'.consistent, Or.inl rfl, fun _ _ => rfl⟩, next, hstands',
            hbad error hharmless fun hkept => ?_⟩
          obtain ⟨stored, hstored, hkey⟩ :=
            MemoryState.exists_mem_listExternalRunRefs habsent
          rw [hdrift.externalRefs _ hkept] at hstored
          apply hnew
          rw [← hkey]
          exact hexisting hkept stored hstored

/-- References of an attempt are not part of the record. -/
theorem ensures_appendExternalRunRefs {attempt : TaskAttempt}
    {bad : PyError → RunRecord → Prop} (htask : task ∈ record.tasks)
    (hattempt : attempt ∈ task.attempts)
    (hbad : ∀ error, Harmless error → ¬ scene.attemptIds attempt.attemptId →
      bad error record)
    (externalRefs : List ExternalRunRef) :
    scene.Ensures (appendExternalRunRefs attempt.attemptId externalRefs) record
      (Ends (fun _ last => last = record) bad) := by
  unfold appendExternalRunRefs
  intro world hstands
  rw [meets_bind]
  change (atomic _ : Procedure _).Meets scene.contract _ world
  rw [meets_atomic]
  intro drifted hdrift
  obtain ⟨next, hnext, hstands'⟩ := hstands.drift hdrift
  obtain rfl : next = record := hnext
  refine ⟨⟨hstands'.consistent, Or.inl rfl, fun _ _ => rfl⟩, ?_⟩
  apply ensures_appendRefs htask hattempt hbad externalRefs _ _ hstands'
  exact fun _ ref href => List.mem_map_of_mem href

end Queries

section Transitions

/-- A transition at the time of the clock and the write of its result. -/
theorem ensures_stamped {transition : DateTime → Except PyError α}
    {write : DateTime → α → MemoryAction Unit} (last : α → RunRecord)
    {post : Except PyError α → RunRecord → Prop}
    {rejected : Prop}
    (hrejects : ∀ at_ error, transition at_ = .error error → Harmless error ∧ rejected)
    (hwrites : ∀ at_ next world, transition at_ = .ok next → scene.Stands record world →
      ∃ after, (write at_ next).run world.store = (.ok (), after) ∧
        MemoryState.RunWrite world.store scene.runId after ∧
        ({ world with store := after } : World).record scene.runId = last next)
    (hok : ∀ at_ next, transition at_ = .ok next → (last next).Sound scene.runId →
      scene.keeps record (last next) ∧ post (.ok next) (last next))
    (herror : ∀ error, Harmless error → ¬ scene.Orderly ∨ rejected →
      post (.error error) record) :
    scene.Ensures (do
      let at_ ← now
      let next ← .ofExcept (transition at_)
      onStore (write at_ next)
      pure next) record post := by
  have hclock : scene.Ensures now record (Ends (fun _ after => after = record)
      fun error after => Harmless error ∧ ¬ scene.Orderly ∧ after = record) :=
    ensures_now (fun _ _ => rfl) fun hnone _ hharmless =>
      ⟨hharmless, fun horderly => horderly.clock _ hnone, rfl⟩
  refine hclock.bind ?_ ?_
  · rintro at_ after rfl
    cases hnext : transition at_ with
    | error error =>
        obtain ⟨hharmless, hrejected⟩ := hrejects at_ error hnext
        exact ensures_done (herror error hharmless (Or.inr hrejected))
    | ok next =>
        have hstored : scene.Ensures (onStore (write at_ next)) after
            (Ends (fun _ after => post (.ok next) after) fun _ _ => False) := by
          apply ensures_onStore
          intro world hstands
          obtain ⟨stored, hrun, hwrite, hlast⟩ := hwrites at_ next world hnext hstands
          exact ⟨_, stored, last next, hrun, Or.inr ⟨hwrite, hlast, fun hsound =>
            Or.inr (hok at_ next hnext hsound).1⟩, fun hsound => (hok at_ next hnext hsound).2⟩
        exact hstored.bind (fun _ after hpost => ensures_pure hpost) fun _ _ => False.elim
  · rintro error after ⟨hharmless, hnaive, rfl⟩
    exact herror error hharmless (Or.inl hnaive)

/-- The row of the run takes a transition of the table. -/
theorem ensures_transitionWorkflow {current : WorkflowRun} {target : WorkflowRunStatus}
    {failure : Option FailureEvidence} {post : Except PyError WorkflowRun → RunRecord → Prop}
    (hok : ∀ (at_ : DateTime) (next : WorkflowRun),
      current.transition target at_.instant failure = .ok next →
      (⟨some next, tasks, executions⟩ : RunRecord).Sound scene.runId →
      scene.keeps ⟨some current, tasks, executions⟩ ⟨some next, tasks, executions⟩ ∧
        post (.ok next) ⟨some next, tasks, executions⟩)
    (herror : ∀ error, Harmless error →
      ¬ scene.Orderly ∨ target ∉ workflowTransitions current.status →
      post (.error error) ⟨some current, tasks, executions⟩) :
    scene.Ensures (transitionWorkflow current target failure)
      ⟨some current, tasks, executions⟩ post := by
  refine ensures_stamped (fun next => ⟨some next, tasks, executions⟩)
    (fun at_ error hfails => ⟨harmless_of_stateMachine
      (WorkflowRun.transition_eq_error hfails).2,
      (WorkflowRun.transition_eq_error hfails).1⟩) ?_ hok herror
  intro at_ next world hnext hstands
  obtain ⟨-, -, -, hidentity, -⟩ := WorkflowRun.of_transition hnext
  have hid : current.runId = scene.runId := hstands.sound.run current rfl
  have hfound : world.store.workflowRuns.find? next.runId = some current := by
    rw [← hidentity.1, hid]
    exact hstands.runRow
  refine ⟨_, Memory.run_updateWorkflowRun hfound hidentity,
    .workflowRunUpdated at_.instant hfound hidentity (hidentity.1.symm.trans hid), ?_⟩
  have hrecord := hstands.record
  unfold World.record at hrecord ⊢
  simp only [RunRecord.mk.injEq] at hrecord ⊢
  refine ⟨?_, by simpa using hrecord.2.1, hrecord.2.2⟩
  rw [MemoryState.workflowRuns_afterWorkflowRun, ← hid, hidentity.1]
  exact Table.find?_set_self _ _

/-- One task run of the record takes a transition of the table. -/
theorem ensures_transitionTask {target : TaskRunStatus} {skipReason : Option SkipReason}
    {failure : Option FailureEvidence} {post : Except PyError TaskRun → RunRecord → Prop}
    (hskip : skipReason.isSome = true ↔ target = .skipped) (hblock : target ≠ .blocked)
    (hok : ∀ (at_ : DateTime) (next : TaskRun),
      task.taskRun.transition target at_.instant skipReason none failure = .ok next →
      (⟨run, done ++ { task with taskRun := next } :: todo, executions⟩ :
        RunRecord).Sound scene.runId →
      scene.keeps ⟨run, done ++ task :: todo, executions⟩
          ⟨run, done ++ { task with taskRun := next } :: todo, executions⟩ ∧
        post (.ok next) ⟨run, done ++ { task with taskRun := next } :: todo, executions⟩)
    (herror : ∀ error, Harmless error →
      ¬ scene.Orderly ∨ target ∉ taskRunTransitions task.taskRun.status →
      post (.error error) ⟨run, done ++ task :: todo, executions⟩) :
    scene.Ensures (transitionTask task.taskRun target skipReason failure)
      ⟨run, done ++ task :: todo, executions⟩ post := by
  refine ensures_stamped (fun next =>
    ⟨run, done ++ { task with taskRun := next } :: todo, executions⟩)
    (fun at_ error hfails => ⟨harmless_of_stateMachine
      (TaskRun.transition_eq_error hskip (by simpa using hblock) hfails).2,
      (TaskRun.transition_eq_error hskip (by simpa using hblock) hfails).1⟩) ?_ hok herror
  intro at_ next world hnext hstands
  obtain ⟨-, -, -, hidentity, -⟩ := TaskRun.of_transition hnext
  have htask : task ∈ done ++ task :: todo := by simp
  obtain ⟨hrow, howner, -, -⟩ := hstands.taskRow htask
  have hfound : world.store.taskRuns.find? next.taskRunId = some task.taskRun := by
    rw [← hidentity.1]
    exact hrow
  refine ⟨_, Memory.run_updateTaskRun hfound hidentity,
    .taskRunUpdated at_.instant hfound hidentity howner, ?_⟩
  have hrecord := hstands.record
  unfold World.record at hrecord ⊢
  simp only [RunRecord.mk.injEq] at hrecord ⊢
  refine ⟨by simpa using hrecord.1, ?_, hrecord.2.2⟩
  rw [MemoryState.tasksOf_afterTaskRun _ at_.instant hfound hidentity, hrecord.2.1,
    ← hidentity.1]
  exact hstands.sound.modifyTask fun task => { task with taskRun := next }

/-- The last attempt of one task of the record takes a transition of the table. -/
theorem ensures_transitionAttempt {target : TaskAttemptStatus}
    {failure : Option FailureEvidence} {post : Except PyError TaskAttempt → RunRecord → Prop}
    {prior : List TaskAttempt} {attempt : TaskAttempt}
    (hattempts : task.attempts = prior ++ [attempt])
    (hok : ∀ (at_ : DateTime) (next : TaskAttempt),
      attempt.transition target at_.instant failure = .ok next →
      (⟨run, done ++ { task with attempts := prior ++ [next] } :: todo, executions⟩ :
        RunRecord).Sound scene.runId →
      scene.keeps ⟨run, done ++ task :: todo, executions⟩
          ⟨run, done ++ { task with attempts := prior ++ [next] } :: todo, executions⟩ ∧
        post (.ok next)
          ⟨run, done ++ { task with attempts := prior ++ [next] } :: todo, executions⟩)
    (herror : ∀ error, Harmless error →
      ¬ scene.Orderly ∨ target ∉ taskAttemptTransitions attempt.status →
      post (.error error) ⟨run, done ++ task :: todo, executions⟩) :
    scene.Ensures (transitionAttempt attempt target failure)
      ⟨run, done ++ task :: todo, executions⟩ post := by
  refine ensures_stamped (fun next =>
    ⟨run, done ++ { task with attempts := prior ++ [next] } :: todo, executions⟩)
    (fun at_ error hfails => ⟨harmless_of_stateMachine
      (TaskAttempt.transition_eq_error hfails).2,
      (TaskAttempt.transition_eq_error hfails).1⟩) ?_ hok herror
  intro at_ next world hnext hstands
  obtain ⟨-, -, -, hidentity⟩ := TaskAttempt.of_transition hnext
  have htask : task ∈ done ++ task :: todo := by simp
  have hmem : attempt ∈ task.attempts := by simp [hattempts]
  obtain ⟨hrow, howner⟩ := hstands.attemptRow htask hmem
  obtain ⟨htaskRow, htaskOwner, -, -⟩ := hstands.taskRow htask
  have hfound : world.store.taskAttempts.find? next.attemptId = some attempt := by
    rw [← hidentity.1]
    exact hrow
  have hparent : world.store.taskRuns.find? next.taskRunId = some task.taskRun := by
    rw [← hidentity.2.1, howner]
    exact htaskRow
  refine ⟨_, Memory.run_updateTaskAttempt hfound hidentity,
    .taskAttemptUpdated at_.instant hfound hidentity hparent htaskOwner, ?_⟩
  have hrecord := hstands.record
  unfold World.record at hrecord ⊢
  simp only [RunRecord.mk.injEq] at hrecord ⊢
  refine ⟨by simpa using hrecord.1, ?_, hrecord.2.2⟩
  rw [MemoryState.tasksOf_afterTaskAttempt _ at_.instant hfound hidentity, hrecord.2.1,
    ← hidentity.2.1, howner, hstands.sound.modifyTask, hattempts,
    replaceAttempt_last hidentity.1 (hstands.sound.earlier hattempts)]

end Transitions

section Creations

/-- A new run is recorded, unless its id is taken. -/
theorem ensures_createWorkflowRun {created : WorkflowRun}
    {post : Except PyError Unit → RunRecord → Prop} (hid : created.runId = scene.runId)
    (hpending : created.status = .pending)
    (hok : record.run = none →
      (⟨some created, record.tasks, record.executions⟩ : RunRecord).Sound scene.runId →
      scene.keeps record ⟨some created, record.tasks, record.executions⟩ ∧
        post (.ok ()) ⟨some created, record.tasks, record.executions⟩)
    (herror : ∀ error, Harmless error → record.run ≠ none → post (.error error) record) :
    scene.Ensures (onStore (Memory.createWorkflowRun created)) record post := by
  apply ensures_onStore
  intro world hstands
  have hrow : world.store.workflowRuns.find? created.runId = record.run := by
    rw [hid]
    exact hstands.runRow
  by_cases habsent : record.run = none
  · rw [habsent] at hrow
    refine ⟨.ok (), world.store.addWorkflowRun created,
      ⟨some created, record.tasks, record.executions⟩, ?_,
      Or.inr ⟨.workflowRunCreated hpending hrow hid, ?_, fun hsound =>
        Or.inr (hok habsent hsound).1⟩, fun hsound => (hok habsent hsound).2⟩
    · unfold Memory.createWorkflowRun
      rw [Action.run_bind_of_ok (Action.run_require_of hpending _ _),
        Action.run_bind_of_ok (Action.run_get _),
        Action.run_bind_of_ok (Action.run_require_of hrow _ _)]
      rfl
    · rw [← hstands.record]
      unfold World.record
      simp only [RunRecord.mk.injEq, MemoryState.tasksOf_addWorkflowRun, and_true]
      rw [← hid]
      exact Table.find?_set_self _ _
  · refine ⟨.error (.duplicateMetadata "WorkflowRun" created.runId.str), world.store, record,
      ?_, Or.inl ⟨rfl, rfl⟩,
      fun _ => herror _ (by simp [Harmless, PyError.errorClass]) habsent⟩
    rw [← hrow] at habsent
    unfold Memory.createWorkflowRun
    rw [Action.run_bind_of_ok (Action.run_require_of hpending _ _),
      Action.run_bind_of_ok (Action.run_get _),
      Action.run_bind_of_error (Action.run_require_of_not habsent _ _)]

/-- A new task run is recorded after the others, unless its id is taken. -/
theorem ensures_createTask {current : WorkflowRun} {createdAt : Instant}
    {entry : Planning.TaskPlanEntry} {post : Except PyError TaskRun → RunRecord → Prop}
    (hok : ∀ taskRunId, let taskRun := TaskRun.new taskRunId scene.runId entry.key createdAt
      (⟨some current, tasks ++ [⟨taskRun, [], none⟩], executions⟩ :
        RunRecord).Sound scene.runId →
      scene.keeps ⟨some current, tasks, executions⟩
          ⟨some current, tasks ++ [⟨taskRun, [], none⟩], executions⟩ ∧
        post (.ok taskRun) ⟨some current, tasks ++ [⟨taskRun, [], none⟩], executions⟩)
    (herror : ∀ error, Harmless error → ¬ scene.Orderly →
      post (.error error) ⟨some current, tasks, executions⟩) :
    scene.Ensures (createTask scene.runId createdAt entry) ⟨some current, tasks, executions⟩
      post := by
  unfold createTask
  have hasked : scene.Ensures (Program.ask Service.newTaskRunId)
      ⟨some current, tasks, executions⟩
      (Ends (fun taskRunId last => last = ⟨some current, tasks, executions⟩ ∧
        scene.answers ⟨some current, tasks, executions⟩ .newTaskRunId taskRunId)
        fun _ _ => False) :=
    ensures_ask (by simp) fun _ hanswer _ => ⟨rfl, hanswer⟩
  refine hasked.bind ?_ fun _ _ => False.elim
  rintro taskRunId last ⟨rfl, hanswer⟩
  have hstored : scene.Ensures
      (onStore (Memory.createTaskRun
        (TaskRun.new taskRunId scene.runId entry.key createdAt)))
      ⟨some current, tasks, executions⟩
      (Ends (fun _ => post (.ok (TaskRun.new taskRunId scene.runId entry.key createdAt)))
        fun error => post (.error error)) := by
    apply ensures_onStore
    intro world hstands
    have hpending : (TaskRun.new taskRunId scene.runId entry.key createdAt).status =
        .pending := rfl
    have hparent : world.store.workflowRuns.find?
        (TaskRun.new taskRunId scene.runId entry.key createdAt).workflowRunId ≠ none := by
      change world.store.workflowRuns.find? scene.runId ≠ none
      rw [hstands.runRow]
      simp
    by_cases habsent : world.store.taskRuns.find?
        (TaskRun.new taskRunId scene.runId entry.key createdAt).taskRunId = none
    · refine ⟨.ok (), world.store.addTaskRun
        (TaskRun.new taskRunId scene.runId entry.key createdAt), _, ?_,
        Or.inr ⟨.taskRunCreated hpending habsent hparent rfl, ?_, fun hsound =>
          Or.inr (hok taskRunId hsound).1⟩, fun hsound => (hok taskRunId hsound).2⟩
      · unfold Memory.createTaskRun
        rw [Action.run_bind_of_ok (Action.run_require_of hpending _ _),
          Action.run_bind_of_ok (Action.run_get _),
          Action.run_bind_of_ok (Action.run_require_of habsent _ _),
          Action.run_bind_of_ok (Action.run_require_of hparent _ _)]
        rfl
      · have hrecord := hstands.record
        unfold World.record at hrecord ⊢
        simp only [RunRecord.mk.injEq] at hrecord ⊢
        refine ⟨hrecord.1, ?_, hrecord.2.2⟩
        rw [MemoryState.tasksOf_addTaskRun _ hstands.consistent.referential habsent,
          hrecord.2.1]
        exact if_pos rfl
    · have hnaive : ¬ scene.Orderly := by
        intro horderly
        obtain ⟨hkept, hnew⟩ := horderly.taskIds _ _ hanswer
        obtain ⟨task, htask, hid⟩ := hstands.task_of_kept hkept habsent
        exact hnew task htask hid
      refine ⟨.error (.duplicateMetadata "TaskRun" taskRunId.str), world.store, _, ?_,
        Or.inl ⟨rfl, rfl⟩,
        fun _ => herror _ (by simp [Harmless, PyError.errorClass]) hnaive⟩
      unfold Memory.createTaskRun
      rw [Action.run_bind_of_ok (Action.run_require_of hpending _ _),
        Action.run_bind_of_ok (Action.run_get _),
        Action.run_bind_of_error (Action.run_require_of_not habsent _ _)]
      rfl
  exact hstored.bind (fun _ last hpost => ensures_pure hpost) fun _ _ herror => herror

/-- A new attempt is recorded after the others of its task, unless its id is taken. -/
theorem ensures_appendTaskAttempt {attempt : TaskAttempt}
    {post : Except PyError Unit → RunRecord → Prop} (hpending : attempt.status = .pending)
    (howner : attempt.taskRunId = task.taskRun.taskRunId)
    (hnumber : attempt.attemptNumber = task.attempts.length + 1)
    (hok : (⟨run, done ++ { task with attempts := task.attempts ++ [attempt] } :: todo,
        executions⟩ : RunRecord).Sound scene.runId →
      scene.keeps ⟨run, done ++ task :: todo, executions⟩
          ⟨run, done ++ { task with attempts := task.attempts ++ [attempt] } :: todo,
            executions⟩ ∧
        post (.ok ())
          ⟨run, done ++ { task with attempts := task.attempts ++ [attempt] } :: todo,
            executions⟩)
    (herror : ∀ error, Harmless error →
      (scene.attemptIds attempt.attemptId → ∃ owner ∈ done ++ task :: todo,
        ∃ other ∈ owner.attempts, other.attemptId = attempt.attemptId) →
      post (.error error) ⟨run, done ++ task :: todo, executions⟩) :
    scene.Ensures (onStore (Memory.appendTaskAttempt attempt))
      ⟨run, done ++ task :: todo, executions⟩ post := by
  apply ensures_onStore
  intro world hstands
  have htask : task ∈ done ++ task :: todo := by simp
  obtain ⟨hrow, htaskOwner, hattempts, -⟩ := hstands.taskRow htask
  have hparent : world.store.taskRuns.find? attempt.taskRunId = some task.taskRun := by
    rw [howner]
    exact hrow
  have hnumber' : attempt.attemptNumber =
      ((world.store.attemptsOf attempt.taskRunId).length : Int) + 1 := by
    rw [hnumber, howner, hattempts]
  by_cases habsent : world.store.taskAttempts.find? attempt.attemptId = none
  · refine ⟨.ok (), world.store.addTaskAttempt attempt, _, ?_,
      Or.inr ⟨.taskAttemptAppended hpending habsent hparent hnumber' htaskOwner, ?_,
        fun hsound => Or.inr (hok hsound).1⟩, fun hsound => (hok hsound).2⟩
    · have hstored : world.store.taskRuns.find? attempt.taskRunId ≠ none := by
        rw [hparent]
        simp
      unfold Memory.appendTaskAttempt
      rw [Action.run_bind_of_ok (Action.run_require_of hpending _ _),
        Action.run_bind_of_ok (Action.run_get _),
        Action.run_bind_of_ok (Action.run_require_of habsent _ _),
        Action.run_bind_of_ok (Action.run_require_of hstored _ _),
        Action.run_bind_of_ok (Action.run_require_of hnumber' _ _)]
      rfl
    · have hrecord := hstands.record
      unfold World.record at hrecord ⊢
      simp only [RunRecord.mk.injEq] at hrecord ⊢
      refine ⟨hrecord.1, ?_, hrecord.2.2⟩
      rw [MemoryState.tasksOf_addTaskAttempt _ habsent, hrecord.2.1, howner]
      exact hstands.sound.modifyTask fun task =>
        { task with attempts := task.attempts ++ [attempt] }
  · refine ⟨.error (.duplicateMetadata "TaskAttempt" attempt.attemptId.str), world.store, _,
      ?_, Or.inl ⟨rfl, rfl⟩, fun _ => herror _ (by simp [Harmless, PyError.errorClass])
        fun hkept => hstands.attempt_of_kept hkept habsent⟩
    unfold Memory.appendTaskAttempt
    rw [Action.run_bind_of_ok (Action.run_require_of hpending _ _),
      Action.run_bind_of_ok (Action.run_get _),
      Action.run_bind_of_error (Action.run_require_of_not habsent _ _)]

/-- The checkpoint of a task that has an output is recorded. -/
theorem ensures_setTaskOutputCheckpoint {checkpoint : TaskOutputCheckpoint}
    {post : Except PyError Unit → RunRecord → Prop}
    (howner : checkpoint.taskRunId = task.taskRun.taskRunId)
    (hstatus : task.taskRun.status = .succeeded ∨ task.taskRun.status = .reused)
    (hnone : task.checkpoint = none)
    (hok : (⟨run, done ++ { task with checkpoint := some checkpoint } :: todo,
        executions⟩ : RunRecord).Sound scene.runId →
      scene.keeps ⟨run, done ++ task :: todo, executions⟩
          ⟨run, done ++ { task with checkpoint := some checkpoint } :: todo, executions⟩ ∧
        post (.ok ())
          ⟨run, done ++ { task with checkpoint := some checkpoint } :: todo, executions⟩) :
    scene.Ensures (onStore (Memory.setTaskOutputCheckpoint checkpoint))
      ⟨run, done ++ task :: todo, executions⟩ post := by
  apply ensures_onStore
  intro world hstands
  have htask : task ∈ done ++ task :: todo := by simp
  obtain ⟨hrow, htaskOwner, -, hcheckpoint⟩ := hstands.taskRow htask
  have hparent : world.store.taskRuns.find? checkpoint.taskRunId = some task.taskRun := by
    rw [howner]
    exact hrow
  have hsame : ∀ existing ∈ world.store.outputCheckpoints.find? checkpoint.taskRunId,
      existing = checkpoint := by
    rw [howner, ← hcheckpoint, hnone]
    simp
  refine ⟨.ok (), world.store.addCheckpoint checkpoint, _, ?_,
    Or.inr ⟨.checkpointSet hparent hstatus hsame htaskOwner, ?_,
      fun hsound => Or.inr (hok hsound).1⟩, fun hsound => (hok hsound).2⟩
  · unfold Memory.setTaskOutputCheckpoint
    rw [Action.run_bind_of_ok (Memory.run_getTaskRun hparent),
      Action.run_bind_of_ok (Action.run_require_of hstatus _ _),
      Action.run_bind_of_ok (Action.run_get _),
      Action.run_bind_of_ok (Action.run_require_of hsame _ _)]
    rfl
  · have hrecord := hstands.record
    unfold World.record at hrecord ⊢
    simp only [RunRecord.mk.injEq] at hrecord ⊢
    refine ⟨hrecord.1, ?_, hrecord.2.2⟩
    rw [MemoryState.tasksOf_addCheckpoint, hrecord.2.1, howner]
    exact hstands.sound.modifyTask fun task => { task with checkpoint := some checkpoint }

end Creations

theorem ensures_buildResult {current : WorkflowRun} {outputs : Outputs}
    {diagnostics : List Diagnostic} {bad : PyError → RunRecord → Prop}
    (hbad : ∀ error, Harmless error →
      ¬ (current.status.isTerminal = true ∨ current.status = .unknownOutcome) ∨
        ¬ (tasks.map fun task => task.taskRun.taskKey).Nodup →
      bad error ⟨some current, tasks, executions⟩) :
    scene.Ensures (buildResult scene.runId outputs diagnostics)
      ⟨some current, tasks, executions⟩
      (Ends (fun result last => last = ⟨some current, tasks, executions⟩ ∧
        Reports current tasks outputs result) bad) := by
  apply ensures_of_sound
  intro hsound
  unfold buildResult
  have hgot : scene.Ensures (onStore (Memory.getWorkflowRun scene.runId))
      ⟨some current, tasks, executions⟩
      (Ends (fun run last => run = current ∧ last = ⟨some current, tasks, executions⟩)
        fun _ _ => False) := ensures_getWorkflowRun rfl ⟨rfl, rfl⟩
  refine hgot.bind ?_ fun _ _ => False.elim
  rintro run last ⟨rfl, rfl⟩
  have hlisted : scene.Ensures (query fun store => store.listTaskRuns scene.runId)
      ⟨some run, tasks, executions⟩
      (Ends (fun taskRuns last => last = ⟨some run, tasks, executions⟩ ∧
        taskRuns.Perm (tasks.map TaskRecord.taskRun)) fun _ _ => False) :=
    ensures_listTaskRuns fun _ hperm => ⟨rfl, hperm⟩
  refine hlisted.bind ?_ fun _ _ => False.elim
  rintro taskRuns last ⟨rfl, hperm⟩
  have hcollected : scene.Ensures (Program.mapEach taskRuns fun taskRun => do
      let attempts ← query fun store => store.listTaskAttempts taskRun.taskRunId
      pure {
        taskKey := taskRun.taskKey
        taskRunId := taskRun.taskRunId
        status := taskRun.status
        attemptIds := attempts.map TaskAttempt.attemptId
        output := ((outputs.find? taskRun.taskKey).map Prod.snd).getD .none
        failure := taskRun.failure })
      ⟨some run, tasks, executions⟩
      (Ends (fun outcomes last => last = ⟨some run, tasks, executions⟩ ∧
        outcomes.map TaskOutcome.taskKey = taskRuns.map TaskRun.taskKey ∧
        ∀ outcome, outcome ∈ outcomes ↔ ∃ task ∈ tasks, task.taskRun ∈ taskRuns ∧
          outcome = taskOutcome outputs task) fun _ _ => False) := by
    apply ensures_mapEach (fun handled outcomes last =>
      last = ⟨some run, tasks, executions⟩ ∧
      outcomes.map TaskOutcome.taskKey = handled.map TaskRun.taskKey ∧
      ∀ outcome, outcome ∈ outcomes ↔
        ∃ task ∈ tasks, task.taskRun ∈ handled ∧ outcome = taskOutcome outputs task)
    · rintro handled taskRun rest outcomes last hsplit ⟨rfl, hkeys, houtcomes⟩
      have hmem : taskRun ∈ tasks.map TaskRecord.taskRun :=
        hperm.mem_iff.mp (by simp [hsplit])
      obtain ⟨task, htask, rfl⟩ := List.mem_map.mp hmem
      have hattempts : scene.Ensures
          (query fun store => store.listTaskAttempts task.taskRun.taskRunId)
          ⟨some run, tasks, executions⟩
          (Ends (fun attempts last => attempts = task.attempts ∧
            last = ⟨some run, tasks, executions⟩) fun _ _ => False) :=
        ensures_listTaskAttempts htask ⟨rfl, rfl⟩
      refine hattempts.bind ?_ fun _ _ => False.elim
      rintro attempts last ⟨rfl, rfl⟩
      apply ensures_pure
      refine ⟨rfl, by simp [hkeys], fun outcome => ?_⟩
      rw [List.mem_append, houtcomes, List.mem_singleton]
      constructor
      · rintro (⟨other, hother, hhandled, heq⟩ | heq)
        · exact ⟨other, hother, List.mem_append_left _ hhandled, heq⟩
        · exact ⟨task, htask, by simp, heq⟩
      · rintro ⟨other, hother, hhandled, heq⟩
        rcases List.mem_append.mp hhandled with hearlier | hthis
        · exact Or.inl ⟨other, hother, hearlier, heq⟩
        · right
          have hid : other.taskRun.taskRunId = task.taskRun.taskRunId := by
            rw [List.mem_singleton.mp hthis]
          rw [heq, hsound.unique hother htask hid]
          rfl
    · exact fun _ _ hend => hend
    · exact ⟨rfl, rfl, by simp⟩
  refine hcollected.bind ?_ fun _ _ => False.elim
  rintro outcomes last ⟨rfl, hkeys, houtcomes⟩
  have hkeysPerm : (outcomes.map TaskOutcome.taskKey).Perm
      (tasks.map fun task => task.taskRun.taskKey) := by
    rw [hkeys]
    refine (hperm.map TaskRun.taskKey).trans ?_
    rw [List.map_map]
    rfl
  apply ensures_ofExcept
  unfold WorkflowResult.new
  split
  · next hconcluded =>
    exact hbad _ (by simp [Harmless, PyError.errorClass]) (Or.inl hconcluded)
  split
  · next hdistinct =>
    rw [hkeysPerm.nodup_iff] at hdistinct
    exact hbad _ (by simp [Harmless, PyError.errorClass]) (Or.inr hdistinct)
  refine ⟨rfl, rfl, rfl, rfl, fun outcome => ?_⟩
  rw [houtcomes]
  apply exists_congr
  intro task
  apply and_congr_right
  intro htask
  exact and_iff_right (hperm.mem_iff.mpr (List.mem_map_of_mem htask))

end Scene

end PyWorkflowKit.Runtime
