import PyWorkflowKit.Runtime.PlanLoop

/-!
# How the execution of a plan ends

The tasks after a failed one are skipped, and the run and the result say how it ended.
-/

namespace PyWorkflowKit.Runtime

open PyWorkflowKit.Core PyWorkflowKit.Domain PyWorkflowKit.States
open PyWorkflowKit.Persistence PyWorkflowKit.Executors PyWorkflowKit.Planning
open PyWorkflowKit.Policies Program Scene

namespace Course

/-- A task after a failed one. -/
structure Swept (course : Course) (failedKey : Text) (entry : TaskPlanEntry)
    (task : TaskRecord) : Prop where
  key : task.taskRun.taskKey = entry.key
  attempts : task.attempts = []
  reused : entry.key ∈ course.classification.reusedKeys → course.Reused task
  skipped : entry.key ∉ course.classification.reusedKeys →
    task.taskRun.status = .skipped ∧ task.checkpoint = none ∧
      ((Relation.TransGen (DependsOn course.plan.tasks) failedKey entry.key ∧
          task.taskRun.skipReason = some .dependencyFailed) ∨
        (¬ Relation.TransGen (DependsOn course.plan.tasks) failedKey entry.key ∧
          task.taskRun.skipReason = some .failFastAbort))

/-- How the execution of the plan ends. -/
inductive Concluded (course : Course) : WorkflowResult → RunRecord → Prop
  | succeeded {result : WorkflowResult} {current : WorkflowRun} {tasks : List TaskRecord}
      {outputs : Outputs} {calls : Calls} (hstatus : current.status = .succeeded)
      (hwalked : course.Walked course.plan.tasks tasks outputs calls)
      (hreports : Reports current tasks outputs result) :
      Concluded course result ⟨some current, tasks, calls⟩
  | failed {result : WorkflowResult} {current : WorkflowRun}
      {before after : List TaskPlanEntry} {entry : TaskPlanEntry}
      {done swept : List TaskRecord} {task : TaskRecord} {outputs : Outputs}
      {earlier calls : Calls} {evidence : FailureEvidence}
      (hplan : course.plan.tasks = before ++ entry :: after)
      (hcomputed : entry.key ∉ course.classification.reusedKeys)
      (hwalked : course.Walked before done outputs earlier)
      (hfailed : course.Failed entry evidence task calls)
      (hswept : List.Forall₂ (course.Swept entry.key) after swept)
      (hstatus : current.status = workflowTerminalStatus evidence)
      (hfailure : current.failure = some evidence)
      (hreports : Reports current (done ++ task :: swept) outputs result) :
      Concluded course result ⟨some current, done ++ task :: swept, earlier ++ calls⟩
  | unknown {result : WorkflowResult} {current : WorkflowRun}
      {before after : List TaskPlanEntry} {entry : TaskPlanEntry}
      {done todo : List TaskRecord} {task : TaskRecord} {outputs : Outputs}
      {earlier calls : Calls}
      (hstage : course.Stage before entry after done todo outputs earlier)
      (hstatus : current.status = .unknownOutcome)
      (hkey : task.taskRun.taskKey = entry.key)
      (htask : task.taskRun.status = .unknownOutcome)
      (hlaunched : Launched task.attempts [] calls) (hunraised : Unraised calls)
      (hreports : Reports current (done ++ task :: todo) outputs result) :
      Concluded course result ⟨some current, done ++ task :: todo, earlier ++ calls⟩

variable {course : Course} {before after : List TaskPlanEntry} {entry : TaskPlanEntry}
  {done todo : List TaskRecord} {outputs : Outputs} {earlier calls : Calls}
  {run : WorkflowRun} {task failed : TaskRecord} {correlation : CorrelationContext}

section FailFast

/-- The position of an entry tells which entries follow it. -/
theorem positions_split (hplan : course.plan.tasks = before ++ entry :: after) :
    (∀ other ∈ before, other.position ≤ entry.position) ∧
      ∀ other ∈ after, entry.position < other.position := by
  have hordered : (course.plan.tasks.map TaskPlanEntry.position).Pairwise (· < ·) := by
    rw [course.plan.contiguous]
    exact List.pairwise_lt_range
  rw [hplan, List.map_append, List.map_cons, List.pairwise_append,
    List.pairwise_cons] at hordered
  constructor
  · intro other hother
    exact (hordered.2.2 _ (List.mem_map_of_mem hother) _ List.mem_cons_self).le
  · intro other hother
    exact hordered.2.1.1 _ (List.mem_map_of_mem hother)

theorem Swept.planned {failedKey : Text} (hswept : course.Swept failedKey entry task)
    (hentry : entry ∈ course.plan.tasks) : course.Planned true task := by
  refine ⟨⟨entry, hentry, hswept.key, ?_⟩, fun _ => hswept.attempts, fun hkey _ => ?_⟩
  · rw [hswept.attempts]
    exact disciplined_nil _
  · rw [hswept.key] at hkey
    exact hswept.reused hkey

theorem ahead_of_swept {failedKey : Text} {entries : List TaskPlanEntry}
    {tasks : List TaskRecord} (hswept : List.Forall₂ (course.Swept failedKey) entries tasks)
    (hentries : ∀ entry ∈ entries, entry ∈ course.plan.tasks) : course.Ahead tasks := by
  constructor
  · intro task htask
    obtain ⟨entry, hentry, hthis⟩ := exists_of_forall₂_right hswept htask
    exact hthis.planned (hentries entry hentry)
  · intro task htask
    obtain ⟨entry, -, hthis⟩ := exists_of_forall₂_right hswept htask
    exact hthis.attempts

theorem keys_of_swept {failedKey : Text} {entries : List TaskPlanEntry}
    {tasks : List TaskRecord} (hswept : List.Forall₂ (course.Swept failedKey) entries tasks) :
    tasks.map (fun task => task.taskRun.taskKey) = entries.map TaskPlanEntry.key := by
  induction hswept with
  | nil => rfl
  | cons hhead _ ih => rw [List.map_cons, List.map_cons, ih, hhead.key]

/-- The row that is found for a task among the rows of a run. -/
theorem find?_listed {tasks : List TaskRecord} {taskRuns : List TaskRun}
    (hperm : taskRuns.Perm (tasks.map TaskRecord.taskRun))
    (hkeys : (tasks.map fun task => task.taskRun.taskKey).Nodup) (htask : task ∈ tasks) :
    taskRuns.find? (fun taskRun => taskRun.taskKey = task.taskRun.taskKey) =
      some task.taskRun := by
  have hnodup : (taskRuns.map TaskRun.taskKey).Nodup := by
    rw [(hperm.map TaskRun.taskKey).nodup_iff, List.map_map]
    exact hkeys
  have hfound := find?_persisted hperm hkeys htask
  unfold Table.find? at hfound
  rw [Table.rows_ofList hnodup] at hfound
  exact hfound

/-- One task after the failed one is skipped unless it is reused. -/
theorem ensures_sweepTask {failedKey : Text} {descendants : List Text}
    (hdescendants : ∀ other, other ∈ descendants ↔
      Relation.TransGen (DependsOn course.plan.tasks) failedKey other)
    (hbehind : course.Behind done calls) (hahead : course.Ahead todo)
    (hentry : entry ∈ course.plan.tasks) (hwaiting : course.Waiting entry task)
    (hkeys : ((done ++ task :: todo).map fun task => task.taskRun.taskKey).Nodup) :
    course.scene.Ensures
      (do
        let taskRuns ← query fun store => store.listTaskRuns course.runId
        match taskRuns.find? fun taskRun => taskRun.taskKey = entry.key with
        | none => .raise .stopIteration
        | some listed => do
            let taskRun ← onStore (Memory.getTaskRun listed.taskRunId)
            if taskRun.status = .pending ∨ taskRun.status = .ready then do
              let reason : SkipReason :=
                if entry.key ∈ descendants then .dependencyFailed else .failFastAbort
              let _ ← transitionTask taskRun .skipped (some reason) none
              pure ()
            else pure ())
      ⟨some run, done ++ task :: todo, calls⟩
      (Ends (fun _ last => ∃ next, course.Swept failedKey entry next ∧
        last = ⟨some run, done ++ next :: todo, calls⟩) course.Bad) := by
  have hmem : task ∈ done ++ task :: todo := by simp
  have hlisted : course.scene.Ensures (query fun store => store.listTaskRuns course.runId)
      ⟨some run, done ++ task :: todo, calls⟩
      (Ends (fun taskRuns last => last = ⟨some run, done ++ task :: todo, calls⟩ ∧
        taskRuns.Perm ((done ++ task :: todo).map TaskRecord.taskRun)) course.Bad) :=
    ensures_listTaskRuns fun _ hperm => ⟨rfl, hperm⟩
  refine hlisted.bind ?_ fun _ _ herror => herror
  rintro taskRuns last ⟨rfl, hperm⟩
  have hfound := find?_listed hperm hkeys hmem
  rw [hwaiting.key] at hfound
  rw [hfound]
  simp only
  have hread : course.scene.Ensures (onStore (Memory.getTaskRun task.taskRun.taskRunId))
      ⟨some run, done ++ task :: todo, calls⟩
      (Ends (fun current last => current = task.taskRun ∧
        last = ⟨some run, done ++ task :: todo, calls⟩) course.Bad) :=
    ensures_getTaskRun hmem ⟨rfl, rfl⟩
  refine hread.bind ?_ fun _ _ herror => herror
  rintro current last ⟨rfl, rfl⟩
  by_cases hreused : entry.key ∈ course.classification.reusedKeys
  · have hstatus := (hwaiting.reused hreused).status
    rw [if_neg (by simp [hstatus])]
    exact ensures_pure ⟨task, ⟨hwaiting.key, hwaiting.attempts, hwaiting.reused,
      fun hcomputed => absurd hreused hcomputed⟩, rfl⟩
  · obtain ⟨hpending, hnone⟩ := hwaiting.pending hreused
    have hskips : TaskRunStatus.skipped ∈ taskRunTransitions task.taskRun.status := by
      rw [hpending]
      decide
    rw [if_pos (Or.inl hpending)]
    refine (ensures_changeIdle ⟨hbehind, hahead, hentry, hreused⟩ hwaiting.key
      hwaiting.attempts (by simp) (by simp) hskips).bind ?_ fun _ _ herror => herror
    rintro _ last ⟨next, rfl, hattempts, hcheckpoint, hbecame, rfl⟩
    refine ensures_pure ⟨next, ⟨hbecame.identity.2.2.1.symm.trans hwaiting.key, hattempts,
      fun hkey => absurd hkey hreused, fun _ => ⟨hbecame.status, hcheckpoint.trans hnone,
        ?_⟩⟩, rfl⟩
    rw [← hdescendants, hbecame.skipReason]
    by_cases hdescendant : entry.key ∈ descendants
    · exact Or.inl ⟨hdescendant, by rw [if_pos hdescendant]⟩
    · exact Or.inr ⟨hdescendant, by rw [if_neg hdescendant]⟩

theorem descendantsOf_harmless {taskKey : Text} {entries : List TaskPlanEntry}
    {error : PyError} (herror : descendantsOf taskKey entries = .error error) :
    Harmless error := by
  unfold descendantsOf at herror
  simp only at herror
  split at herror
  · cases herror
    simp [Harmless, PyError.errorClass]
  split at herror
  · cases herror
    simp [Harmless, PyError.errorClass]
  · cases herror

/-- The tasks after the failed one are skipped. -/
theorem ensures_applyFailFast
    (hplan : course.plan.tasks = before ++ entry :: after)
    (hwalked : course.Walked before done outputs earlier)
    {evidence : FailureEvidence} (hfailed : course.Failed entry evidence failed calls)
    (hwaiting : List.Forall₂ course.Waiting after todo) :
    course.scene.Ensures (applyFailFast run course.plan entry)
      ⟨some run, done ++ failed :: todo, earlier ++ calls⟩
      (Ends (fun _ last => ∃ swept, List.Forall₂ (course.Swept entry.key) after swept ∧
        last = ⟨some run, done ++ failed :: swept, earlier ++ calls⟩) course.Bad) := by
  have hmem : entry ∈ course.plan.tasks := by simp [hplan]
  have hbefore : ∀ other ∈ before, other ∈ course.plan.tasks := by
    intro other hother
    rw [hplan]
    exact List.mem_append_left _ hother
  have hafter : ∀ other ∈ after, other ∈ course.plan.tasks := by
    intro other hother
    rw [hplan]
    exact List.mem_append_right _ (List.mem_cons_of_mem _ hother)
  have hbehind := (hwalked.behind hbefore).append hfailed.behind
  apply ensures_of_sound
  intro hsound
  have hrunId : run.runId = course.runId := hsound.run run rfl
  obtain ⟨hearlierPosition, hlaterPosition⟩ := positions_split hplan
  unfold applyFailFast
  apply ensures_ofExcept_bind
  case herror =>
    intro error herror
    have hcalled : AllCalled ⟨some run, done ++ failed :: todo, earlier ++ calls⟩ := by
      have hall := hbehind.append (ahead_of_waiting hwaiting hafter).behind
      rw [List.append_nil, List.append_assoc, List.singleton_append] at hall
      exact hall.launched.allCalled (by simp)
    refine bad_of_called hcalled (descendantsOf_harmless herror) (.infirm fun hfirm => ?_)
    obtain ⟨descendants, hdescendants⟩ := descendantsOf_eq_ok hfirm.known
      (List.mem_map_of_mem hmem)
    rw [hdescendants] at herror
    cases herror
  intro descendants hdescendants
  have hfound := mem_descendantsOf hdescendants
  rw [hrunId]
  rw [hplan, List.append_cons, forEach_append]
  have hleading : ∀ item ∈ before ++ [entry], item.position ≤ entry.position := by
    intro item hitem
    rcases List.mem_append.mp hitem with hmem | hmem
    · exact hearlierPosition item hmem
    · rw [List.mem_singleton.mp hmem]
  refine (ensures_forEach
    (fun rest current => (∀ item ∈ rest, item.position ≤ entry.position) ∧
      current = ⟨some run, done ++ failed :: todo, earlier ++ calls⟩) course.Bad
    (before ++ [entry]) ?_ ⟨hleading, rfl⟩).bind ?_ fun _ _ herror => herror
  · rintro item rest current ⟨hpositions, rfl⟩
    rw [if_pos (hpositions item List.mem_cons_self)]
    exact ensures_pure ⟨fun other hother =>
      hpositions other (List.mem_cons_of_mem _ hother), rfl⟩
  rintro _ last ⟨-, rfl⟩
  refine (ensures_forEach
    (fun rest current => ∃ mid swept waiting, after = mid ++ rest ∧
      List.Forall₂ (course.Swept entry.key) mid swept ∧
      List.Forall₂ course.Waiting rest waiting ∧
      current = ⟨some run, done ++ failed :: (swept ++ waiting), earlier ++ calls⟩)
    course.Bad after ?_ ⟨[], [], todo, rfl, .nil, hwaiting, rfl⟩).mono ?_
  · rintro item rest current ⟨mid, swept, waiting, hsplit, hswept, hrest, rfl⟩
    cases hrest with
    | @cons _ task _ waiting hitem hrest =>
        have hitemAfter : item ∈ after := by
          rw [hsplit]
          simp
        have hmidAfter : ∀ other ∈ mid, other ∈ course.plan.tasks := by
          intro other hother
          apply hafter
          rw [hsplit]
          exact List.mem_append_left _ hother
        have hrestAfter : ∀ other ∈ rest, other ∈ course.plan.tasks := by
          intro other hother
          apply hafter
          rw [hsplit]
          exact List.mem_append_right _ (List.mem_cons_of_mem _ hother)
        have hswept' := (ahead_of_swept hswept hmidAfter).behind
        have hdone := hbehind.append hswept'
        rw [List.append_nil, List.append_assoc, List.singleton_append] at hdone
        have hkeys : (((done ++ failed :: swept) ++ task :: waiting).map
            fun task => task.taskRun.taskKey).Nodup := by
          have hall : ((done ++ failed :: swept) ++ task :: waiting).map
              (fun task => task.taskRun.taskKey) =
                course.plan.tasks.map TaskPlanEntry.key := by
            rw [hplan, hsplit]
            simp only [List.map_append, List.map_cons, List.append_assoc, List.cons_append,
              hwalked.keys, hfailed.key, keys_of_swept hswept, hitem.key,
              keys_of_waiting hrest]
          rw [hall]
          exact course.plan.distinct
        rw [if_neg (Nat.not_le.mpr (hlaterPosition item hitemAfter))]
        have hassoc : ∀ this : TaskRecord, done ++ failed :: (swept ++ this :: waiting) =
            (done ++ failed :: swept) ++ this :: waiting := by simp
        rw [hassoc]
        refine (ensures_sweepTask hfound hdone (ahead_of_waiting hrest hrestAfter)
          (hafter item hitemAfter) hitem hkeys).mono fun result last hlast => ?_
        cases result with
        | error error => exact hlast
        | ok value =>
            obtain ⟨next, hnext, rfl⟩ := hlast
            refine ⟨mid ++ [item], swept ++ [next], waiting, by simp [hsplit],
              List.rel_append hswept (.cons hnext .nil), hrest, by simp⟩
  · intro result last hlast
    cases result with
    | error error => exact hlast
    | ok value =>
        obtain ⟨mid, swept, waiting, hsplit, hswept, hrest, rfl⟩ := hlast
        cases hrest
        rw [List.append_nil] at hsplit ⊢
        exact ⟨swept, hsplit ▸ hswept, rfl⟩

end FailFast

section Plan

/-- All tasks have ended and none of them failed. -/
theorem ensures_assertTerminalTaskRuns
    (hwalked : course.Walked course.plan.tasks done outputs earlier) :
    course.scene.Ensures (assertTerminalTaskRuns course.runId) ⟨some run, done, earlier⟩
      (Ends (fun _ last => last = ⟨some run, done, earlier⟩) course.Bad) := by
  unfold assertTerminalTaskRuns
  have hlisted : course.scene.Ensures (query fun store => store.listTaskRuns course.runId)
      ⟨some run, done, earlier⟩
      (Ends (fun taskRuns last => last = ⟨some run, done, earlier⟩ ∧
        taskRuns.Perm (done.map TaskRecord.taskRun)) course.Bad) :=
    ensures_listTaskRuns fun _ hperm => ⟨rfl, hperm⟩
  refine hlisted.bind ?_ fun _ _ herror => herror
  rintro taskRuns last ⟨rfl, hperm⟩
  have hrow : ∀ taskRun ∈ taskRuns, ∃ task ∈ done, task.taskRun = taskRun :=
    fun taskRun hmem => List.mem_map.mp (hperm.mem_iff.mp hmem)
  have hnonempty : taskRuns.map TaskRun.status ≠ [] := by
    intro hnil
    have hlength := hperm.length_eq
    have hkeys := congrArg List.length hwalked.keys
    rw [List.map_eq_nil_iff.mp hnil] at hlength
    simp only [List.length_map, List.length_nil] at hlength hkeys
    exact course.plan.nonempty (List.length_eq_zero_iff.mp (by omega))
  have hstatuses : ∀ status ∈ taskRuns.map TaskRun.status,
      status = .succeeded ∨ status = .skipped ∨ status = .reused := by
    intro status hstatus
    obtain ⟨taskRun, hmem, rfl⟩ := List.mem_map.mp hstatus
    obtain ⟨task, htask, rfl⟩ := hrow taskRun hmem
    rcases hwalked.status task htask with heq | ⟨heq, -⟩ | ⟨heq, -⟩ <;> simp [heq]
  simp only
  have hrequired : ∀ (condition : Prop) [Decidable condition] (error : PyError), condition →
      course.scene.Ensures (.require condition error) ⟨some run, done, earlier⟩
        (Ends (fun _ last => last = ⟨some run, done, earlier⟩) course.Bad) :=
    fun _ _ _ hcondition => ensures_require (fun _ => rfl) fun hfalse =>
      absurd hcondition hfalse
  refine (hrequired _ _ ?_).bind ?_ fun _ _ herror => herror
  · simp only [not_or, List.any_eq_true, not_exists, not_and]
    refine ⟨hnonempty, fun status hstatus => ?_⟩
    rcases hstatuses status hstatus with rfl | rfl | rfl <;> decide
  rintro _ last rfl
  apply hrequired
  simp only [List.any_eq_true, not_exists, not_and]
  intro status hstatus
  rcases hstatuses status hstatus with rfl | rfl | rfl <;> decide

theorem workflowTerminalStatus_eq {failure : FailureEvidence}
    (hcategory : failure.category ≠ .cancelled) :
    workflowTerminalStatus failure = .failed ∨ workflowTerminalStatus failure = .timedOut := by
  unfold workflowTerminalStatus
  cases hkind : failure.category <;> simp_all

/-- All tasks are behind: the run succeeds. -/
theorem ensures_concludePlan
    (hwalked : course.Walked course.plan.tasks done outputs earlier)
    (hrun : run.status = .running) (diagnostics : List Diagnostic) :
    course.scene.Ensures
      (do
        assertTerminalTaskRuns course.runId
        let _ ← transitionWorkflow run .succeeded none
        buildResult course.runId outputs diagnostics)
      ⟨some run, done, earlier⟩ (Ends course.Concluded course.Bad) := by
  have hbehind := hwalked.behind fun _ hentry => hentry
  refine (ensures_assertTerminalTaskRuns hwalked).bind ?_ fun _ _ herror => herror
  rintro _ last rfl
  refine (ensures_changeRun (fun next => lawful_behind hbehind)
    (hbehind.launched.allCalled (by simp)) (by rw [hrun]; decide)).bind ?_
    fun _ _ herror => herror
  rintro _ last ⟨-, hstatus, -, rfl⟩
  refine (ensures_report (Or.inl (by rw [hstatus]; rfl)) hwalked.keys diagnostics).mono
    fun result last hresult => ?_
  cases result with
  | error error => exact hresult.elim
  | ok result =>
      obtain ⟨rfl, hreports⟩ := hresult
      exact .succeeded hstatus hwalked hreports

/-- A task failed: the run fails with it. -/
theorem ensures_concludeFailure
    (hplan : course.plan.tasks = before ++ entry :: after)
    (hcomputed : entry.key ∉ course.classification.reusedKeys)
    (hwalked : course.Walked before done outputs earlier)
    {evidence : FailureEvidence} (hfailed : course.Failed entry evidence failed calls)
    (hwaiting : List.Forall₂ course.Waiting after todo) (hrun : run.status = .running)
    (diagnostics : List Diagnostic) :
    course.scene.Ensures
      (do
        applyFailFast run course.plan entry
        let _ ← transitionWorkflow run (workflowTerminalStatus evidence) (some evidence)
        buildResult course.runId outputs diagnostics)
      ⟨some run, done ++ failed :: todo, earlier ++ calls⟩
      (Ends course.Concluded course.Bad) := by
  refine (ensures_applyFailFast hplan hwalked hfailed hwaiting).bind ?_
    fun _ _ herror => herror
  rintro _ last ⟨swept, hswept, rfl⟩
  have hbefore : ∀ other ∈ before, other ∈ course.plan.tasks := by
    intro other hother
    rw [hplan]
    exact List.mem_append_left _ hother
  have hafter : ∀ other ∈ after, other ∈ course.plan.tasks := by
    intro other hother
    rw [hplan]
    exact List.mem_append_right _ (List.mem_cons_of_mem _ hother)
  have hbehind : course.Behind (done ++ failed :: swept) (earlier ++ calls) := by
    have hall := ((hwalked.behind hbefore).append hfailed.behind).append
      (ahead_of_swept hswept hafter).behind
    simpa using hall
  have hkeys : (done ++ failed :: swept).map (fun task => task.taskRun.taskKey) =
      course.plan.tasks.map TaskPlanEntry.key := by
    rw [hplan, List.map_append, List.map_append, List.map_cons, List.map_cons,
      hwalked.keys, hfailed.key, keys_of_swept hswept]
  have hterminal := workflowTerminalStatus_eq hfailed.category
  refine (ensures_changeRun (fun next => lawful_behind hbehind)
    (hbehind.launched.allCalled (by simp)) ?_).bind ?_ fun _ _ herror => herror
  · rw [hrun]
    rcases hterminal with heq | heq <;> rw [heq] <;> decide
  rintro _ last ⟨-, hstatus, hfailure, rfl⟩
  have hconcluded : (workflowTerminalStatus evidence).isTerminal = true := by
    rcases hterminal with heq | heq <;> rw [heq] <;> rfl
  refine (ensures_report (Or.inl (hstatus ▸ hconcluded)) hkeys diagnostics).mono
    fun result last hresult => ?_
  cases result with
  | error error => exact hresult.elim
  | ok result =>
      obtain ⟨rfl, hreports⟩ := hresult
      exact .failed hplan hcomputed hwalked hfailed hswept hstatus hfailure hreports

/-- The plan loop concludes the run. -/
theorem ensures_executeEntries (hvalid : course.Valid) (hrun : run.status = .running)
    (rest : List TaskPlanEntry) {before : List TaskPlanEntry} {done todo : List TaskRecord}
    {outputs : Outputs} {earlier : Calls} {progress : PlanProgress}
    (hplan : course.plan.tasks = before ++ rest)
    (hwalked : course.Walked before done outputs earlier)
    (hwaiting : List.Forall₂ course.Waiting rest todo) (hprogress : progress.run = run)
    (houtputs : progress.outputs = outputs) :
    course.scene.Ensures
      (executeEntries course.runtime course.plan course.runId correlation
        course.classification.reusedKeys rest progress)
      ⟨some run, done ++ todo, earlier⟩ (Ends course.Concluded course.Bad) := by
  induction rest generalizing before done todo outputs earlier progress with
  | nil =>
      cases hwaiting
      rw [List.append_nil] at hplan ⊢
      rw [← hplan] at hwalked
      unfold executeEntries
      rw [hprogress, houtputs]
      exact ensures_concludePlan hwalked hrun progress.diagnostics
  | cons entry rest ih =>
      cases hwaiting with
      | @cons _ task _ todo hentry hrest =>
          have hsplit : course.plan.tasks = (before ++ [entry]) ++ rest := by
            rw [hplan, List.append_assoc, List.singleton_append]
          have hassoc : ∀ this : TaskRecord, done ++ this :: todo = (done ++ [this]) ++ todo := by
            intro this
            rw [List.append_assoc, List.singleton_append]
          unfold executeEntries
          split
          · next hreused =>
            rw [hassoc]
            exact ih hsplit (.reused hwalked hreused hentry) hrest hprogress houtputs
          next hcomputed =>
          refine (ensures_executeEntry hvalid ⟨hplan, hwalked, hrest, hcomputed⟩ hentry hrun
            hprogress houtputs).bind ?_ fun _ _ herror => herror
          intro entryEnd last hends
          cases hends with
          | next hnextRun hnext =>
              rw [hassoc]
              exact ih hsplit hnext hrest hnextRun rfl
          | returned hends =>
              cases hends with
              | unknown hstatus hkey htask hlaunched hunraised hreports =>
                  exact ensures_pure (.unknown ⟨hplan, hwalked, hrest, hcomputed⟩ hstatus hkey
                    htask hlaunched hunraised hreports)
          | failed hends =>
              cases hends with
              | failed hfailedRun hfailedOutputs hfailed =>
                  simp only
                  cases course.plan.failurePolicy with
                  | failFast =>
                      rw [hfailedRun, hfailedOutputs]
                      exact ensures_concludeFailure hplan hcomputed hwalked hfailed
                        hrest hrun _

end Plan

end Course

end PyWorkflowKit.Runtime
