import PyWorkflowKit.V1.Reconciliation
import PyWorkflowKit.V1.Writes

/-!
# From reconciliation to resume

A run that the inspector calls eligible is one about which reconciliation has nothing to report,
and a report that `resume` accepts leaves no task run in between.
-/

namespace PyWorkflowKit.V1

open PyWorkflowKit.Core PyWorkflowKit.Domain
open PyWorkflowKit.Planning (DependencyGraph)

/-- Nobody knows whether the work on the task run has ended. -/
def Ambiguous (store : MemoryState) (taskRun : TaskRun) : Prop :=
  taskRun.status.isTerminal = false ∧
    (store.listExternalRunRefs taskRun.taskRunId ≠ [] ∨
      taskRun.status = .running ∧ (store.runningAttempts taskRun.taskRunId ≠ [] ∨
        pendingRetryAttempt (store.listTaskAttempts taskRun.taskRunId) = none))

section Reports

variable {registry : VerifierRegistry} {store : MemoryState} {taskRun : TaskRun}
  {task : ReconciledTask} {observedAt : DateTime} {staleAfter : Int} {runId : WorkflowRunId}
  {reconciliation : Reconciliation}

theorem reportTask_eq_none_iff :
    reportTask registry store taskRun = none ↔ ¬ Ambiguous store taskRun := by
  rw [reportTask, Ambiguous]
  split
  · next hterminal => simp [hterminal]
  next hopen =>
  simp only [Bool.eq_false_of_not_eq_true hopen, List.map_eq_nil_iff, true_and,
    List.isEmpty_iff]
  split
  · next hwaits =>
    obtain ⟨hrunning, hnone, hpending, hrefs⟩ := hwaits
    simp [hrunning, hnone, hrefs, Option.isSome_iff_ne_none.mp hpending]
  next hwaits =>
  split
  · next hidle => simp [hidle.1, hidle.2]
  next hbusy =>
  simp only [reduceCtorEq, false_iff, not_not]
  by_cases hrefs : store.listExternalRunRefs taskRun.taskRunId = []
  · have hrunning : taskRun.status = .running := by
      by_contra hstatus
      exact hbusy ⟨hstatus, hrefs⟩
    refine Or.inr ⟨hrunning, ?_⟩
    by_contra hneither
    obtain ⟨hnone, hpending⟩ := not_or.mp hneither
    exact hwaits ⟨hrunning, not_not.mp hnone, Option.isSome_iff_ne_none.mpr hpending, hrefs⟩
  · exact Or.inl hrefs

theorem shows_reconcileTask (runningAttemptIds : List String)
    (externalRefs : List ExternalRunRef) :
    (reconcileTask registry taskRun runningAttemptIds externalRefs).taskRunId =
        taskRun.taskRunId.str ∧
      (reconcileTask registry taskRun runningAttemptIds externalRefs).runningAttemptIds =
        runningAttemptIds := by
  rw [reconcileTask]
  split
  · exact ⟨rfl, rfl⟩
  · dsimp only
    split
    · exact ⟨rfl, rfl⟩
    · split
      · split
        · exact ⟨rfl, rfl⟩
        · exact ⟨rfl, rfl⟩
      · exact ⟨rfl, rfl⟩

/-- An item of the report names its task run and the attempts of it that are RUNNING. -/
theorem shows_reportTask (hreport : reportTask registry store taskRun = some task) :
    task.taskRunId = taskRun.taskRunId.str ∧
      task.runningAttemptIds = (store.runningAttempts taskRun.taskRunId).map
        fun attempt => attempt.attemptId.str := by
  rw [reportTask] at hreport
  split at hreport
  · cases hreport
  · dsimp only at hreport
    split at hreport
    · cases hreport
    · split at hreport
      · cases hreport
      · cases hreport
        exact shows_reconcileTask _ _

theorem reconcile_eq_ok
    (hreconcile : reconcile registry store observedAt staleAfter runId = .ok reconciliation) :
    (∃ assessment, assess store observedAt staleAfter runId = .ok assessment ∧
        assessment.liveness = .staleCandidate) ∧
      reconciliation = ⟨runId.str, (store.listTaskRuns runId).filterMap
        (reportTask registry store)⟩ := by
  rw [reconcile] at hreconcile
  split at hreconcile
  · cases hreconcile
  · next assessment hassess =>
    split at hreconcile
    · cases hreconcile
    · next hstale =>
      cases hreconcile
      refine ⟨⟨assessment, hassess, not_not.mp hstale⟩, ?_⟩
      rw [sortBy_eq_self]
      exact sortBy_pairwise _ _

/-- A task run is reported exactly when its completion is ambiguous. -/
theorem mem_reconcile_iff
    (hreconcile : reconcile registry store observedAt staleAfter runId = .ok reconciliation) :
    task ∈ reconciliation.tasks ↔
      ∃ taskRun ∈ store.listTaskRuns runId, reportTask registry store taskRun = some task := by
  rw [(reconcile_eq_ok hreconcile).2]
  exact List.mem_filterMap

/-- The task runs that the inspector lists as waiting for a retry. -/
theorem retryWaiting_all_iff {taskRuns : List TaskRun} (hmem : taskRun ∈ taskRuns)
    (hdistinct : ∀ other ∈ taskRuns, other.taskRunId = taskRun.taskRunId → other = taskRun)
    (hrunning : taskRun.status = .running) :
    (retryWaiting store taskRuns).all (fun entry => entry.1.taskRunId ≠ taskRun.taskRunId) =
        true ↔
      pendingRetryAttempt (store.listTaskAttempts taskRun.taskRunId) = none := by
  rw [List.all_eq_true]
  constructor
  · intro hall
    by_contra hwaits
    obtain ⟨attempt, hattempt⟩ := Option.ne_none_iff_exists'.mp hwaits
    have hentry : (taskRun, attempt) ∈ retryWaiting store taskRuns := by
      apply List.mem_filterMap.mpr
      exact ⟨taskRun, hmem, by rw [if_pos hrunning, hattempt]; rfl⟩
    exact of_decide_eq_true (hall _ hentry) rfl
  · intro hnone entry hentry
    obtain ⟨other, hother, hwaits⟩ := List.mem_filterMap.mp hentry
    apply decide_eq_true
    intro hid
    split at hwaits
    · obtain ⟨attempt, hattempt, rfl⟩ := Option.map_eq_some_iff.mp hwaits
      rw [hdistinct other hother hid, hnone] at hattempt
      cases hattempt
    · cases hwaits

theorem sortBy_eq_nil_iff {α κ : Type} [LinearOrder κ] {key : α → κ} {values : List α} :
    sortBy key values = [] ↔ values = [] := by
  rw [← List.length_eq_zero_iff, length_sortBy, List.length_eq_zero_iff]

/-- The task runs that a store lists have distinct identities. -/
theorem MemoryState.eq_of_listTaskRuns {other : TaskRun}
    (hmem : taskRun ∈ store.listTaskRuns runId) (hother : other ∈ store.listTaskRuns runId)
    (hid : other.taskRunId = taskRun.taskRunId) : other = taskRun := by
  rw [listTaskRuns, mem_sortBy] at hmem hother
  exact store.taskRuns.eq_of_mem (List.mem_of_mem_filter hother) (List.mem_of_mem_filter hmem) hid

theorem classifyResumeEligibility_eligible_iff {taskRunIds attemptIds : List String}
    {count : Nat} :
    (classifyResumeEligibility .staleCandidate taskRunIds attemptIds count).1 = .eligible ↔
      taskRunIds = [] ∧ attemptIds = [] ∧ count = 0 := by
  rw [classifyResumeEligibility, if_neg (not_not.mpr rfl)]
  by_cases htasks : taskRunIds = []
  · by_cases hattempts : attemptIds = []
    · by_cases hcount : count = 0
      · simp [htasks, hattempts, hcount]
      · simp [hcount]
    · simp [hattempts]
  · simp [htasks]

/-- A stale run is eligible when no task run and no attempt is RUNNING, but for those that wait
for a retry, and no unfinished task run refers to an external run. -/
theorem eligible_iff {assessment : RecoveryAssessment}
    (hassess : assess store observedAt staleAfter runId = .ok assessment)
    (hstale : assessment.liveness = .staleCandidate) :
    assessment.resumeEligibility = .eligible ↔
      ∀ taskRun ∈ store.listTaskRuns runId,
        (taskRun.status = .running →
          pendingRetryAttempt (store.listTaskAttempts taskRun.taskRunId) ≠ none) ∧
        store.runningAttempts taskRun.taskRunId = [] ∧
        (taskRun.status.isTerminal = false →
          store.listExternalRunRefs taskRun.taskRunId = []) := by
  rw [assess] at hassess
  obtain ⟨run, -, hassessed⟩ := bind_eq_ok hassess
  dsimp only at hassessed
  have hfields := Except.ok.inj hassessed
  rw [← hfields] at hstale ⊢
  dsimp only at hstale ⊢
  rw [hstale, classifyResumeEligibility_eligible_iff, sortBy_eq_nil_iff, sortBy_eq_nil_iff,
    List.map_eq_nil_iff, List.map_eq_nil_iff, List.filter_eq_nil_iff, List.filter_eq_nil_iff,
    List.sum_eq_zero_iff]
  constructor
  · rintro ⟨htasks, hattempts, hrefs⟩ taskRun hmem
    refine ⟨?_, ?_, ?_⟩
    · intro hrunning hnone
      apply htasks taskRun hmem
      rw [Bool.and_eq_true, decide_eq_true_eq]
      refine ⟨hrunning, (retryWaiting_all_iff hmem ?_ hrunning).mpr hnone⟩
      exact fun other hother hid => MemoryState.eq_of_listTaskRuns hmem hother hid
    · rw [MemoryState.runningAttempts, List.filter_eq_nil_iff]
      exact fun attempt hattempt =>
        hattempts attempt (List.mem_flatMap.mpr ⟨taskRun, hmem, hattempt⟩)
    · intro hopen
      apply List.length_eq_zero_iff.mp
      apply hrefs
      apply List.mem_map.mpr
      exact ⟨taskRun, List.mem_filter.mpr ⟨hmem, by simp [hopen]⟩, rfl⟩
  · intro hall
    refine ⟨?_, ?_, ?_⟩
    · intro taskRun hmem hlisted
      rw [Bool.and_eq_true, decide_eq_true_eq] at hlisted
      apply (hall taskRun hmem).1 hlisted.1
      refine (retryWaiting_all_iff hmem ?_ hlisted.1).mp hlisted.2
      exact fun other hother hid => MemoryState.eq_of_listTaskRuns hmem hother hid
    · intro attempt hattempt
      obtain ⟨taskRun, hmem, howned⟩ := List.mem_flatMap.mp hattempt
      have hnone := (hall taskRun hmem).2.1
      rw [MemoryState.runningAttempts, List.filter_eq_nil_iff] at hnone
      exact hnone attempt howned
    · intro count hcount
      obtain ⟨taskRun, hmem, rfl⟩ := List.mem_map.mp hcount
      obtain ⟨hlisted, hopen⟩ := List.mem_filter.mp hmem
      rw [(hall taskRun hlisted).2.2 (by simpa using hopen), List.length_nil]

/-- The inspector calls a stale run eligible exactly when reconciliation has nothing to report
about it, and no attempt is RUNNING under a task run that is not. -/
theorem eligible_iff_unreported
    (hreconcile : reconcile registry store observedAt staleAfter runId = .ok reconciliation) :
    (∃ assessment, assess store observedAt staleAfter runId = .ok assessment ∧
        assessment.resumeEligibility = .eligible) ↔
      reconciliation.tasks = [] ∧ ∀ taskRun ∈ store.listTaskRuns runId,
        taskRun.status ≠ .running → store.runningAttempts taskRun.taskRunId = [] := by
  obtain ⟨⟨assessment, hassess, hstale⟩, rfl⟩ := reconcile_eq_ok hreconcile
  have hsame : (∃ assessment, assess store observedAt staleAfter runId = .ok assessment ∧
      assessment.resumeEligibility = .eligible) ↔ assessment.resumeEligibility = .eligible := by
    simp [hassess]
  have hnone : (store.listTaskRuns runId).filterMap (reportTask registry store) = [] ↔
      ∀ taskRun ∈ store.listTaskRuns runId, ¬ Ambiguous store taskRun := by
    rw [List.filterMap_eq_nil_iff]
    exact forall₂_congr fun taskRun _ => reportTask_eq_none_iff
  rw [hsame, eligible_iff hassess hstale, hnone, ← forall₂_and]
  apply forall₂_congr
  intro taskRun _
  rw [Ambiguous]
  constructor
  · rintro ⟨hwaits, hidle, hrefs⟩
    refine ⟨?_, fun _ => hidle⟩
    rintro ⟨hopen, hknown | ⟨hrunning, hbusy | hnone⟩⟩
    · exact hknown (hrefs hopen)
    · exact hbusy hidle
    · exact hwaits hrunning hnone
  · rintro ⟨hclear, hidle⟩
    refine ⟨?_, ?_, ?_⟩
    · intro hrunning hnone
      exact hclear ⟨by rw [hrunning]; rfl, Or.inr ⟨hrunning, Or.inr hnone⟩⟩
    · by_cases hrunning : taskRun.status = .running
      · by_contra hbusy
        exact hclear ⟨by rw [hrunning]; rfl, Or.inr ⟨hrunning, Or.inl hbusy⟩⟩
      · exact hidle hrunning
    · intro hopen
      by_contra hknown
      exact hclear ⟨hopen, Or.inl hknown⟩

end Reports

end PyWorkflowKit.V1
