import PyWorkflowKit.Persistence.Runs
import PyWorkflowKit.Runtime.Readiness
import PyWorkflowKit.Runtime.Resume
import Mathlib.Order.Bounds.Defs

/-!
# Which tasks a resumed run reuses

The classification of the tasks of a plan as a value, and the largest set of reusable
tasks that is closed under dependencies.
-/

namespace PyWorkflowKit.Runtime

open PyWorkflowKit.Core PyWorkflowKit.Domain PyWorkflowKit.States
open PyWorkflowKit.Persistence PyWorkflowKit.Planning

/-- The classification of one more entry. -/
def classifyEntry (parentTaskRuns : TaskRunsByKey)
    (checkpoints : TaskRunId → Option TaskOutputCheckpoint) (force : List Text)
    (classification : TaskResumeClassification) (entry : TaskPlanEntry) :
    TaskResumeClassification :=
  match reuseCandidate parentTaskRuns force classification.reusedKeys entry with
  | none => classification
  | some parentTaskRun =>
      match checkpoints parentTaskRun.taskRunId with
      | none => classification
      | some checkpoint => classification.reuse entry.key checkpoint

/-- The classification of the entries against these checkpoints. -/
def classified (parentTaskRuns : TaskRunsByKey)
    (checkpoints : TaskRunId → Option TaskOutputCheckpoint) (force : List Text)
    (entries : List TaskPlanEntry) (classification : TaskResumeClassification) :
    TaskResumeClassification :=
  entries.foldl (classifyEntry parentTaskRuns checkpoints force) classification

/-- The checkpoint of one of the tasks of a run. -/
def checkpointIn (tasks : List TaskRecord) (taskRunId : TaskRunId) :
    Option TaskOutputCheckpoint :=
  (tasks.find? fun task => task.taskRun.taskRunId = taskRunId).bind TaskRecord.checkpoint

/-- The task runs of a run in the order in which the store lists them. -/
def listed (tasks : List TaskRecord) : List TaskRun :=
  sortBy (fun taskRun => toLex (taskRun.taskKey.value, taskRun.taskRunId.str))
    (tasks.map TaskRecord.taskRun)

/-- The classification of the tasks of a plan against the tasks of a parent run. -/
def classificationOf (plan : ExecutionPlan) (parentTasks : List TaskRecord)
    (force : List Text) : TaskResumeClassification :=
  classified (.ofList (listed parentTasks)) (checkpointIn parentTasks) force plan.tasks .empty

/-- Nothing but its dependencies keeps a task from being reused: it is deterministic and
not forced, and it succeeded or was reused in the parent and has this checkpoint there. -/
structure Reusable (parentTaskRuns : TaskRunsByKey)
    (checkpoints : TaskRunId → Option TaskOutputCheckpoint) (force : List Text)
    (entry : TaskPlanEntry) (checkpoint : TaskOutputCheckpoint) : Prop where
  deterministic : entry.task.isDeterministic = true
  unforced : entry.key ∉ force
  parent : ∃ taskRun, parentTaskRuns.find? entry.key = some taskRun ∧
    (taskRun.status = .succeeded ∨ taskRun.status = .reused) ∧
    checkpoints taskRun.taskRunId = some checkpoint

/-- A set of tasks that has the dependencies of its tasks. -/
def UpstreamClosed (entries : List TaskPlanEntry) (keys : Set Text) : Prop :=
  ∀ entry ∈ entries, entry.key ∈ keys → ∀ dependency ∈ entry.dependencies, dependency ∈ keys

/-- Sets of reusable tasks that have the dependencies of their tasks. -/
def ReusableSets (parentTaskRuns : TaskRunsByKey)
    (checkpoints : TaskRunId → Option TaskOutputCheckpoint) (force : List Text)
    (entries : List TaskPlanEntry) : Set (Set Text) :=
  { keys | UpstreamClosed entries keys ∧ ∀ key ∈ keys, ∃ entry ∈ entries, entry.key = key ∧
    ∃ checkpoint, Reusable parentTaskRuns checkpoints force entry checkpoint }

section Entries

variable {parentTaskRuns : TaskRunsByKey}
  {checkpoints : TaskRunId → Option TaskOutputCheckpoint} {force : List Text}
  {classification : TaskResumeClassification} {entry : TaskPlanEntry}

theorem reuseCandidate_eq_some {reusedKeys : List Text} {taskRun : TaskRun} :
    reuseCandidate parentTaskRuns force reusedKeys entry = some taskRun ↔
      entry.key ∉ force ∧ entry.task.isDeterministic = true ∧
        parentTaskRuns.find? entry.key = some taskRun ∧
        (taskRun.status = .succeeded ∨ taskRun.status = .reused) ∧
        ∀ dependency ∈ entry.dependencies, dependency ∈ reusedKeys := by
  unfold reuseCandidate
  cases parentTaskRuns.find? entry.key with
  | none => simp
  | some found =>
      simp only [Option.some.injEq]
      split_ifs with hforce hdeterministic hstatus hdependencies
      · simp [hforce]
      · rw [Option.some.injEq]
        constructor
        · rintro rfl
          exact ⟨hforce, hdeterministic, rfl, hstatus, hdependencies⟩
        · exact fun hall => hall.2.2.1
      · simp only [false_iff, not_and]
        exact fun _ _ _ _ => hdependencies
      · simp only [false_iff, not_and]
        rintro - - rfl hthis
        exact absurd hthis hstatus
      · simp [hdeterministic]

/-- One entry is reused or left out. -/
theorem classifyEntry_cases (parentTaskRuns : TaskRunsByKey)
    (checkpoints : TaskRunId → Option TaskOutputCheckpoint) (force : List Text)
    (classification : TaskResumeClassification) (entry : TaskPlanEntry) :
    (∃ checkpoint, Reusable parentTaskRuns checkpoints force entry checkpoint ∧
        (∀ dependency ∈ entry.dependencies, dependency ∈ classification.reusedKeys) ∧
        classifyEntry parentTaskRuns checkpoints force classification entry =
          classification.reuse entry.key checkpoint) ∨
      ((∀ checkpoint, Reusable parentTaskRuns checkpoints force entry checkpoint →
          ¬ ∀ dependency ∈ entry.dependencies, dependency ∈ classification.reusedKeys) ∧
        classifyEntry parentTaskRuns checkpoints force classification entry =
          classification) := by
  unfold classifyEntry
  cases hcandidate : reuseCandidate parentTaskRuns force classification.reusedKeys entry with
  | none =>
      refine Or.inr ⟨fun checkpoint hreusable hdependencies => ?_, rfl⟩
      obtain ⟨taskRun, hfound, hstatus, -⟩ := hreusable.parent
      have hsome := reuseCandidate_eq_some.mpr ⟨hreusable.unforced, hreusable.deterministic,
        hfound, hstatus, hdependencies⟩
      rw [hcandidate] at hsome
      cases hsome
  | some taskRun =>
      obtain ⟨hunforced, hdeterministic, hfound, hstatus, hdependencies⟩ :=
        reuseCandidate_eq_some.mp hcandidate
      simp only
      cases hcheckpoint : checkpoints taskRun.taskRunId with
      | none =>
          refine Or.inr ⟨fun checkpoint hreusable _ => ?_, rfl⟩
          obtain ⟨other, hother, -, hthis⟩ := hreusable.parent
          rw [hfound] at hother
          cases hother
          rw [hcheckpoint] at hthis
          cases hthis
      | some checkpoint =>
          exact Or.inl ⟨checkpoint, ⟨hdeterministic, hunforced, taskRun, hfound, hstatus,
            hcheckpoint⟩, hdependencies, rfl⟩

end Entries

/-- What is known after some entries of a plan. -/
structure ClassifiedSoFar (parentTaskRuns : TaskRunsByKey)
    (checkpoints : TaskRunId → Option TaskOutputCheckpoint) (force : List Text)
    (before : List TaskPlanEntry) (classification : TaskResumeClassification) : Prop where
  preloaded : classification.Preloaded
  known : ∀ key ∈ classification.reusedKeys, key ∈ before.map TaskPlanEntry.key
  reused : ∀ entry ∈ before, entry.key ∈ classification.reusedKeys ↔
    (∃ checkpoint, Reusable parentTaskRuns checkpoints force entry checkpoint) ∧
      ∀ dependency ∈ entry.dependencies, dependency ∈ classification.reusedKeys
  copied : ∀ entry ∈ before, ∀ checkpoint,
    classification.reusedCheckpoints.find? entry.key = some (entry.key, checkpoint) →
      Reusable parentTaskRuns checkpoints force entry checkpoint

section Classified

variable {parentTaskRuns : TaskRunsByKey}
  {checkpoints : TaskRunId → Option TaskOutputCheckpoint} {force : List Text}
  {classification : TaskResumeClassification} {before entries : List TaskPlanEntry}
  {entry : TaskPlanEntry}

theorem mem_reuse {key other : Text} {checkpoint : TaskOutputCheckpoint} :
    other ∈ (classification.reuse key checkpoint).reusedKeys ↔
      other ∈ classification.reusedKeys ∨ other = key := by
  simp [TaskResumeClassification.reuse]

theorem find?_reuse_self (key : Text) (checkpoint : TaskOutputCheckpoint) :
    (classification.reuse key checkpoint).reusedCheckpoints.find? key =
      some (key, checkpoint) := Table.find?_set_self _ _

theorem find?_reuse_of_ne {key other : Text} (hne : other ≠ key)
    (checkpoint : TaskOutputCheckpoint) :
    (classification.reuse key checkpoint).reusedCheckpoints.find? other =
      classification.reusedCheckpoints.find? other :=
  Table.find?_set_of_ne _ _ (Ne.symm hne)

theorem preloaded_empty : TaskResumeClassification.empty.Preloaded := by
  refine ⟨fun key => ?_, fun key => rfl⟩
  simp [TaskResumeClassification.empty, Table.find?]

theorem TaskResumeClassification.Preloaded.reuse (hpreloaded : classification.Preloaded)
    (reused : Text) (checkpoint : TaskOutputCheckpoint) :
    (classification.reuse reused checkpoint).Preloaded := by
  constructor
  · intro key
    rw [mem_reuse]
    by_cases hkey : key = reused
    · rw [hkey, find?_reuse_self]
      simp
    · rw [find?_reuse_of_ne hkey, or_iff_left hkey]
      exact hpreloaded.checkpoint key
  · intro key
    by_cases hkey : key = reused
    · rw [hkey, find?_reuse_self]
      exact Table.find?_set_self _ _
    · rw [find?_reuse_of_ne hkey, ← hpreloaded.outputs key]
      exact Table.find?_set_of_ne _ _ (Ne.symm hkey)

theorem TaskResumeClassification.Preloaded.classifyEntry
    (hpreloaded : classification.Preloaded) (entry : TaskPlanEntry) :
    (Runtime.classifyEntry parentTaskRuns checkpoints force classification entry).Preloaded := by
  rcases classifyEntry_cases parentTaskRuns checkpoints force classification entry with
    ⟨checkpoint, -, -, heq⟩ | ⟨-, heq⟩
  · rw [heq]
    exact hpreloaded.reuse _ _
  · rw [heq]
    exact hpreloaded

/-- Whatever the order of the entries, only tasks with a checkpoint are reused. -/
theorem preloaded_classified (entries : List TaskPlanEntry)
    (hpreloaded : classification.Preloaded) :
    (classified parentTaskRuns checkpoints force entries classification).Preloaded := by
  induction entries generalizing classification with
  | nil => exact hpreloaded
  | cons entry rest ih => exact ih (hpreloaded.classifyEntry entry)

theorem classifiedSoFar_start :
    ClassifiedSoFar parentTaskRuns checkpoints force [] .empty :=
  ⟨preloaded_empty, by simp [TaskResumeClassification.empty], by simp, by simp⟩

/-- One more entry, whose key and dependencies are as in a plan. -/
theorem ClassifiedSoFar.next
    (hbefore : ClassifiedSoFar parentTaskRuns checkpoints force before classification)
    (hfresh : entry.key ∉ before.map TaskPlanEntry.key)
    (hfirst : ∀ other ∈ before ++ [entry], ∀ dependency ∈ other.dependencies,
      dependency ∈ before.map TaskPlanEntry.key) :
    ClassifiedSoFar parentTaskRuns checkpoints force (before ++ [entry])
      (classifyEntry parentTaskRuns checkpoints force classification entry) := by
  have hold : ∀ other ∈ before, other.key ≠ entry.key := by
    intro other hother heq
    exact hfresh (heq ▸ List.mem_map_of_mem hother)
  have hmissing : entry.key ∉ classification.reusedKeys :=
    fun hmem => hfresh (hbefore.known _ hmem)
  have hdependency : ∀ other ∈ before ++ [entry], ∀ dependency ∈ other.dependencies,
      dependency ≠ entry.key := by
    intro other hother dependency hmem heq
    exact hfresh (heq ▸ hfirst other hother dependency hmem)
  rcases classifyEntry_cases parentTaskRuns checkpoints force classification entry with
    ⟨checkpoint, hreusable, hdependencies, heq⟩ | ⟨hrefused, heq⟩
  · rw [heq]
    have hsame : ∀ other ∈ before ++ [entry],
        (∀ dependency ∈ other.dependencies,
            dependency ∈ (classification.reuse entry.key checkpoint).reusedKeys) ↔
          ∀ dependency ∈ other.dependencies, dependency ∈ classification.reusedKeys := by
      intro other hother
      apply forall₂_congr
      intro dependency hmem
      rw [mem_reuse]
      exact or_iff_left (hdependency other hother dependency hmem)
    refine ⟨hbefore.preloaded.reuse _ _, fun key hkey => ?_, fun other hother => ?_,
      fun other hother copied hcopied => ?_⟩
    · rw [List.map_append, List.mem_append]
      rcases mem_reuse.mp hkey with hmem | rfl
      · exact Or.inl (hbefore.known key hmem)
      · exact Or.inr (by simp)
    · rw [hsame other hother, mem_reuse]
      rcases List.mem_append.mp hother with hmem | hmem
      · rw [or_iff_left (hold other hmem)]
        exact hbefore.reused other hmem
      · obtain rfl := List.mem_singleton.mp hmem
        simp only [or_true, true_iff]
        exact ⟨⟨checkpoint, hreusable⟩, hdependencies⟩
    · rcases List.mem_append.mp hother with hmem | hmem
      · rw [find?_reuse_of_ne (hold other hmem)] at hcopied
        exact hbefore.copied other hmem copied hcopied
      · obtain rfl := List.mem_singleton.mp hmem
        rw [find?_reuse_self] at hcopied
        cases hcopied
        exact hreusable
  · rw [heq]
    refine ⟨hbefore.preloaded, fun key hkey => ?_, fun other hother => ?_,
      fun other hother copied hcopied => ?_⟩
    · rw [List.map_append]
      exact List.mem_append_left _ (hbefore.known key hkey)
    · rcases List.mem_append.mp hother with hmem | hmem
      · exact hbefore.reused other hmem
      · obtain rfl := List.mem_singleton.mp hmem
        constructor
        · exact fun hmem => absurd hmem hmissing
        · rintro ⟨⟨checkpoint, hreusable⟩, hdependencies⟩
          exact absurd hdependencies (hrefused checkpoint hreusable)
    · rcases List.mem_append.mp hother with hmem | hmem
      · exact hbefore.copied other hmem copied hcopied
      · obtain rfl := List.mem_singleton.mp hmem
        have hnone := mt (hbefore.preloaded.checkpoint _).mpr hmissing
        rw [hcopied] at hnone
        exact absurd (by simp) hnone

/-- The entries that follow, in the order of a plan. -/
theorem ClassifiedSoFar.rest (rest : List TaskPlanEntry) {before : List TaskPlanEntry}
    {classification : TaskResumeClassification}
    (hbefore : ClassifiedSoFar parentTaskRuns checkpoints force before classification)
    (hkeys : ((before ++ rest).map TaskPlanEntry.key).Nodup)
    (hknown : ∀ other ∈ before, ∀ dependency ∈ other.dependencies,
      dependency ∈ before.map TaskPlanEntry.key)
    (hfirst : DependenciesFirst (before.map TaskPlanEntry.key) rest) :
    ClassifiedSoFar parentTaskRuns checkpoints force (before ++ rest)
      (classified parentTaskRuns checkpoints force rest classification) := by
  induction rest generalizing before classification with
  | nil =>
      rw [List.append_nil]
      exact hbefore
  | cons entry rest ih =>
      have hfresh : entry.key ∉ before.map TaskPlanEntry.key := by
        rw [List.map_append, List.nodup_append] at hkeys
        exact fun hmem => hkeys.2.2 _ hmem _ (by simp) rfl
      have hall : ∀ other ∈ before ++ [entry], ∀ dependency ∈ other.dependencies,
          dependency ∈ before.map TaskPlanEntry.key := by
        intro other hother
        rcases List.mem_append.mp hother with hmem | hmem
        · exact hknown other hmem
        · rw [List.mem_singleton.mp hmem]
          exact hfirst.1
      rw [List.append_cons] at hkeys ⊢
      apply ih (hbefore.next hfresh hall) hkeys
      · intro other hother dependency hdependency
        rw [List.map_append]
        exact List.mem_append_left _ (hall other hother dependency hdependency)
      · rw [List.map_append]
        exact hfirst.2

/-- The classification of the tasks of a plan. -/
theorem classifiedSoFar_of_first (hkeys : (entries.map TaskPlanEntry.key).Nodup)
    (hfirst : DependenciesFirst [] entries) :
    ClassifiedSoFar parentTaskRuns checkpoints force entries
      (classified parentTaskRuns checkpoints force entries .empty) :=
  classifiedSoFar_start.rest entries hkeys (by simp) hfirst

/-- The reused tasks of a plan are the largest set of reusable tasks that has the
dependencies of its tasks. -/
theorem isGreatest_reusedKeys (hkeys : (entries.map TaskPlanEntry.key).Nodup)
    (hfirst : DependenciesFirst [] entries) :
    IsGreatest (ReusableSets parentTaskRuns checkpoints force entries)
      { key | key ∈
        (classified parentTaskRuns checkpoints force entries .empty).reusedKeys } := by
  have hclassified : ClassifiedSoFar parentTaskRuns checkpoints force entries _ :=
    classifiedSoFar_of_first hkeys hfirst
  refine ⟨⟨fun entry hentry hkey => ((hclassified.reused entry hentry).mp hkey).2,
    fun key hkey => ?_⟩, fun keys hset key hkey => ?_⟩
  · obtain ⟨entry, hentry, rfl⟩ := List.mem_map.mp (hclassified.known key hkey)
    exact ⟨entry, hentry, rfl, ((hclassified.reused entry hentry).mp hkey).1⟩
  · obtain ⟨hclosed, hreusable⟩ := hset
    obtain ⟨entry, hentry, rfl, -⟩ := hreusable key hkey
    -- A task of a closed set is reused once its dependencies are.
    have hall := hfirst.induction (fun entry => entry.key ∈ keys → entry.key ∈
        (classified parentTaskRuns checkpoints force entries .empty).reusedKeys) <| by
      intro entry hentry hdependencies hkey
      obtain ⟨other, hother, hsame, hthis⟩ := hreusable entry.key hkey
      obtain rfl := List.inj_on_of_nodup_map hkeys hother hentry hsame
      refine (hclassified.reused other hother).mpr ⟨hthis, fun dependency hdependency => ?_⟩
      obtain ⟨earlier, -, rfl, hreused⟩ := hdependencies dependency hdependency
      exact hreused (hclosed other hother hkey _ hdependency)
    exact hall entry hentry hkey

/-- Nothing that depends on a task that is not reused is reused. -/
theorem not_reused_of_transGen {keys : Set Text} (hclosed : UpstreamClosed entries keys)
    {key other : Text} (hdepends : Relation.TransGen (DependsOn entries) key other)
    (hkey : key ∉ keys) : other ∉ keys := by
  induction hdepends with
  | single hdependency =>
      obtain ⟨entry, hentry, rfl, hmem⟩ := hdependency
      exact fun hthis => hkey (hclosed entry hentry hthis _ hmem)
  | tail _ hdependency ih =>
      obtain ⟨entry, hentry, rfl, hmem⟩ := hdependency
      exact fun hthis => ih (hclosed entry hentry hthis _ hmem)

end Classified

end PyWorkflowKit.Runtime
