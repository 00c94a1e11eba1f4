import PyWorkflowKit.Core.Traces
import PyWorkflowKit.V1.Services
import PyWorkflowKit.V1.Standings

/-!
# Ledgers along a run

Surroundings that leave one run alone, what every step of a runner does to the ledger of that
run, and what holds of the ledger after any number of steps.
-/

namespace PyWorkflowKit.V1

open PyWorkflowKit.Core PyWorkflowKit.Domain

/-- Any answers, of which the new run gets this identity. -/
def names (runId : WorkflowRunId) : World → (service : Service) → Service.Answer service → Prop
  | _, .newWorkflowRunId, answer => answer = runId
  | _, _, _ => True

/-- Surroundings that may use the store but leave one run alone. -/
def apart (runId : WorkflowRunId) : Surroundings Service Service.Answer World where
  drift _ before after := SameRun runId before.store after.store
  allows := names runId

/-- Every step posts the events of its moves. -/
def posting (runId : WorkflowRunId) : Contract Service Service.Answer World where
  toSurroundings := apart runId
  guarantee before after := ∃ posted, Posts runId before.store after.store posted
  enters _ _ := True

/-- The store holds nothing of the run. -/
structure Unbegun (runId : WorkflowRunId) (store : MemoryState) : Prop where
  run : store.runStatus runId = none
  taskRuns : ∀ taskRunId, store.taskStatus runId taskRunId = none
  log : store.log runId = []

/-- The step cancels a task run of the run that is RUNNING. -/
def Abandons (runId : WorkflowRunId) (taskRunId : TaskRunId) (step : World × World) : Prop :=
  step.1.store.taskStatus runId taskRunId = some .running ∧
    step.2.store.taskStatus runId taskRunId = some .cancelled

/-- The events of the run tell the status of the run and of its task runs, but for those that
a step has cancelled while they were RUNNING. -/
structure Standing (runId : WorkflowRunId) (past : List (World × World)) (world : World) :
    Prop where
  legible : ∀ event ∈ world.store.log runId, ∃ payload, redactMapping event.payload = .ok payload
  run : RunTracks (world.store.runStatus runId)
    (Span.idle.follow ((world.store.log runId).filterMap (RuntimeEvent.runMark runId)))
  tasks : ∀ taskRunId, TaskTracks (∃ step ∈ past, Abandons runId taskRunId step)
    (world.store.taskStatus runId taskRunId)
    (Span.idle.follow ((world.store.log runId).filterMap (RuntimeEvent.taskMark taskRunId)))

section Standings

variable {runId : WorkflowRunId} {past : List (World × World)} {before after : World}

theorem SameRun.runStatus {before after : MemoryState} (hsame : SameRun runId before after) :
    after.runStatus runId = before.runStatus runId := by
  rw [MemoryState.runStatus, hsame.run, MemoryState.runStatus]

theorem SameRun.taskStatus {before after : MemoryState} (hsame : SameRun runId before after)
    (taskRunId : TaskRunId) :
    after.taskStatus runId taskRunId = before.taskStatus runId taskRunId := by
  rw [MemoryState.taskStatus, hsame.taskRuns, MemoryState.taskStatus]

theorem Standing.drift (hstanding : Standing runId past before)
    (hsame : SameRun runId before.store after.store) : Standing runId past after := by
  constructor
  · rw [hsame.log]
    exact hstanding.legible
  · rw [hsame.log, hsame.runStatus]
    exact hstanding.run
  · intro taskRunId
    rw [hsame.log, hsame.taskStatus]
    exact hstanding.tasks taskRunId

/-- What one step keeps. -/
theorem Standing.step (hstanding : Standing runId past before) {posted : List RuntimeEvent}
    (hposts : Posts runId before.store after.store posted) :
    Standing runId (past ++ [(before, after)]) after := by
  constructor
  · rw [hposts.log]
    intro event hevent
    rcases List.mem_append.mp hevent with hold | hnew
    · exact hstanding.legible event hold
    · exact hposts.legible event hnew
  · rw [hposts.log, List.filterMap_append, Span.follow_append]
    exact hposts.run.tracks hstanding.run
  · intro taskRunId
    rw [hposts.log, List.filterMap_append, Span.follow_append]
    have hmoved := (hposts.tasks taskRunId).tracks (hstanding.tasks taskRunId)
    have hsteps : (∃ step ∈ past ++ [(before, after)], Abandons runId taskRunId step) ↔
        (∃ step ∈ past, Abandons runId taskRunId step) ∨
          Abandons runId taskRunId (before, after) := by
      simp [or_and_right, exists_or]
    rw [propext hsteps]
    exact hmoved

theorem standing_of_unbegun (hunbegun : Unbegun runId before.store) :
    Standing runId [] before := by
  constructor
  · simp [hunbegun.log]
  · rw [hunbegun.log, hunbegun.run]
    rfl
  · intro taskRunId
    rw [hunbegun.log, hunbegun.taskRuns]
    exact ⟨rfl, by simp⟩

/-- What a whole run keeps. -/
theorem standing_of_runs {α : Type} {program : Procedure α}
    {post : Except Error α → World → Prop} {steps : List (World × World)}
    {result : Except Error α} (hmeets : program.Meets (posting runId) post before)
    (hruns : program.RunsThrough (apart runId) before steps result after)
    (hunbegun : Unbegun runId before.store) : Standing runId steps after :=
  @Program.RunsThrough.invariant _ _ _ _ _ _ _ _ _ _ (posting runId) _ _
    (fun _ _ _ _ hdrift hstanding => hstanding.drift hdrift)
    (fun _ _ _ hguarantee hstanding => hguarantee.elim fun _ hposts => hstanding.step hposts)
    hruns hmeets (standing_of_unbegun hunbegun)

/-- The task runs that a store holds of a run. -/
def MemoryState.taskRunIds (runId : WorkflowRunId) (store : MemoryState) : List TaskRunId :=
  (store.taskRuns.rows.filter fun taskRun => taskRun.runId = runId).map TaskRun.taskRunId

theorem MemoryState.mem_taskRunIds {store : MemoryState} {taskRunId : TaskRunId} :
    taskRunId ∈ store.taskRunIds runId ↔ store.taskStatus runId taskRunId ≠ none := by
  rw [taskStatus, ne_eq, Option.map_eq_none_iff, taskRunOf, taskRunIds, List.mem_map]
  constructor
  · rintro ⟨taskRun, hmem, rfl⟩
    obtain ⟨hrow, hof⟩ := List.mem_filter.mp hmem
    rw [store.taskRuns.find?_of_mem hrow]
    simp [of_decide_eq_true hof]
  · intro hfound
    cases hrow : store.taskRuns.find? taskRunId with
    | none => simp [hrow] at hfound
    | some taskRun =>
        obtain ⟨hmem, hid⟩ := (store.taskRuns.find?_eq_some_iff _ _).mp hrow
        refine ⟨taskRun, List.mem_filter.mpr ⟨hmem, ?_⟩, hid⟩
        rw [hrow] at hfound
        simpa using hfound

/-- Where the run has ended, the bookkeeping of a projector is balanced exactly when no step
has cancelled a task run that was RUNNING, and none is RUNNING still. -/
theorem Standing.balances_iff (hstanding : Standing runId past after)
    {projector : RuntimeTelemetryProjector}
    (hunaware : projector.Unaware runId (after.store.taskRunIds runId))
    {status : WorkflowRunStatus} (hstatus : after.store.runStatus runId = some status)
    (hterminal : status.isTerminal = true) :
    projector.Balances runId (after.store.taskRunIds runId) (after.store.log runId) ↔
      (∀ step ∈ past, ∀ taskRunId, ¬Abandons runId taskRunId step) ∧
        ∀ taskRunId, after.store.taskStatus runId taskRunId ≠ some .running := by
  have hknown : ∀ taskRunId,
      .starts ∈ (after.store.log runId).filterMap (RuntimeEvent.taskMark taskRunId) →
        taskRunId ∈ after.store.taskRunIds runId := by
    intro taskRunId hstarted
    rw [MemoryState.mem_taskRunIds]
    intro hnone
    have htracks := hstanding.tasks taskRunId
    rw [hnone] at htracks
    have hspan := (Span.started_follow Span.idle _).mpr (Or.inr hstarted)
    rw [htracks.1] at hspan
    cases hspan
  rw [RuntimeTelemetryProjector.balances_iff hunaware hstanding.legible hknown]
  have hrun := hstanding.run
  rw [hstatus] at hrun
  rw [and_iff_right (hrun.balanced hterminal)]
  constructor
  · intro hbalanced
    have hall : ∀ taskRunId, (¬∃ step ∈ past, Abandons runId taskRunId step) ∧
        after.store.taskStatus runId taskRunId ≠ some .running := by
      intro taskRunId
      rw [← (hstanding.tasks taskRunId).balanced_iff]
      by_cases hmem : taskRunId ∈ after.store.taskRunIds runId
      · exact hbalanced taskRunId hmem
      · rw [MemoryState.mem_taskRunIds, not_not] at hmem
        have htracks := hstanding.tasks taskRunId
        rw [hmem] at htracks
        rw [htracks.1]
        exact Span.balanced_idle
    exact ⟨fun step hstep taskRunId habandons => (hall taskRunId).1 ⟨step, hstep, habandons⟩,
      fun taskRunId => (hall taskRunId).2⟩
  · rintro ⟨hkept, hstopped⟩ taskRunId -
    rw [(hstanding.tasks taskRunId).balanced_iff]
    exact ⟨fun ⟨step, hstep, habandons⟩ => hkept step hstep taskRunId habandons,
      hstopped taskRunId⟩

end Standings

/-- Whatever happens, the program keeps to the ledger, and where it returns `good` holds. -/
def Keeps {α : Type} (runId : WorkflowRunId) (good : α → World → Prop) (program : Procedure α)
    (world : World) : Prop :=
  program.Meets (posting runId) (Program.Ends good fun _ _ => True) world

namespace Keeps

variable {α β : Type} {runId : WorkflowRunId} {good : α → World → Prop} {world : World}

theorem pure {value : α} (hgood : good value world) :
    Keeps runId good (Pure.pure value : Procedure α) world := hgood

theorem raise (error : Error) : Keeps runId good (.raise error : Procedure α) world := trivial

theorem ofExcept {result : Except Error α} (hgood : ∀ value, result = .ok value → good value world) :
    Keeps runId good (.ofExcept result) world := by
  cases result with
  | ok value => exact hgood value rfl
  | error error => trivial

theorem require {condition : Prop} [Decidable condition] {error : Error}
    {good : Unit → World → Prop} (hgood : condition → good () world) :
    Keeps runId good (.require condition error) world := by
  apply Program.meets_require.mpr
  exact ⟨hgood, fun _ => trivial⟩

theorem bind {middle : α → World → Prop} {good : β → World → Prop} {first : Procedure α}
    {next : α → Procedure β} (hfirst : Keeps runId middle first world)
    (hnext : ∀ value after, middle value after → Keeps runId good (next value) after) :
    Keeps runId good (first >>= next) world :=
  Program.Meets.bind hfirst hnext fun _ _ _ => trivial

/-- A first procedure that returns as `middle` says, then `next`. -/
theorem through {good : β → World → Prop} (middle : α → World → Prop) {first : Procedure α}
    {next : α → Procedure β} (hfirst : Keeps runId middle first world)
    (hnext : ∀ value after, middle value after → Keeps runId good (next value) after) :
    Keeps runId good (first >>= next) world :=
  hfirst.bind hnext

theorem mono {good' : α → World → Prop} {program : Procedure α}
    (hkeeps : Keeps runId good program world)
    (himp : ∀ value after, good value after → good' value after) :
    Keeps runId good' program world := by
  apply Program.Meets.mono hkeeps
  intro result after hresult
  cases result with
  | ok value => exact himp value after hresult
  | error error => trivial

end Keeps

end PyWorkflowKit.V1
