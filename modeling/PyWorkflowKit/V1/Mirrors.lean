import PyWorkflowKit.V1.LedgerRuns
import PyWorkflowKit.V1.Runner

/-!
# The task runs that a runner knows

A runner keeps its run and its task runs beside the store.  They are at every moment as the
store holds them, so what a runner saves is a move of what the store holds.
-/

namespace PyWorkflowKit.V1

open PyWorkflowKit.Core PyWorkflowKit.Domain

section Transitions

/-- The task runs agree in what no transition changes. -/
structure TaskRun.Same (left right : TaskRun) : Prop where
  taskRunId : right.taskRunId = left.taskRunId
  runId : right.runId = left.runId
  taskId : right.taskId = left.taskId

variable {taskRun moved : TaskRun} {at_ : DateTime}

theorem TaskRun.markReady_eq_ok (hmoved : taskRun.markReady = .ok moved) :
    taskRun.Same moved ∧ taskRun.status = .pending ∧ moved.status = .ready := by
  unfold TaskRun.markReady at hmoved
  split at hmoved
  · next hpending =>
    cases hmoved
    exact ⟨⟨rfl, rfl, rfl⟩, hpending, rfl⟩
  · cases hmoved

theorem TaskRun.start_eq_ok (hmoved : taskRun.start at_ = .ok moved) :
    taskRun.Same moved ∧ taskRun.status = .ready ∧ moved.status = .running := by
  unfold TaskRun.start at hmoved
  split at hmoved
  · next hready =>
    cases hmoved
    exact ⟨⟨rfl, rfl, rfl⟩, hready, rfl⟩
  · cases hmoved

theorem TaskRun.finish_eq_ok {target : TaskRunStatus} {hterminal : target.isTerminal = true}
    {hskipped : target ≠ .skipped}
    (hmoved : taskRun.finish target hterminal hskipped at_ = .ok moved) :
    taskRun.Same moved ∧ taskRun.status = .running ∧ moved.status = target := by
  unfold TaskRun.finish at hmoved
  split at hmoved
  · next hrunning =>
    cases hmoved
    exact ⟨⟨rfl, rfl, rfl⟩, hrunning, rfl⟩
  · cases hmoved

theorem TaskRun.skip_eq_ok {reason : SkipReason} (hmoved : taskRun.skip reason at_ = .ok moved) :
    taskRun.Same moved ∧ (taskRun.status = .pending ∨ taskRun.status = .ready) ∧
      moved.status = .skipped := by
  unfold TaskRun.skip at hmoved
  split at hmoved
  · next hwaits =>
    cases hmoved
    exact ⟨⟨rfl, rfl, rfl⟩, hwaits, rfl⟩
  · cases hmoved

theorem TaskRun.cancel_eq_ok (hmoved : taskRun.cancel at_ = .ok moved) :
    taskRun.Same moved ∧
      (taskRun.status = .pending ∨ taskRun.status = .ready ∨ taskRun.status = .running) ∧
      moved.status = .cancelled := by
  unfold TaskRun.cancel at hmoved
  split at hmoved
  · next hopen =>
    cases hmoved
    exact ⟨⟨rfl, rfl, rfl⟩, hopen, rfl⟩
  · cases hmoved

/-- A cancellation posts nothing, whatever the task run was doing. -/
theorem TaskRun.cancel_move (hmoved : taskRun.cancel at_ = .ok moved) :
    TaskMove (some taskRun.status) [] (some moved.status) := by
  obtain ⟨-, hopen, hstatus⟩ := TaskRun.cancel_eq_ok hmoved
  rw [hstatus]
  rcases hopen with hpending | hready | hrunning
  · rw [hpending]
    exact .withdrawn (Or.inl rfl)
  · rw [hready]
    exact .withdrawn (Or.inr rfl)
  · rw [hrunning]
    exact .abandoned

theorem WorkflowRun.finish_eq_ok {run moved : WorkflowRun} {target : WorkflowRunStatus}
    {hterminal : target.isTerminal = true} (hmoved : run.finish target hterminal at_ = .ok moved) :
    moved.runId = run.runId ∧ run.status = .running ∧ moved.status = target := by
  unfold WorkflowRun.finish at hmoved
  split at hmoved
  · next hrunning =>
    cases hmoved
    exact ⟨rfl, hrunning, rfl⟩
  · cases hmoved

end Transitions

/-- The run and the task runs are what the store holds of them. -/
structure Mirrors (runId : WorkflowRunId) (run : WorkflowRun) (taskRuns : TaskRuns)
    (store : MemoryState) : Prop where
  run : store.workflowRuns.find? runId = some run
  rows : ∀ taskRun ∈ taskRuns.rows, store.taskRunOf runId taskRun.taskRunId = some taskRun

/-- A task run that is kept under the identities of a known one. -/
def Replaces (taskRuns : TaskRuns) (saved : TaskRun) : Prop :=
  ∃ known ∈ taskRuns.rows, known.Same saved

namespace Mirrors

variable {runId : WorkflowRunId} {run : WorkflowRun} {taskRuns : TaskRuns}
  {before after : MemoryState} {calls : List WriteCall}

theorem drift (hmirrors : Mirrors runId run taskRuns before)
    (hsame : SameRun runId before after) : Mirrors runId run taskRuns after := by
  constructor
  · rw [hsame.run]
    exact hmirrors.run
  · intro taskRun hmem
    rw [hsame.taskRuns]
    exact hmirrors.rows taskRun hmem

theorem runId_eq (hmirrors : Mirrors runId run taskRuns before) : run.runId = runId :=
  Table.key_of_find? hmirrors.run

theorem runId_of_mem (hmirrors : Mirrors runId run taskRuns before) {taskRun : TaskRun}
    (hmem : taskRun ∈ taskRuns.rows) : taskRun.runId = runId := by
  have hfound := hmirrors.rows taskRun hmem
  rw [MemoryState.taskRunOf, Option.filter_eq_some_iff] at hfound
  exact of_decide_eq_true hfound.2

theorem eq_of_taskRunId (hmirrors : Mirrors runId run taskRuns before) {left right : TaskRun}
    (hleft : left ∈ taskRuns.rows) (hright : right ∈ taskRuns.rows)
    (hid : left.taskRunId = right.taskRunId) : left = right := by
  have hfound := hmirrors.rows left hleft
  rw [hid, hmirrors.rows right hright] at hfound
  exact (Option.some.inj hfound).symm

/-- Distinct tasks have distinct task runs. -/
theorem nodup_taskRunIds (hmirrors : Mirrors runId run taskRuns before) {saved : List TaskRun}
    (hreplaces : ∀ taskRun ∈ saved, Replaces taskRuns taskRun)
    (hnodup : (saved.map TaskRun.taskId).Nodup) : (saved.map TaskRun.taskRunId).Nodup := by
  apply hnodup.of_map.map_on
  intro left hleft right hright hid
  obtain ⟨first, hfirst, hsame⟩ := hreplaces left hleft
  obtain ⟨second, hsecond, hsame'⟩ := hreplaces right hright
  have heq := hmirrors.eq_of_taskRunId hfirst hsecond
    (by rw [← hsame.taskRunId, ← hsame'.taskRunId, hid])
  subst heq
  exact List.inj_on_of_nodup_map hnodup hleft hright (by rw [hsame.taskId, hsame'.taskId])

/-- Task runs that are saved in the place of known ones are known from then on. -/
theorem save (hmirrors : Mirrors runId run taskRuns before) {moved : WorkflowRun}
    (hsettles : Settles calls before after) (hrun : after.workflowRuns.find? runId = some moved)
    (hreplaces : ∀ taskRun ∈ calls.filterMap WriteCall.taskRun?, Replaces taskRuns taskRun)
    (hnodup : ((calls.filterMap WriteCall.taskRun?).map TaskRun.taskId).Nodup) :
    Mirrors runId moved ((calls.filterMap WriteCall.taskRun?).foldl Table.set taskRuns) after := by
  refine ⟨hrun, fun taskRun hmem => ?_⟩
  rcases (Table.mem_foldl_set hnodup taskRuns taskRun).mp hmem with hsaved | ⟨hkept, hother⟩
  · obtain ⟨known, hknown, hsame⟩ := hreplaces taskRun hsaved
    apply hsettles.taskRunOf (hmirrors.nodup_taskRunIds hreplaces hnodup) hsaved
    rw [hsame.runId, hmirrors.runId_of_mem hknown]
  · rw [hsettles.taskRunOf_of_notMem]
    · exact hmirrors.rows taskRun hkept
    · intro hid
      obtain ⟨saved, hsaved, hid⟩ := List.mem_map.mp hid
      obtain ⟨known, hknown, hsame⟩ := hreplaces saved hsaved
      have heq := hmirrors.eq_of_taskRunId hknown hkept (by rw [← hsame.taskRunId, hid])
      subst heq
      exact hother (List.mem_map.mpr ⟨saved, hsaved, hsame.taskId⟩)

theorem run_of_nil (hmirrors : Mirrors runId run taskRuns before)
    (hsettles : Settles calls before after)
    (hruns : calls.filterMap WriteCall.workflowRun? = []) :
    after.workflowRuns.find? runId = some run := by
  rw [hsettles.workflowRun_of_nil hruns]
  exact hmirrors.run

end Mirrors

section Rules

variable {α : Type} {runId : WorkflowRunId} {run : WorkflowRun} {taskRuns : TaskRuns}
  {world : World} {calls : List WriteCall}

/-- What the runner knows is what the store of the world holds. -/
abbrev Knows (runId : WorkflowRunId) (run : WorkflowRun) (taskRuns : TaskRuns) (world : World) :
    Prop :=
  Mirrors runId run taskRuns world.store

/-- A call of a service, and then the rest. -/
theorem keeps_ask_bind {service : Service} {next : Service.Answer service → Procedure α}
    {good : α → World → Prop} (hknows : Knows runId run taskRuns world)
    (hnext : ∀ answer after, Knows runId run taskRuns after →
      Keeps runId good (next answer) after) :
    Keeps runId good (Program.ask service >>= next) world := by
  apply Keeps.through (fun _ after => Knows runId run taskRuns after)
  · exact ⟨trivial, fun drifted hdrift answer _ => hknows.drift hdrift⟩
  · exact hnext

/-- A result without effect, and then the rest. -/
theorem keeps_ofExcept_bind {β : Type} {result : Except Error β} {next : β → Procedure α}
    {good : α → World → Prop}
    (hnext : ∀ value, result = .ok value → Keeps runId good (next value) world) :
    Keeps runId good (Program.ofExcept result >>= next) world := by
  apply Keeps.through (fun value after => result = .ok value ∧ after = world)
  · exact Keeps.ofExcept fun value hvalue => ⟨hvalue, rfl⟩
  · rintro value after ⟨hvalue, rfl⟩
    exact hnext value hvalue

theorem keeps_require_bind {condition : Prop} [Decidable condition] {error : Error}
    {next : Unit → Procedure α} {good : α → World → Prop}
    (hnext : condition → Keeps runId good (next ()) world) :
    Keeps runId good (Program.require condition error >>= next) world := by
  apply Keeps.through (fun _ after => condition ∧ after = world)
  · exact Keeps.require fun hcondition => ⟨hcondition, rfl⟩
  · rintro _ after ⟨hcondition, rfl⟩
    exact hnext hcondition

theorem keeps_query {read : MemoryState → Except Error α} {good : α → World → Prop}
    (hread : ∀ (drifted : World) value, SameRun runId world.store drifted.store →
      read drifted.store = .ok value → good value drifted) :
    Keeps runId good (query read) world := by
  intro drifted hdrift
  refine ⟨⟨[], Posts.refl runId _⟩, ?_⟩
  cases hvalue : read drifted.store with
  | ok value =>
      change Program.Ends good _ (read drifted.store) drifted
      rw [hvalue]
      exact hread drifted value hdrift hvalue
  | error error =>
      change Program.Ends good _ (read drifted.store) drifted
      rw [hvalue]
      trivial

/-- A unit of work; one that raises changes nothing. -/
theorem keeps_commit {good : Unit → World → Prop}
    (hwrites : ∀ (drifted : World) (after : MemoryState),
      SameRun runId world.store drifted.store → drifted.store.unitOfWork calls = .ok after →
        (∃ posted, Posts runId drifted.store after posted) ∧
          good () { drifted with store := after }) :
    Keeps runId good (commit calls) world := by
  intro drifted hdrift
  cases hwritten : drifted.store.unitOfWork calls with
  | error error =>
      simp only [hwritten]
      exact ⟨⟨[], Posts.refl runId _⟩, trivial⟩
  | ok after =>
      simp only [hwritten]
      exact hwrites drifted after hdrift hwritten

/-- A unit of work that moves one known task run. -/
theorem keeps_commit_task (calls : List WriteCall) {taskRun moved : TaskRun}
    (hknows : Knows runId run taskRuns world)
    (hmem : taskRun ∈ taskRuns.rows) (hsame : taskRun.Same moved)
    (hruns : calls.filterMap WriteCall.workflowRun? = [])
    (hsaved : calls.filterMap WriteCall.taskRun? = [moved])
    (hconcerns : ∀ event ∈ calls.filterMap WriteCall.event?,
      Concerns runId taskRun.taskRunId event)
    (hmove : TaskMove (some taskRun.status)
      ((calls.filterMap WriteCall.event?).filterMap fun event => event.eventType.taskMark)
      (some moved.status)) :
    Keeps runId (fun _ after => Knows runId run (taskRuns.set moved) after) (commit calls)
      world := by
  apply keeps_commit
  intro drifted after hdrift hwritten
  have hmirrors := hknows.drift hdrift
  have hsettles := settles_of_unitOfWork hwritten
  have hof : moved.runId = runId := by rw [hsame.runId, hmirrors.runId_of_mem hmem]
  refine ⟨⟨_, hsettles.posts_task hruns hsaved (hmirrors.rows taskRun hmem) hsame.taskRunId hof
    hconcerns hmove⟩, ?_⟩
  have hkept := hmirrors.save hsettles (hmirrors.run_of_nil hsettles hruns)
  rw [hsaved] at hkept
  apply hkept
  · intro saved hsavedMem
    rw [List.mem_singleton.mp hsavedMem]
    exact ⟨taskRun, hmem, hsame⟩
  · exact List.nodup_singleton _

/-- A unit of work that moves no status. -/
theorem keeps_commit_nothing (hknows : Knows runId run taskRuns world)
    (hruns : calls.filterMap WriteCall.workflowRun? = [])
    (hsaved : calls.filterMap WriteCall.taskRun? = [])
    (hlegible : ∀ event ∈ calls.filterMap WriteCall.event?, Legible runId event ∧
      event.eventType.runMark = none ∧ event.eventType.taskMark = none) :
    Keeps runId (fun _ after => Knows runId run taskRuns after) (commit calls) world := by
  apply keeps_commit
  intro drifted after hdrift hwritten
  have hmirrors := hknows.drift hdrift
  have hsettles := settles_of_unitOfWork hwritten
  refine ⟨⟨_, hsettles.posts_nothing hruns hsaved hlegible⟩, ?_⟩
  have hkept := hmirrors.save hsettles (hmirrors.run_of_nil hsettles hruns)
  rw [hsaved] at hkept
  exact hkept (by simp) List.nodup_nil

/-- A unit of work that moves the run with its event. -/
theorem keeps_commit_run {moved : WorkflowRun} {event : RuntimeEvent}
    (hknows : Knows runId run taskRuns world) (hid : moved.runId = run.runId)
    (hlegible : Legible runId event) (hworkflow : event.taskRunId = none)
    (hmove : RunMove (some run.status) event.eventType.runMark.toList (some moved.status)) :
    Keeps runId (fun _ after => Knows runId moved taskRuns after)
      (commit [.saveWorkflowRun moved, .addEvent event]) world := by
  apply keeps_commit
  intro drifted after hdrift hwritten
  have hmirrors := hknows.drift hdrift
  have hsettles := settles_of_unitOfWork hwritten
  have hmovedId : moved.runId = runId := by rw [hid, hmirrors.runId_eq]
  refine ⟨⟨_, hsettles.posts_run rfl rfl hmirrors.run hmovedId rfl hlegible hworkflow hmove⟩, ?_⟩
  apply hmirrors.save hsettles
  · rw [hsettles.workflowRuns, ← hmovedId]
    exact Table.find?_set_self _ _
  · simp [WriteCall.taskRun?]
  · exact List.nodup_nil

end Rules

section Events

variable {runId : WorkflowRunId} {run : WorkflowRun} {taskRuns : TaskRuns} {world : World}
  {eventType : RuntimeEventType} {payload : Objects}

/-- An event of this type about a task run. -/
structure TellsTask (runId : WorkflowRunId) (eventType : RuntimeEventType) (taskRun : TaskRun)
    (event : RuntimeEvent) : Prop extends Legible runId event where
  eventType : event.eventType = eventType
  taskRunId : event.taskRunId = some taskRun.taskRunId

/-- An event of this type about a run. -/
structure TellsRun (runId : WorkflowRunId) (eventType : RuntimeEventType)
    (event : RuntimeEvent) : Prop extends Legible runId event where
  eventType : event.eventType = eventType
  taskRunId : event.taskRunId = none

theorem TellsTask.concerns {taskRun : TaskRun} {event : RuntimeEvent}
    (htells : TellsTask runId eventType taskRun event) (hmark : eventType.runMark = none) :
    Concerns runId taskRun.taskRunId event :=
  ⟨htells.toLegible, htells.taskRunId, by rw [htells.eventType, hmark]⟩

/-- The payload of an event that a runner makes: plain values under its keys. -/
def Plain (payload : Objects) : Prop := ∀ member ∈ payload, TextKeys member.2

theorem keeps_createTaskEvent (eventType : RuntimeEventType)
    (hknows : Knows runId run taskRuns world) (last : Nat)
    (occurredAt : DateTime) (taskRun : TaskRun) (attempt : Option TaskAttempt)
    (hplain : Plain payload) :
    Keeps runId (fun event after => TellsTask runId eventType taskRun event ∧
        Knows runId run taskRuns after)
      (createTaskEvent run.runId last eventType occurredAt taskRun attempt payload) world := by
  apply keeps_ask_bind hknows
  intro eventId after hknows
  apply Keeps.pure
  exact ⟨⟨⟨hknows.runId_eq, exists_redactMapping hplain⟩, rfl, rfl⟩, hknows⟩

theorem keeps_createWorkflowEvent (eventType : RuntimeEventType)
    (hknows : Knows runId run taskRuns world) (last : Nat)
    (occurredAt : DateTime) (hplain : Plain payload) :
    Keeps runId (fun event after => TellsRun runId eventType event ∧
        Knows runId run taskRuns after)
      (createWorkflowEvent run.runId last eventType occurredAt payload) world := by
  apply keeps_ask_bind hknows
  intro eventId after hknows
  apply Keeps.pure
  exact ⟨⟨⟨hknows.runId_eq, exists_redactMapping hplain⟩, rfl, rfl⟩, hknows⟩

end Events

end PyWorkflowKit.V1
