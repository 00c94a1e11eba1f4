import PyWorkflowKit.Core.Snapshot
import PyWorkflowKit.V1.Memory

/-!
# Overlapping units of work

Any number of units of work of one memory store.  A commit replaces the whole state of
the store, so it keeps the changes of the others exactly when it finds the store, entity
by entity, as its unit of work copied it.
-/

namespace PyWorkflowKit.V1

open PyWorkflowKit.Core PyWorkflowKit.Domain

/-- What one write call changes. -/
inductive EntityKey where
  | workflowRun (runId : WorkflowRunId)
  | taskRun (taskRunId : TaskRunId)
  | taskAttempt (attemptId : TaskAttemptId)
  | event (eventId : RuntimeEventId)
  | taskOutput (taskRunId : TaskRunId)
  | artifact (artifactId : ArtifactId)
  | externalRef (externalRefId : ExternalRunRefId)
deriving DecidableEq

inductive Entity where
  | workflowRun (run : WorkflowRun)
  | taskRun (taskRun : TaskRun)
  | taskAttempt (attempt : TaskAttempt)
  | event (event : RuntimeEvent)
  | taskOutput (output : Owned PyValue)
  | artifact (artifact : Owned ArtifactReference)
  | externalRef (externalRef : Owned ExternalRunRef)

/-- The entity that the tables hold under a key. -/
def MemoryState.entity (state : MemoryState) : EntityKey → Option Entity
  | .workflowRun runId => (state.workflowRuns.find? runId).map .workflowRun
  | .taskRun taskRunId => (state.taskRuns.find? taskRunId).map .taskRun
  | .taskAttempt attemptId => (state.taskAttempts.find? attemptId).map .taskAttempt
  | .event eventId => (state.events.find? eventId).map .event
  | .taskOutput taskRunId => (state.taskOutputs.find? taskRunId).map .taskOutput
  | .artifact artifactId => (state.artifacts.find? artifactId).map .artifact
  | .externalRef externalRefId => (state.externalRefs.find? externalRefId).map .externalRef

def WriteCall.target : WriteCall → EntityKey
  | .addWorkflowRun run | .saveWorkflowRun run => .workflowRun run.runId
  | .addTaskRun taskRun | .saveTaskRun taskRun => .taskRun taskRun.taskRunId
  | .addTaskAttempt attempt | .saveTaskAttempt attempt => .taskAttempt attempt.attemptId
  | .addEvent event => .event event.eventId
  | .addTaskOutputCheckpoint taskRunId _ => .taskOutput taskRunId
  | .addArtifact _ artifact => .artifact artifact.artifactId
  | .addExternalRunRef _ externalRef => .externalRef externalRef.externalRefId

/-- A write call that returns has assigned one row of the table of its target. -/
inductive Assigned (before : MemoryState) : EntityKey → MemoryState → Prop where
  | workflowRun (run : WorkflowRun) : Assigned before (.workflowRun run.runId)
      { before with workflowRuns := before.workflowRuns.set run }
  | taskRun (taskRun : TaskRun) : Assigned before (.taskRun taskRun.taskRunId)
      { before with taskRuns := before.taskRuns.set taskRun }
  | taskAttempt (attempt : TaskAttempt) : Assigned before (.taskAttempt attempt.attemptId)
      { before with taskAttempts := before.taskAttempts.set attempt }
  | event (event : RuntimeEvent) : Assigned before (.event event.eventId)
      { before with events := before.events.set event }
  | taskOutput (output : Owned PyValue) : Assigned before (.taskOutput output.taskRunId)
      { before with taskOutputs := before.taskOutputs.set output }
  | artifact (artifact : Owned ArtifactReference) :
      Assigned before (.artifact artifact.value.artifactId)
        { before with artifacts := before.artifacts.set artifact }
  | externalRef (externalRef : Owned ExternalRunRef) :
      Assigned before (.externalRef externalRef.value.externalRefId)
        { before with externalRefs := before.externalRefs.set externalRef }

theorem assigned_of_write {call : WriteCall} {before after : MemoryState}
    (hwrite : before.write call = .ok after) : Assigned before call.target after := by
  cases call with
  | addWorkflowRun run =>
      simp only [MemoryState.write, MemoryState.addWorkflowRun] at hwrite
      split at hwrite
      · cases hwrite
      · cases hwrite
        exact .workflowRun run
  | saveWorkflowRun run =>
      simp only [MemoryState.write, MemoryState.saveWorkflowRun] at hwrite
      split at hwrite
      · cases hwrite
        exact .workflowRun run
      · cases hwrite
  | addTaskRun taskRun =>
      simp only [MemoryState.write, MemoryState.addTaskRun] at hwrite
      split at hwrite
      · cases hwrite
      · split at hwrite
        · cases hwrite
          exact .taskRun taskRun
        · cases hwrite
  | saveTaskRun taskRun =>
      simp only [MemoryState.write, MemoryState.saveTaskRun] at hwrite
      split at hwrite
      · cases hwrite
        exact .taskRun taskRun
      · cases hwrite
  | addTaskAttempt attempt =>
      simp only [MemoryState.write, MemoryState.addTaskAttempt] at hwrite
      split at hwrite
      · cases hwrite
      · split at hwrite
        · cases hwrite
        · split at hwrite
          · cases hwrite
          · cases hwrite
            exact .taskAttempt attempt
  | saveTaskAttempt attempt =>
      simp only [MemoryState.write, MemoryState.saveTaskAttempt] at hwrite
      split at hwrite
      · cases hwrite
        exact .taskAttempt attempt
      · cases hwrite
  | addEvent event =>
      simp only [MemoryState.write, MemoryState.addEvent] at hwrite
      split at hwrite
      · cases hwrite
      · split at hwrite
        · cases hwrite
        · split at hwrite
          · cases hwrite
            exact .event event
          · cases hwrite
  | addTaskOutputCheckpoint taskRunId output =>
      simp only [MemoryState.write, MemoryState.addTaskOutputCheckpoint] at hwrite
      split at hwrite
      · cases hwrite
      · split at hwrite
        · cases hwrite
        · cases hnormalized : portableJsonValue
              ("task_output_checkpoint." ++ taskRunId.str) output with
          | error raised =>
              rw [hnormalized] at hwrite
              cases hwrite
          | ok normalized =>
              rw [hnormalized] at hwrite
              cases hwrite
              exact .taskOutput ⟨taskRunId, normalized⟩
  | addArtifact taskRunId artifact =>
      simp only [MemoryState.write, MemoryState.addArtifact] at hwrite
      split at hwrite
      · cases hwrite
      · split at hwrite
        · cases hwrite
        · cases hwrite
          exact .artifact ⟨taskRunId, artifact⟩
  | addExternalRunRef taskRunId externalRef =>
      simp only [MemoryState.write, MemoryState.addExternalRunRef] at hwrite
      split at hwrite
      · cases hwrite
      · split at hwrite
        · cases hwrite
        · cases hwrite
          exact .externalRef ⟨taskRunId, externalRef⟩

/-- A write call changes its target only. -/
theorem MemoryState.entity_write {call : WriteCall} {before after : MemoryState}
    (hwrite : before.write call = .ok after) (key : EntityKey) (hne : key ≠ call.target) :
    after.entity key = before.entity key := by
  have hassigned := assigned_of_write hwrite
  generalize call.target = target at hassigned hne
  have hother : ∀ {κ ν : Type} [DecidableEq κ] {rowKey : ν → κ} (table : Table rowKey)
      (row : ν) (wanted : κ) (wrap : ν → Entity), wanted ≠ rowKey row →
        ((table.set row).find? wanted).map wrap = (table.find? wanted).map wrap := by
    intro κ ν _ rowKey table row wanted wrap hwanted
    rw [table.find?_set_of_ne row (Ne.symm hwanted)]
  cases hassigned <;> cases key <;> first
    | rfl
    | exact hother _ _ _ _ fun heq => hne (congrArg _ heq)

/-- The memory state, read and written by entity. -/
def tracked : Keyed MemoryState EntityKey (Option Entity) WriteCall Error where
  get := MemoryState.entity
  write := fun call state => state.write call
  target := WriteCall.target
  frame := MemoryState.entity_write

/-- A memory store and its units of work. -/
structure Stores (ι : Type) where
  store : MemoryState
  units : ι → MemoryUnitOfWork

namespace Stores

variable {ι : Type} [DecidableEq ι]

/-- One call on one unit of work; a call that raises changes nothing. -/
def step (stores : Stores ι) : UnitStep ι WriteCall → Stores ι
  | .enter unit =>
      match (stores.units unit).enter stores.store with
      | .error _ => stores
      | .ok entered => { stores with units := Function.update stores.units unit entered }
  | .write unit call =>
      match (stores.units unit).write call with
      | .error _ => stores
      | .ok written => { stores with units := Function.update stores.units unit written }
  | .commit unit =>
      match (stores.units unit).commit with
      | .error _ => stores
      | .ok (state, done) => ⟨state, Function.update stores.units unit done⟩
  | .leave unit =>
      { stores with units := Function.update stores.units unit (stores.units unit).exit }

def run (store : MemoryState) (steps : List (UnitStep ι WriteCall)) : Stores ι :=
  steps.foldl step ⟨store, fun _ => none⟩

/-- What is left of the tracked units of work without their history. -/
def erase (units : Units ι MemoryState EntityKey) : Stores ι :=
  ⟨units.store, fun unit => (units.active unit).map Staged.staged⟩

theorem erase_update (active : ι → Option (Staged MemoryState EntityKey)) (unit : ι)
    (opened : Option (Staged MemoryState EntityKey)) :
    (fun other => (Function.update active unit opened other).map Staged.staged) =
      Function.update (fun other => (active other).map Staged.staged) unit
        (opened.map Staged.staged) := by
  funext other
  exact Function.apply_update (fun _ => Option.map Staged.staged) active unit opened other

/-- The tracked units of work simulate the units of work of the store. -/
theorem erase_step (units : Units ι MemoryState EntityKey) (next : UnitStep ι WriteCall) :
    erase (tracked.step units next) = (erase units).step next := by
  cases next with
  | enter unit =>
      cases hactive : units.active unit with
      | none =>
          simp only [Keyed.step, hactive, step, erase, Option.map_none,
            MemoryUnitOfWork.enter, erase_update, Option.map_some]
      | some opened =>
          simp only [Keyed.step, hactive, step, erase, Option.map_some,
            MemoryUnitOfWork.enter]
  | write unit call =>
      cases hactive : units.active unit with
      | none =>
          simp only [Keyed.step, hactive, step, erase, Option.map_none,
            MemoryUnitOfWork.write]
      | some opened =>
          have hwrites : tracked.write call opened.staged = opened.staged.write call := rfl
          cases hwrite : opened.staged.write call with
          | error raised =>
              simp only [Keyed.step, hactive, step, erase, Option.map_some,
                MemoryUnitOfWork.write, hwrites, hwrite, Except.map]
          | ok staged =>
              simp only [Keyed.step, hactive, step, erase, Option.map_some,
                MemoryUnitOfWork.write, hwrites, hwrite, Except.map, erase_update]
  | commit unit =>
      cases hactive : units.active unit with
      | none =>
          simp only [Keyed.step, hactive, step, erase, Option.map_none,
            MemoryUnitOfWork.commit]
      | some opened =>
          simp only [Keyed.step, hactive, step, erase, Option.map_some,
            MemoryUnitOfWork.commit, erase_update, Option.map_none]
  | leave unit =>
      simp only [Keyed.step, step, erase, MemoryUnitOfWork.exit, erase_update,
        Option.map_none]

theorem erase_run (store : MemoryState) (steps : List (UnitStep ι WriteCall)) :
    erase (tracked.run store steps) = run store steps := by
  induction steps using List.reverseRecOn with
  | nil => rfl
  | append_singleton steps next ih =>
      rw [Keyed.run_append, List.foldl_cons, List.foldl_nil, erase_step, ih]
      unfold run
      rw [List.foldl_append, List.foldl_cons, List.foldl_nil]

theorem store_run (store : MemoryState) (steps : List (UnitStep ι WriteCall)) :
    (run store steps).store = (tracked.run store steps).store := by
  rw [← erase_run]
  rfl

/-- A commit after these steps returns exactly when the tracked unit of work is open. -/
theorem commit_returns_iff (store : MemoryState) (steps : List (UnitStep ι WriteCall))
    (unit : ι) :
    (∃ committed, ((run store steps).units unit).commit = .ok committed) ↔
      ∃ opened, tracked.Commits store steps unit opened := by
  rw [← erase_run]
  unfold Keyed.Commits
  simp only [erase]
  cases (tracked.run store steps).active unit with
  | none => simp [MemoryUnitOfWork.commit]
  | some opened => simp [MemoryUnitOfWork.commit]

/-- The changes of the units of work that committed stay, and no other change is seen. -/
structure KeepsUpdates (store : MemoryState) (steps : List (UnitStep ι WriteCall)) : Prop where
  kept : ∀ before unit opened between after,
    steps = before ++ .commit unit :: (between ++ after) →
      tracked.Commits store before unit opened → ∀ key ∈ opened.touched,
        (run store (before ++ .commit unit :: between)).store.entity key =
          opened.staged.entity key
  traced : ∀ before after, steps = before ++ after → ∀ key,
    (run store before).store.entity key = store.entity key ∨
      ∃ earlier unit opened later, before = earlier ++ .commit unit :: later ∧
        tracked.Commits store earlier unit opened ∧ key ∈ opened.touched ∧
          (run store before).store.entity key = opened.staged.entity key

/-- Every commit finds in the store what its unit of work copied when it was entered. -/
def CommitsOnCopied (store : MemoryState) (steps : List (UnitStep ι WriteCall)) : Prop :=
  ∀ before unit opened after, steps = before ++ .commit unit :: after →
    tracked.Commits store before unit opened →
      ∀ key, (run store before).store.entity key = opened.copied.entity key

/-- Of units of work that write different entities, no change is lost exactly when every
commit finds the store as its unit of work copied it. -/
theorem keepsUpdates_iff (store : MemoryState) (steps : List (UnitStep ι WriteCall))
    (hapart : tracked.Apart store steps) :
    KeepsUpdates store steps ↔ CommitsOnCopied store steps := by
  have hcopied : CommitsOnCopied store steps ↔ tracked.Undisturbed store steps := by
    unfold CommitsOnCopied Keyed.Undisturbed
    simp only [store_run]
    rfl
  have hkeeps : KeepsUpdates store steps ↔ tracked.KeepsUpdates store steps := by
    constructor
    · rintro ⟨hkept, htraced⟩
      simp only [store_run] at hkept htraced
      exact ⟨hkept, htraced⟩
    · rintro ⟨hkept, htraced⟩
      constructor
      · simp only [store_run]
        exact hkept
      · simp only [store_run]
        exact htraced
  rw [hkeeps, hcopied]
  exact Keyed.keepsUpdates_iff_undisturbed hapart

end Stores

section Overlap

/-- A new run under a name. -/
def newRun (name : String) (hname : isBlank name = false) : WorkflowRun where
  runId := ⟨⟨name, hname⟩⟩
  workflowId := .lit "daily"
  workflowVersion := .lit "1"
  status := .pending
  parameters := []
  createdAt := none
  startedAt := none
  finishedAt := none
  fits := WorkflowRunStatus.fits_pending

/-- One unit of work after the other, each with a run of its own. -/
def inTurn : List (UnitStep Bool WriteCall) :=
  [.enter false, .write false (.addWorkflowRun (newRun "run-a" (by decide))), .commit false,
    .enter true, .write true (.addWorkflowRun (newRun "run-b" (by decide))), .commit true]

theorem inTurn_keepsUpdates_iff :
    Stores.KeepsUpdates .empty inTurn ↔ Stores.CommitsOnCopied .empty inTurn := by
  apply Stores.keepsUpdates_iff
  unfold Keyed.Apart
  decide +kernel

/-- The same, but both units of work are entered before either commits. -/
def overlapping : List (UnitStep Bool WriteCall) :=
  [.enter false, .enter true,
    .write false (.addWorkflowRun (newRun "run-a" (by decide))),
    .write true (.addWorkflowRun (newRun "run-b" (by decide))),
    .commit false, .commit true]

/-- Both commits return, but the first run is not in the store afterwards. -/
theorem overlapping_loses :
    tracked.Apart .empty overlapping ∧ ¬ Stores.KeepsUpdates .empty overlapping := by
  constructor
  · unfold Keyed.Apart
    decide +kernel
  · intro hkeeps
    have hkept := hkeeps.kept (overlapping.take 4) false
      ⟨.empty, { MemoryState.empty with
        workflowRuns := Table.empty.set (newRun "run-a" (by decide)) },
        [.workflowRun (newRun "run-a" (by decide)).runId]⟩
      [.commit true] [] rfl (by rfl) _ List.mem_cons_self
    have hlost : (Stores.run .empty overlapping).store.entity
        (.workflowRun (newRun "run-a" (by decide)).runId) = none := by decide +kernel
    cases hkept.symm.trans hlost

end Overlap

end PyWorkflowKit.V1
