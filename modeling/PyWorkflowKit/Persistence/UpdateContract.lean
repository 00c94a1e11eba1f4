import PyWorkflowKit.Persistence.History

/-!
# The contract of a store call

A call either fails without a trace or keeps the creation-time fields of every
stored entity.  The updates of the in-memory store break it in two ways: the new
row is stored before its transition record is validated, and the check of a
workflow run's identity leaves out the run it resumes.
-/

namespace PyWorkflowKit.Persistence

open PyWorkflowKit.Core PyWorkflowKit.Domain PyWorkflowKit.States

/-- Two versions of a workflow run agree on every creation-time field. -/
def SameOrigin (current candidate : WorkflowRun) : Prop :=
  current.SameIdentity candidate ∧ current.resumeOfRunId = candidate.resumeOfRunId

/-- Every stored entity is still stored, with its creation-time fields. -/
structure IdentityKept (before after : MemoryState) : Prop where
  workflowRuns : ∀ runId run, before.workflowRuns.find? runId = some run →
    ∃ next, after.workflowRuns.find? runId = some next ∧ SameOrigin run next
  taskRuns : ∀ taskRunId taskRun, before.taskRuns.find? taskRunId = some taskRun →
    ∃ next, after.taskRuns.find? taskRunId = some next ∧ taskRun.SameIdentity next
  taskAttempts : ∀ attemptId attempt, before.taskAttempts.find? attemptId = some attempt →
    ∃ next, after.taskAttempts.find? attemptId = some next ∧ attempt.SameIdentity next

/-- What the contract asks of how a call ends. -/
def EndsWell {α : Type} (state : MemoryState) : Except PyError α × MemoryState → Prop
  | (.error _, after) => after = state
  | (.ok _, after) => IdentityKept state after

/-- The contract of a call at a state. -/
def StoreOp.KeepsContract (op : StoreOp) (state : MemoryState) : Prop :=
  EndsWell state ((Memory.perform op).run state)

/-- A change of status comes with no time that lacks a time zone. -/
def ChangesAware {S : Type} (expected next : S) (transitionedAt : Option Timestamp) : Prop :=
  expected ≠ next → TimezoneAware transitionedAt

/-- The calls that keep the contract: an update that passes the checks changes
no status at a naive time, and an accepted one leaves `resume_of_run_id`. -/
def StoreOp.Sound (state : MemoryState) : StoreOp → Prop
  | .updateWorkflowRun run expected transitionedAt =>
      ∀ current, state.workflowRuns.find? run.runId = some current →
        current.status = expected → current.SameIdentity run →
        ChangesAware expected run.status transitionedAt ∧
          ((expected ≠ run.status ∧ transitionedAt = none) ∨
            current.resumeOfRunId = run.resumeOfRunId)
  | .updateTaskRun taskRun expected transitionedAt =>
      ∀ current, state.taskRuns.find? taskRun.taskRunId = some current →
        current.status = expected → current.SameIdentity taskRun →
        ChangesAware expected taskRun.status transitionedAt
  | .updateTaskAttempt attempt expected transitionedAt =>
      ∀ current, state.taskAttempts.find? attempt.attemptId = some current →
        current.status = expected → current.SameIdentity attempt →
        ChangesAware expected attempt.status transitionedAt
  | _ => True

section Identity

variable {before after : MemoryState}

theorem sameOrigin_refl (run : WorkflowRun) : SameOrigin run run :=
  ⟨⟨rfl, rfl, rfl, rfl, rfl, rfl, rfl⟩, rfl⟩

/-- An entity that is where it was has kept its identity. -/
theorem kept_of_find? {κ ν : Type} [DecidableEq κ] {key : ν → κ} {table next : Table key}
    {same : ν → ν → Prop} (hrefl : ∀ row, same row row)
    (hfind : ∀ wanted, table.find? wanted ≠ none → next.find? wanted = table.find? wanted)
    (wanted : κ) (row : ν) (hrow : table.find? wanted = some row) :
    ∃ other, next.find? wanted = some other ∧ same row other :=
  ⟨row, (hfind wanted (by simp [hrow])).trans hrow, hrefl row⟩

/-- A row that is replaced keeps the identity if the two versions agree on it. -/
theorem kept_set_iff {κ ν : Type} [DecidableEq κ] {key : ν → κ} {table : Table key}
    (same : ν → ν → Prop) (hrefl : ∀ row, same row row) {current row : ν}
    (hfound : table.find? (key row) = some current) :
    (∀ wanted stored, table.find? wanted = some stored →
      ∃ other, (table.set row).find? wanted = some other ∧ same stored other) ↔
      same current row := by
  constructor
  · intro hkept
    obtain ⟨other, hother, hsame⟩ := hkept _ _ hfound
    rw [Table.find?_set_self] at hother
    cases hother
    exact hsame
  · intro hsame wanted stored hstored
    by_cases hkey : key row = wanted
    · subst hkey
      cases hfound.symm.trans hstored
      exact ⟨row, Table.find?_set_self table row, hsame⟩
    · exact ⟨stored, (Table.find?_set_of_ne table row hkey).trans hstored, hrefl stored⟩

theorem IdentityKept.refl (state : MemoryState) : IdentityKept state state where
  workflowRuns := kept_of_find? sameOrigin_refl fun _ _ => rfl
  taskRuns := kept_of_find? TaskRun.sameIdentity_refl fun _ _ => rfl
  taskAttempts := kept_of_find? TaskAttempt.sameIdentity_refl fun _ _ => rfl

/-- Replacing a workflow run keeps the identities exactly if it keeps its own. -/
theorem identityKept_withWorkflowRun_iff {state : MemoryState} {current run : WorkflowRun}
    (hfound : state.workflowRuns.find? run.runId = some current) :
    IdentityKept state (state.withWorkflowRun run) ↔ SameOrigin current run := by
  rw [← kept_set_iff SameOrigin sameOrigin_refl hfound]
  constructor
  · intro hkept
    exact hkept.workflowRuns
  · intro hruns
    exact { IdentityKept.refl state with workflowRuns := hruns }

theorem identityKept_withTaskRun {state : MemoryState} {current taskRun : TaskRun}
    (hfound : state.taskRuns.find? taskRun.taskRunId = some current)
    (hidentity : current.SameIdentity taskRun) :
    IdentityKept state (state.withTaskRun taskRun) :=
  { IdentityKept.refl state with
    taskRuns := (kept_set_iff _ TaskRun.sameIdentity_refl hfound).mpr hidentity }

theorem identityKept_withTaskAttempt {state : MemoryState} {current attempt : TaskAttempt}
    (hfound : state.taskAttempts.find? attempt.attemptId = some current)
    (hidentity : current.SameIdentity attempt) :
    IdentityKept state (state.withTaskAttempt attempt) :=
  { IdentityKept.refl state with
    taskAttempts := (kept_set_iff _ TaskAttempt.sameIdentity_refl hfound).mpr hidentity }

/-- A row under a new key leaves the others where they were. -/
theorem find?_set_of_absent {κ ν : Type} [DecidableEq κ] {key : ν → κ} {table : Table key}
    {row : ν} (habsent : table.find? (key row) = none) (wanted : κ)
    (hpresent : table.find? wanted ≠ none) :
    (table.set row).find? wanted = table.find? wanted := by
  apply Table.find?_set_of_ne
  rintro rfl
  exact hpresent habsent

/-- A transition record touches no entity. -/
theorem identityKept_withTransition_iff (entityType : StateEntityType) (entityId : Text)
    (fromStatus : Option Text) (toStatus : Text) (occurredAt : Instant) :
    IdentityKept before
        (after.withTransition entityType entityId fromStatus toStatus occurredAt) ↔
      IdentityKept before after :=
  ⟨fun hkept => ⟨hkept.1, hkept.2, hkept.3⟩, fun hkept => ⟨hkept.1, hkept.2, hkept.3⟩⟩

end Identity

section Calls

variable {state : MemoryState}

theorem endsWell_of_error {α : Type} {action : MemoryAction α}
    (hrun : ∃ error, action.run state = (.error error, state)) :
    EndsWell state (action.run state) := by
  obtain ⟨error, herror⟩ := hrun
  rw [herror]
  rfl

theorem endsWell_of_ok {α : Type} {action : MemoryAction α} {value : α} {after : MemoryState}
    (hrun : action.run state = (.ok value, after)) (hkept : IdentityKept state after) :
    EndsWell state (action.run state) := by
  rw [hrun]
  exact hkept

/-- The value that a call returns does not matter. -/
theorem endsWell_converted_iff {α β : Type} (action : MemoryAction α) (f : α → β) :
    EndsWell state ((do return f (← action) : MemoryAction β).run state) ↔
      EndsWell state (action.run state) := by
  change EndsWell state ((action >>= fun value => pure (f value)).run state) ↔ _
  rw [Action.run_bind]
  cases (action.run state) with
  | mk result after => cases result <;> rfl

/-- A read keeps the contract. -/
theorem endsWell_of_unchanged {α : Type} {action : MemoryAction α}
    (hrun : (action.run state).2 = state) : EndsWell state (action.run state) := by
  cases hresult : action.run state with
  | mk result after =>
      rw [hresult] at hrun
      cases hrun
      cases result with
      | error error => rfl
      | ok value => exact IdentityKept.refl after

open Memory in
/-- An update keeps the contract exactly if, once past the checks, it changes no
status at a naive time and the row it stores keeps its identity. -/
theorem endsWell_checkedUpdate_iff {α S : Type} [DecidableEq S] {fetch : MemoryAction α}
    {status : α → S} {expected next : S} {conflict : α → PyError} {identity : α → Prop}
    [DecidablePred identity] {mismatch : PyError} {put : MemoryState → MemoryState}
    {entityType : StateEntityType} {entityId : Text} {text : S → Text}
    {transitionedAt : Option Timestamp}
    (hfetch : (∃ current, fetch.run state = (.ok current, state)) ∨
      ∃ error, fetch.run state = (.error error, state))
    (hputs : ∀ current, PassesChecks fetch status expected identity state current →
      expected ≠ next → put state ≠ state) :
    EndsWell state ((checkedUpdate fetch status expected next conflict identity mismatch put
        entityType entityId text transitionedAt).run state) ↔
      ∀ current, PassesChecks fetch status expected identity state current →
        ChangesAware expected next transitionedAt ∧
          ((expected ≠ next ∧ transitionedAt = none) ∨ IdentityKept state (put state)) := by
  by_cases hpasses : ∃ current, PassesChecks fetch status expected identity state current
  · obtain ⟨current, hcurrent⟩ := hpasses
    have hforall : ∀ property : Prop, (∀ current,
        PassesChecks fetch status expected identity state current → property) ↔ property :=
      fun property => ⟨fun hproperty => hproperty current hcurrent,
        fun hproperty _ _ => hproperty⟩
    rw [hforall, run_checkedUpdate next conflict mismatch put entityType entityId text
      transitionedAt hcurrent]
    unfold ChangesAware TimezoneAware
    by_cases hnext : expected = next
    · rw [if_pos hnext]
      simp [hnext, EndsWell]
    · rw [if_neg hnext]
      match transitionedAt with
      | none => simp [hnext, EndsWell]
      | some .naive => simp [hnext, EndsWell, hputs current hcurrent hnext]
      | some (.aware at_) => simp [hnext, EndsWell, identityKept_withTransition_iff]
  · constructor
    · intro _ current hcurrent
      exact absurd ⟨current, hcurrent⟩ hpasses
    · intro _
      exact endsWell_of_error (run_checkedUpdate_of_not _ _ _ _ _ _ _ _ hfetch
        fun current hcurrent => hpasses ⟨current, hcurrent⟩)

open Memory in
theorem endsWell_updateWorkflowRun_iff (run : WorkflowRun) (expected : WorkflowRunStatus)
    (transitionedAt : Option Timestamp) :
    EndsWell state ((updateWorkflowRun run expected transitionedAt).run state) ↔
      (StoreOp.updateWorkflowRun run expected transitionedAt).Sound state := by
  have hputs : ∀ current, PassesChecks (getWorkflowRun run.runId) WorkflowRun.status expected
      (fun current => current.SameIdentity run) state current →
      expected ≠ run.status → state.withWorkflowRun run ≠ state := by
    intro current hpasses hstatus hsame
    have hfound := find?_of_run_getWorkflowRun hpasses.1
    have hset : (state.withWorkflowRun run).workflowRuns.find? run.runId = some run :=
      Table.find?_set_self _ run
    rw [hsame, hfound] at hset
    cases hset
    exact hstatus hpasses.2.1.symm
  rw [updateWorkflowRun_eq, endsWell_checkedUpdate_iff (fetch_getWorkflowRun _ _) hputs]
  constructor
  · intro hsound current hfound hstatus hidentity
    rw [← identityKept_withWorkflowRun_iff hfound |>.trans (and_iff_right hidentity)]
    exact hsound current ⟨run_getWorkflowRun hfound, hstatus, hidentity⟩
  · intro hsound current hpasses
    have hfound := find?_of_run_getWorkflowRun hpasses.1
    rw [identityKept_withWorkflowRun_iff hfound |>.trans (and_iff_right hpasses.2.2)]
    exact hsound current hfound hpasses.2.1 hpasses.2.2

open Memory in
theorem endsWell_updateTaskRun_iff (taskRun : TaskRun) (expected : TaskRunStatus)
    (transitionedAt : Option Timestamp) :
    EndsWell state ((updateTaskRun taskRun expected transitionedAt).run state) ↔
      (StoreOp.updateTaskRun taskRun expected transitionedAt).Sound state := by
  have hputs : ∀ current, PassesChecks (getTaskRun taskRun.taskRunId) TaskRun.status expected
      (fun current => current.SameIdentity taskRun) state current →
      expected ≠ taskRun.status → state.withTaskRun taskRun ≠ state := by
    intro current hpasses hstatus hsame
    have hfound := find?_of_run_getTaskRun hpasses.1
    have hset : (state.withTaskRun taskRun).taskRuns.find? taskRun.taskRunId = some taskRun :=
      Table.find?_set_self _ taskRun
    rw [hsame, hfound] at hset
    cases hset
    exact hstatus hpasses.2.1.symm
  rw [updateTaskRun_eq, endsWell_checkedUpdate_iff (fetch_getTaskRun _ _) hputs]
  constructor
  · intro hsound current hfound hstatus hidentity
    exact (hsound current ⟨run_getTaskRun hfound, hstatus, hidentity⟩).1
  · intro hsound current hpasses
    have hfound := find?_of_run_getTaskRun hpasses.1
    exact ⟨hsound current hfound hpasses.2.1 hpasses.2.2,
      Or.inr (identityKept_withTaskRun hfound hpasses.2.2)⟩

open Memory in
theorem endsWell_updateTaskAttempt_iff (attempt : TaskAttempt) (expected : TaskAttemptStatus)
    (transitionedAt : Option Timestamp) :
    EndsWell state ((updateTaskAttempt attempt expected transitionedAt).run state) ↔
      (StoreOp.updateTaskAttempt attempt expected transitionedAt).Sound state := by
  have hputs : ∀ current, PassesChecks (getTaskAttempt attempt.attemptId) TaskAttempt.status
      expected (fun current => current.SameIdentity attempt) state current →
      expected ≠ attempt.status → state.withTaskAttempt attempt ≠ state := by
    intro current hpasses hstatus hsame
    have hfound := find?_of_run_getTaskAttempt hpasses.1
    have hset : (state.withTaskAttempt attempt).taskAttempts.find? attempt.attemptId =
        some attempt := Table.find?_set_self _ attempt
    rw [hsame, hfound] at hset
    cases hset
    exact hstatus hpasses.2.1.symm
  rw [updateTaskAttempt_eq, endsWell_checkedUpdate_iff (fetch_getTaskAttempt _ _) hputs]
  constructor
  · intro hsound current hfound hstatus hidentity
    exact (hsound current ⟨run_getTaskAttempt hfound, hstatus, hidentity⟩).1
  · intro hsound current hpasses
    have hfound := find?_of_run_getTaskAttempt hpasses.1
    exact ⟨hsound current hfound hpasses.2.1 hpasses.2.2,
      Or.inr (identityKept_withTaskAttempt hfound hpasses.2.2)⟩

/-- A creation adds a row beside the stored ones. -/
theorem endsWell_createWorkflowRun (run : WorkflowRun) :
    EndsWell state ((Memory.createWorkflowRun run).run state) := by
  rcases Memory.createWorkflowRun_cases run state with ⟨-, habsent, hrun⟩ | herror
  · apply endsWell_of_ok hrun
    exact { IdentityKept.refl state with
      workflowRuns := kept_of_find? sameOrigin_refl (find?_set_of_absent habsent) }
  · exact endsWell_of_error herror

theorem endsWell_createTaskRun (taskRun : TaskRun) :
    EndsWell state ((Memory.createTaskRun taskRun).run state) := by
  rcases Memory.createTaskRun_cases taskRun state with ⟨-, habsent, -, hrun⟩ | herror
  · apply endsWell_of_ok hrun
    exact { IdentityKept.refl state with
      taskRuns := kept_of_find? TaskRun.sameIdentity_refl (find?_set_of_absent habsent) }
  · exact endsWell_of_error herror

theorem endsWell_appendTaskAttempt (attempt : TaskAttempt) :
    EndsWell state ((Memory.appendTaskAttempt attempt).run state) := by
  rcases Memory.appendTaskAttempt_cases attempt state with ⟨-, habsent, -, -, hrun⟩ | herror
  · apply endsWell_of_ok hrun
    exact { IdentityKept.refl state with
      taskAttempts :=
        kept_of_find? TaskAttempt.sameIdentity_refl (find?_set_of_absent habsent) }
  · exact endsWell_of_error herror

theorem endsWell_appendExternalRunRef (attemptId : TaskAttemptId)
    (externalRef : ExternalRunRef) :
    EndsWell state ((Memory.appendExternalRunRef attemptId externalRef).run state) := by
  rcases Memory.appendExternalRunRef_cases attemptId externalRef state with
    ⟨-, -, hrun⟩ | herror
  · exact endsWell_of_ok hrun { IdentityKept.refl state with }
  · exact endsWell_of_error herror

theorem endsWell_setTaskOutputCheckpoint (checkpoint : TaskOutputCheckpoint) :
    EndsWell state ((Memory.setTaskOutputCheckpoint checkpoint).run state) := by
  rcases Memory.setTaskOutputCheckpoint_cases checkpoint state with
    ⟨_, -, -, -, hrun⟩ | herror
  · exact endsWell_of_ok hrun { IdentityKept.refl state with }
  · exact endsWell_of_error herror

theorem endsWell_setManifestReference (runId : WorkflowRunId) (reference : ManifestReference) :
    EndsWell state ((Memory.setManifestReference runId reference).run state) := by
  rcases Memory.setManifestReference_cases runId reference state with ⟨-, hrun⟩ | herror
  · exact endsWell_of_ok hrun { IdentityKept.refl state with }
  · exact endsWell_of_error herror

end Calls

/-- A call keeps the contract exactly if it is no update that changes a status
at a naive time or gives a run another parent. -/
theorem keepsContract_iff (op : StoreOp) (state : MemoryState) :
    op.KeepsContract state ↔ op.Sound state := by
  unfold StoreOp.KeepsContract
  cases op with
  | updateWorkflowRun run expected transitionedAt =>
      exact (endsWell_converted_iff _ fun _ => StoreValue.none).trans
        (endsWell_updateWorkflowRun_iff run expected transitionedAt)
  | updateTaskRun taskRun expected transitionedAt =>
      exact (endsWell_converted_iff _ fun _ => StoreValue.none).trans
        (endsWell_updateTaskRun_iff taskRun expected transitionedAt)
  | updateTaskAttempt attempt expected transitionedAt =>
      exact (endsWell_converted_iff _ fun _ => StoreValue.none).trans
        (endsWell_updateTaskAttempt_iff attempt expected transitionedAt)
  | createWorkflowRun run =>
      exact iff_of_true ((endsWell_converted_iff _ fun _ => StoreValue.none).mpr
        (endsWell_createWorkflowRun run)) trivial
  | createTaskRun taskRun =>
      exact iff_of_true ((endsWell_converted_iff _ fun _ => StoreValue.none).mpr
        (endsWell_createTaskRun taskRun)) trivial
  | appendTaskAttempt attempt =>
      exact iff_of_true ((endsWell_converted_iff _ fun _ => StoreValue.none).mpr
        (endsWell_appendTaskAttempt attempt)) trivial
  | appendExternalRunRef attemptId externalRef =>
      exact iff_of_true ((endsWell_converted_iff _ fun _ => StoreValue.none).mpr
        (endsWell_appendExternalRunRef attemptId externalRef)) trivial
  | setTaskOutputCheckpoint checkpoint =>
      exact iff_of_true ((endsWell_converted_iff _ fun _ => StoreValue.none).mpr
        (endsWell_setTaskOutputCheckpoint checkpoint)) trivial
  | setManifestReference runId reference =>
      exact iff_of_true ((endsWell_converted_iff _ fun _ => StoreValue.none).mpr
        (endsWell_setManifestReference runId reference)) trivial
  | listStateTransitions entityType entityId =>
      exact iff_of_true ((endsWell_converted_iff _ _).mpr
        (endsWell_of_unchanged (snd_run_listStateTransitions _ _))) trivial
  | listRuntimeEvents workflowRunId =>
      exact iff_of_true ((endsWell_converted_iff _ _).mpr
        (endsWell_of_unchanged (snd_run_listRuntimeEvents _))) trivial
  | getWorkflowRun runId =>
      exact iff_of_true ((endsWell_converted_iff _ _).mpr (endsWell_of_unchanged rfl)) trivial
  | listWorkflowRuns =>
      exact iff_of_true ((endsWell_converted_iff _ _).mpr (endsWell_of_unchanged rfl)) trivial
  | listUnfinishedWorkflowRuns =>
      exact iff_of_true ((endsWell_converted_iff _ _).mpr (endsWell_of_unchanged rfl)) trivial
  | getTaskRun taskRunId =>
      exact iff_of_true ((endsWell_converted_iff _ _).mpr (endsWell_of_unchanged rfl)) trivial
  | listTaskRuns workflowRunId =>
      exact iff_of_true ((endsWell_converted_iff _ _).mpr (endsWell_of_unchanged rfl)) trivial
  | getTaskAttempt attemptId =>
      exact iff_of_true ((endsWell_converted_iff _ _).mpr (endsWell_of_unchanged rfl)) trivial
  | listTaskAttempts taskRunId =>
      exact iff_of_true ((endsWell_converted_iff _ _).mpr (endsWell_of_unchanged rfl)) trivial
  | listExternalRunRefs attemptId =>
      exact iff_of_true ((endsWell_converted_iff _ _).mpr (endsWell_of_unchanged rfl)) trivial
  | getTaskOutputCheckpoint taskRunId =>
      exact iff_of_true ((endsWell_converted_iff _ _).mpr (endsWell_of_unchanged rfl)) trivial
  | getManifestReference runId =>
      exact iff_of_true ((endsWell_converted_iff _ _).mpr (endsWell_of_unchanged rfl)) trivial

/-- A run that has been created and not started. -/
def createdRun : WorkflowRun :=
  .new ⟨.lit "run-1"⟩ (.lit "orders") (.lit "1") (.lit "sha256:d") (.lit "sha256:p")
    (.new ⟨.lit "correlation-1"⟩) .first none

/-- The run started, at a time without time zone. -/
def startNaively : StoreOp :=
  .updateWorkflowRun { createdRun with status := .running, valid := rfl } .pending
    (some .naive)

/-- The store a created run is in has the run running after the refused start. -/
theorem startNaively_torn : ¬ ∀ (history : List StoreCommand) (op : StoreOp),
    op.KeepsContract (afterHistory .empty history) := by
  intro hkeeps
  have hunchanged := hkeeps [.operation (.createWorkflowRun createdRun)] startNaively
  have hstatus := congrArg
    (fun state => (state.workflowRuns.find? createdRun.runId).map WorkflowRun.status) hunchanged
  revert hstatus
  decide +kernel

end PyWorkflowKit.Persistence
