import PyWorkflowKit.Sql.Store

/-!
# Durability of workflow runs

What the relational store gives back for a newly created workflow run, and
whether the runtime can go on updating it.
-/

namespace PyWorkflowKit.Sql

open PyWorkflowKit.Core PyWorkflowKit.Domain PyWorkflowKit.States
open PyWorkflowKit.Persistence

/-- The error of the immutable-identity check. -/
def workflowIdentityError : PyError :=
  .metadataInvariant "WorkflowRun immutable identity fields changed"

/-- The state after a new pending run has been stored. -/
def SqlState.withNewWorkflowRun (state : SqlState) (run : WorkflowRun) : SqlState :=
  { state with
    workflowRuns := state.workflowRuns.set (workflowToRow run)
    transitions := state.transitions.set
      ⟨nextRowId (state.transitions.rows.map StateTransitionRow.sequence),
        StateEntityType.workflowRun.value, run.runId.str, none, run.status.value,
        run.createdAt⟩ }

section Creation

variable {state : SqlState} {run : WorkflowRun}

theorem WorkflowRun.timestamps_of_pending (hpending : run.status = .pending) :
    run.startedAt = none ∧ run.endedAt = none := by
  have hvalid := (workflowRunViolation_eq_none_iff _ _ _).mp run.valid
  refine ⟨hvalid.1 hpending, ?_⟩
  cases hended : run.endedAt with
  | none => rfl
  | some at_ =>
      have hterminal := hvalid.2.mp (by simp [hended])
      simp [hpending, WorkflowRunStatus.isTerminal] at hterminal

/-- Only `created_at` of a pending run can be unrepresentable in UTC. -/
theorem bindable_workflowToRow_of_pending (hpending : run.status = .pending) :
    bindable (workflowToRow run).timestamps ↔ run.createdAt.InUtc := by
  obtain ⟨hstarted, hended⟩ := WorkflowRun.timestamps_of_pending hpending
  simp [bindable, WorkflowRunRow.timestamps, workflowToRow, hstarted, hended]

theorem createWorkflowRun_of_new (hpending : run.status = .pending)
    (hnew : state.workflowRuns.contains run.runId.str = false)
    (hutc : run.createdAt.InUtc) :
    (Store.createWorkflowRun run).run state =
      (.ok (), state.withNewWorkflowRun run) := by
  have hbind := (bindable_workflowToRow_of_pending hpending).mpr hutc
  refine Action.run_transaction_of_ok ?_
  rw [Action.run_bind_of_ok (Action.run_require_of hpending _ _),
    Action.run_bind_of_ok (Action.run_get _),
    Action.run_bind_of_ok (Action.run_require_of hnew _ _),
    Action.run_bind_of_ok (Store.run_bindTimestamps_of hbind _),
    Action.run_bind_of_ok (Action.run_modify _ _),
    Store.run_appendTransition_of_inUtc _ _ _ _ hutc]
  rfl

theorem createWorkflowRun_of_not_inUtc (hpending : run.status = .pending)
    (hnew : state.workflowRuns.contains run.runId.str = false)
    (hutc : ¬ run.createdAt.InUtc) :
    (Store.createWorkflowRun run).run state = (.error Store.bindError, state) := by
  have hbind : ¬ bindable (workflowToRow run).timestamps := fun hbind =>
    hutc ((bindable_workflowToRow_of_pending hpending).mp hbind)
  refine Action.run_transaction_of_error (?_ : _ = (_, state))
  rw [Action.run_bind_of_ok (Action.run_require_of hpending _ _),
    Action.run_bind_of_ok (Action.run_get _),
    Action.run_bind_of_ok (Action.run_require_of hnew _ _),
    Action.run_bind_of_error (Store.run_bindTimestamps_of_not hbind _)]

theorem workflowRow_withNewWorkflowRun :
    (Store.workflowRow run.runId).run (state.withNewWorkflowRun run) =
      (.ok (workflowToRow run), state.withNewWorkflowRun run) := by
  have hfound : (state.withNewWorkflowRun run).workflowRuns.find? run.runId.str =
      some (workflowToRow run) :=
    Table.find?_set_self state.workflowRuns (workflowToRow run)
  simp [Store.workflowRow, hfound]

/-- The store gives a new run back with the stored correlation. -/
theorem getWorkflowRun_withNewWorkflowRun :
    (Store.getWorkflowRun run.runId).run (state.withNewWorkflowRun run) =
      (.ok { run with correlation := storedCorrelation run.correlation },
        state.withNewWorkflowRun run) := by
  unfold Store.getWorkflowRun
  rw [Action.run_bind_of_ok workflowRow_withNewWorkflowRun, Action.run_ofExcept,
    workflowFromRow_workflowToRow]

theorem onlyRaises_appendTransition (entityType : StateEntityType)
    (entityId : String) (fromStatus : Option String) (toStatus : String)
    (occurredAt : Option Timestamp) :
    Action.OnlyRaises (· ≠ workflowIdentityError)
      (Store.appendTransition entityType entityId fromStatus toStatus occurredAt) := by
  cases occurredAt with
  | none => exact Action.onlyRaises_raise (by decide)
  | some at_ =>
      cases at_ with
      | naive => exact Action.onlyRaises_raise (by decide)
      | aware instant =>
          exact Action.OnlyRaises.bind (Action.onlyRaises_require (by decide))
            fun _ => Action.onlyRaises_modify _

/-- The identity check of the first update of a new run compares the object
with the run that the row gives back. -/
theorem updateWorkflowRun_identity_withNewWorkflowRun {next : WorkflowRun}
    (hid : run.runId = next.runId) (transitionedAt : Option Timestamp) :
    ((Store.updateWorkflowRun next run.status transitionedAt).run
        (state.withNewWorkflowRun run)).1 = .error workflowIdentityError ↔
      ¬ WorkflowRun.SameIdentity
        { run with correlation := storedCorrelation run.correlation } next := by
  have hrow : (Store.workflowRow run.runId).run (state.withNewWorkflowRun run) =
      (.ok (workflowToRow run), state.withNewWorkflowRun run) :=
    workflowRow_withNewWorkflowRun
  rw [hid] at hrow
  have hread := workflowFromRow_workflowToRow run
  rw [Store.updateWorkflowRun, Action.run_transaction_fst,
    Action.run_bind_of_ok hrow, hread,
    Action.run_bind_of_ok (Action.run_ofExcept _ _),
    Action.run_bind_of_ok (Action.run_require_of rfl _ _)]
  by_cases hsame : WorkflowRun.SameIdentity
      { run with correlation := storedCorrelation run.correlation } next
  · rw [Action.run_bind_of_ok (Action.run_require_of hsame _ _)]
    refine iff_of_false (Action.OnlyRaises.fst_ne_error ?_ _)
      (fun hnot => hnot hsame)
    refine Action.OnlyRaises.bind (Action.onlyRaises_require (by decide)) fun _ => ?_
    refine Action.OnlyRaises.bind (Action.onlyRaises_require (by decide)) fun _ => ?_
    refine Action.OnlyRaises.bind
      (Action.onlyRaises_require (by simp [workflowIdentityError])) fun _ => ?_
    refine Action.OnlyRaises.bind (Action.onlyRaises_modify _) fun _ => ?_
    split
    · exact Action.onlyRaises_pure _
    · exact onlyRaises_appendTransition _ _ _ _ _
  · rw [Action.run_bind_of_error (Action.run_require_of_not hsame _ _)]
    exact iff_of_true rfl hsame

end Creation

/-- Creating the run keeps it in every field, and the next update with the
object that was created passes the identity check. -/
def Durable (state : SqlState) (run : WorkflowRun) : Prop :=
  ∃ after, (Store.createWorkflowRun run).run state = (.ok (), after) ∧
    (Store.getWorkflowRun run.runId).run after = (.ok run, after) ∧
    ∀ next transitionedAt, run.SameIdentity next →
      ((Store.updateWorkflowRun next run.status transitionedAt).run after).1 ≠
        .error workflowIdentityError

theorem storedCorrelation_eq_self_iff (value : CorrelationContext) :
    storedCorrelation value = value ↔
      value.traceparent = none ∧ value.tracestate = none ∧ value.baggage = .empty := by
  cases value
  simp only [storedCorrelation, CorrelationContext.mk.injEq, true_and]
  exact ⟨fun ⟨h1, h2, h3⟩ => ⟨h1.symm, h2.symm, h3.symm⟩,
    fun ⟨h1, h2, h3⟩ => ⟨h1.symm, h2.symm, h3.symm⟩⟩

theorem durable_iff_storedCorrelation {state : SqlState} {run : WorkflowRun}
    (hpending : run.status = .pending)
    (hnew : state.workflowRuns.contains run.runId.str = false) :
    Durable state run ↔
      run.createdAt.InUtc ∧ storedCorrelation run.correlation = run.correlation := by
  constructor
  · rintro ⟨after, hcreate, hget, -⟩
    have hutc : run.createdAt.InUtc := by
      by_contra hutc
      rw [createWorkflowRun_of_not_inUtc hpending hnew hutc] at hcreate
      cases hcreate
    rw [createWorkflowRun_of_new hpending hnew hutc] at hcreate
    cases hcreate
    rw [getWorkflowRun_withNewWorkflowRun] at hget
    have hread := Except.ok.inj (congrArg Prod.fst hget)
    exact ⟨hutc, congrArg WorkflowRun.correlation hread⟩
  · rintro ⟨hutc, hstored⟩
    have hread : { run with correlation := storedCorrelation run.correlation } =
        run := by rw [hstored]
    refine ⟨_, createWorkflowRun_of_new hpending hnew hutc, ?_, ?_⟩
    · rw [getWorkflowRun_withNewWorkflowRun, hread]
    · intro next transitionedAt hidentity herror
      rw [updateWorkflowRun_identity_withNewWorkflowRun hidentity.1, hread] at herror
      exact herror hidentity

/-- A correlation that carries nothing but its identifier. -/
def plainCorrelation : CorrelationContext where
  correlationId := ⟨.lit "corr-1"⟩
  causationId := none
  parentExecutionId := none
  workflowRunId := none
  taskRunId := none
  taskAttemptId := none
  ingestionRunId := none
  transformationExecutionId := none
  traceId := none
  spanId := none
  traceparent := none
  tracestate := none
  baggage := .empty

def plainRun : WorkflowRun :=
  .new ⟨.lit "run-1"⟩ (.lit "orders") (.lit "1") (.lit "sha256:d") (.lit "sha256:p")
    plainCorrelation .first none

/-- The same run under a W3C trace header. -/
def tracedRun : WorkflowRun :=
  { plainRun with
    correlation := { plainCorrelation with
      traceparent := some
        (.lit "00-4bf92f3577b34da6a3ce929d0e0e4736-00f067aa0ba902b7-01") } }

end PyWorkflowKit.Sql
