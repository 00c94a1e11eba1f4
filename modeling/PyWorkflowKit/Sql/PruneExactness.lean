import Mathlib.Data.List.Dedup
import PyWorkflowKit.Sql.Durability
import PyWorkflowKit.Sql.Prune

/-!
# What a relational prune removes

The purge that the retention policy asks for removes the eligible runs with
every row they own.  The batched deletion performs it, whatever the batch size,
exactly when every eligible run has an attempt.
-/

namespace PyWorkflowKit.Sql

open PyWorkflowKit.Core PyWorkflowKit.Domain PyWorkflowKit.States
open PyWorkflowKit.Persistence

section Ownership

variable (state : SqlState)

/-- The run that a task run belongs to. -/
def SqlState.runOfTask (taskRunId : String) : Option String :=
  (state.taskRuns.find? taskRunId).map TaskRunRow.workflowRunId

/-- The run that an attempt belongs to. -/
def SqlState.runOfAttempt (attemptId : String) : Option String :=
  (state.taskAttempts.find? attemptId).bind fun row =>
    state.runOfTask row.taskRunId

/-- The run that the entity of a transition belongs to. -/
def SqlState.runOfEntity (entityType entityId : String) : Option String :=
  if entityType = StateEntityType.workflowRun.value then some entityId
  else if entityType = StateEntityType.taskRun.value then state.runOfTask entityId
  else if entityType = StateEntityType.taskAttempt.value then
    state.runOfAttempt entityId
  else none

open scoped Classical in
/-- All and only the rows that belong to the doomed runs. -/
noncomputable def SqlState.ownedBy (doomed : String → Prop) : RowSelection where
  workflowRun row := doomed row.runId
  taskRun row := doomed row.workflowRunId
  taskAttempt row := ∃ run ∈ state.runOfTask row.taskRunId, doomed run
  externalRef row := ∃ run ∈ state.runOfAttempt row.attemptId, doomed run
  transition row :=
    ∃ run ∈ state.runOfEntity row.entityType row.entityId, doomed run
  checkpoint row := ∃ run ∈ state.runOfTask row.taskRunId, doomed run
  manifest row := doomed row.workflowRunId

end Ownership

/-- A run of a selected workflow in a status that the policy prunes. -/
def Prunable (policy : RetentionPolicy) (row : WorkflowRunRow) : Prop :=
  policy.selectsName row.workflowName = true ∧
    ∃ status : WorkflowRunStatus, row.status = status.value ∧
      policy.prunes status = true

/-- A prunable run that is older than its cutoff or beyond the quota. -/
def EligibleRun (policy : RetentionPolicy) (now : DateTime) (state : SqlState)
    (runId : String) : Prop :=
  ∃ row ∈ state.workflowRuns.rows, row.runId = runId ∧ Prunable policy row ∧
    (policy.Expired now (row.status = WorkflowRunStatus.failed.value)
        row.createdAt ∨
      policy.Surplus (rankBy WorkflowRunRow.workflowName Store.newestFirst
        state.workflowRuns.rows row))

/-- A run that owns an attempt. -/
def HasAttempt (state : SqlState) (runId : String) : Prop :=
  ∃ taskRun ∈ state.taskRuns.rows, taskRun.workflowRunId = runId ∧
    ∃ attempt ∈ state.taskAttempts.rows, attempt.taskRunId = taskRun.taskRunId

/-- `prune_runs` removes the eligible runs with all and only what they own,
reports what its dry run estimates, and ends in a state that does not depend on
the batch size. -/
def PrunesExactly (policy : RetentionPolicy) (now : DateTime) (batchSize : Int)
    (state : SqlState) : Prop :=
  ∃ report estimated,
    (Store.pruneRuns policy false batchSize now).run state =
        (.ok report, state.without (state.ownedBy (EligibleRun policy now state))) ∧
      (Store.pruneRuns policy true batchSize now).run state = (.ok estimated, state) ∧
      report = { estimated with dryRun := false } ∧
      ∀ other : Int, 1 ≤ other →
        ((Store.pruneRuns policy false other now).run state).2 =
          ((Store.pruneRuns policy false batchSize now).run state).2

section Batches

/-- The slices of a list from `start` on cover its tail. -/
theorem flatten_slices (size : Nat) (ids : List String) (count start : Nat)
    (hcover : ids.length ≤ start + count * size) :
    ((List.range' start count size).map fun index =>
      (ids.drop index).take size).flatten = ids.drop start := by
  induction count generalizing start with
  | zero =>
      have hempty : ids.drop start = [] := List.drop_eq_nil_of_le (by omega)
      simp [hempty]
  | succ count ih =>
      have hnext : ids.length ≤ start + size + count * size := by
        rw [Nat.succ_mul] at hcover
        omega
      rw [List.range'_succ, List.map_cons, List.flatten_cons, ih _ hnext,
        ← List.drop_drop, List.take_append_drop]

theorem flatten_batches {size : Nat} (hsize : 1 ≤ size) (ids : List String) :
    (Store.batches size ids).flatten = ids := by
  have hcover : ids.length ≤ (ids.length + size - 1) / size * size := by
    have hdiv := Nat.div_add_mod (ids.length + size - 1) size
    have hmod := Nat.mod_lt (ids.length + size - 1) hsize
    have hcomm := Nat.mul_comm size ((ids.length + size - 1) / size)
    omega
  rw [Store.batches, flatten_slices size ids _ 0 (by omega), List.drop_zero]

theorem length_le_of_mem_batches {size : Nat} {ids batch : List String}
    (hbatch : batch ∈ Store.batches size ids) : batch.length ≤ size := by
  obtain ⟨start, -, rfl⟩ := List.mem_map.mp hbatch
  exact List.length_take_le _ _

/-- No slice is empty. -/
theorem ne_nil_of_mem_batches {size : Nat} (hsize : 1 ≤ size)
    {ids batch : List String} (hbatch : batch ∈ Store.batches size ids) :
    batch ≠ [] := by
  obtain ⟨start, hstart, rfl⟩ := List.mem_map.mp hbatch
  obtain ⟨index, hindex, rfl⟩ := List.mem_range'.mp hstart
  have hlt : size * index < ids.length := by
    have hle : (index + 1) * size ≤ ids.length + size - 1 := by
      calc
        (index + 1) * size ≤ (ids.length + size - 1) / size * size :=
          Nat.mul_le_mul_right size hindex
        _ ≤ ids.length + size - 1 := Nat.div_mul_le_self _ _
    rw [Nat.succ_mul] at hle
    rw [Nat.mul_comm]
    omega
  intro hnil
  have hlength := congrArg List.length hnil
  rw [List.length_take, List.length_drop, List.length_nil] at hlength
  omega

end Batches

section Addressed

variable {state : SqlState} {runIds : List String}

theorem mem_taskRunIdsOf {taskRunId : String} :
    taskRunId ∈ Store.taskRunIdsOf state runIds ↔
      ∃ row ∈ state.taskRuns.rows, row.workflowRunId ∈ runIds ∧
        row.taskRunId = taskRunId := by
  simp [Store.taskRunIdsOf, and_assoc]

theorem mem_attemptIdsOf {attemptId : String} :
    attemptId ∈ Store.attemptIdsOf state runIds ↔
      ∃ row ∈ state.taskAttempts.rows,
        row.taskRunId ∈ Store.taskRunIdsOf state runIds ∧
          row.attemptId = attemptId := by
  simp [Store.attemptIdsOf, and_assoc]

theorem attemptIdsOf_ne_nil_iff :
    Store.attemptIdsOf state runIds ≠ [] ↔
      ∃ runId ∈ runIds, HasAttempt state runId := by
  rw [← List.isEmpty_eq_false_iff, List.isEmpty_eq_false_iff_exists_mem]
  constructor
  · rintro ⟨attemptId, hmem⟩
    obtain ⟨attempt, hattempt, htask, -⟩ := mem_attemptIdsOf.mp hmem
    obtain ⟨taskRun, htaskRun, hrun, heq⟩ := mem_taskRunIdsOf.mp htask
    exact ⟨taskRun.workflowRunId, hrun, taskRun, htaskRun, rfl, attempt, hattempt,
      heq.symm⟩
  · rintro ⟨runId, hrun, taskRun, htaskRun, rfl, attempt, hattempt, heq⟩
    exact ⟨attempt.attemptId, mem_attemptIdsOf.mpr ⟨attempt, hattempt,
      mem_taskRunIdsOf.mpr ⟨taskRun, htaskRun, hrun, heq.symm⟩, rfl⟩⟩

/-- The task runs of two groups of runs, when those of the first are gone. -/
theorem mem_taskRunIdsOf_append {first rest : List String} {taskRunId : String} :
    taskRunId ∈ Store.taskRunIdsOf state (first ++ rest) ↔
      taskRunId ∈ Store.taskRunIdsOf state first ∨
        taskRunId ∈ Store.taskRunIdsOf
          (state.without (Store.addressed state first)) rest := by
  simp only [mem_taskRunIdsOf, SqlState.without, Store.addressed, Table.rows_filter,
    List.mem_filter, List.mem_append, Bool.not_eq_true', List.contains_eq_mem,
    decide_eq_false_iff_not]
  constructor
  · rintro ⟨row, hrow, hrun, rfl⟩
    by_cases hfirst : row.workflowRunId ∈ first
    · exact Or.inl ⟨row, hrow, hfirst, rfl⟩
    · exact Or.inr ⟨row, ⟨hrow, hfirst⟩, hrun.resolve_left hfirst, rfl⟩
  · rintro (⟨row, hrow, hrun, rfl⟩ | ⟨row, ⟨hrow, -⟩, hrun, rfl⟩)
    · exact ⟨row, hrow, Or.inl hrun, rfl⟩
    · exact ⟨row, hrow, Or.inr hrun, rfl⟩

theorem mem_attemptIdsOf_append {first rest : List String} {attemptId : String} :
    attemptId ∈ Store.attemptIdsOf state (first ++ rest) ↔
      attemptId ∈ Store.attemptIdsOf state first ∨
        attemptId ∈ Store.attemptIdsOf
          (state.without (Store.addressed state first)) rest := by
  rw [mem_attemptIdsOf, mem_attemptIdsOf, mem_attemptIdsOf]
  have hrows : ∀ row, row ∈
      (state.without (Store.addressed state first)).taskAttempts.rows ↔
        row ∈ state.taskAttempts.rows ∧
          row.taskRunId ∉ Store.taskRunIdsOf state first := by
    intro row
    simp [SqlState.without, Store.addressed]
  constructor
  · rintro ⟨row, hrow, htask, rfl⟩
    by_cases hfirst : row.taskRunId ∈ Store.taskRunIdsOf state first
    · exact Or.inl ⟨row, hrow, hfirst, rfl⟩
    · exact Or.inr ⟨row, (hrows row).mpr ⟨hrow, hfirst⟩,
        (mem_taskRunIdsOf_append.mp htask).resolve_left hfirst, rfl⟩
  · rintro (⟨row, hrow, htask, rfl⟩ | ⟨row, hrow, htask, rfl⟩)
    · exact ⟨row, hrow, mem_taskRunIdsOf_append.mpr (Or.inl htask), rfl⟩
    · exact ⟨row, ((hrows row).mp hrow).1,
        mem_taskRunIdsOf_append.mpr (Or.inr htask), rfl⟩

variable (state) in
/-- Addressing a group of runs and then, with these removed, another one is
addressing both. -/
theorem addressed_append (first rest : List String) :
    SameOn state (Store.addressed state (first ++ rest))
      ((Store.addressed state first).or
        (Store.addressed (state.without (Store.addressed state first)) rest)) := by
  have htask : ∀ id, (Store.taskRunIdsOf state (first ++ rest)).contains id =
      ((Store.taskRunIdsOf state first).contains id ||
        (Store.taskRunIdsOf (state.without (Store.addressed state first))
          rest).contains id) := by
    intro id
    rw [Bool.eq_iff_iff]
    simpa using mem_taskRunIdsOf_append
  have hattempt : ∀ id, (Store.attemptIdsOf state (first ++ rest)).contains id =
      ((Store.attemptIdsOf state first).contains id ||
        (Store.attemptIdsOf (state.without (Store.addressed state first))
          rest).contains id) := by
    intro id
    rw [Bool.eq_iff_iff]
    simpa using mem_attemptIdsOf_append
  have hrun : ∀ id, (first ++ rest).contains id =
      (first.contains id || rest.contains id) := by
    intro id
    rw [Bool.eq_iff_iff]
    simp
  constructor
  · intro row _
    exact hrun _
  · intro row _
    exact hrun _
  · intro row _
    exact htask _
  · intro row _
    exact hattempt _
  · intro row _
    simp only [Store.addressed, RowSelection.or] at htask hattempt ⊢
    rw [htask, hattempt, hrun]
    cases decide (row.entityType = StateEntityType.workflowRun.value) <;>
      cases decide (row.entityType = StateEntityType.taskRun.value) <;>
      cases decide (row.entityType = StateEntityType.taskAttempt.value) <;>
      grind
  · intro row _
    exact htask _
  · intro row _
    exact hrun _

end Addressed

section Eligibility

variable {policy : RetentionPolicy} {now : DateTime} {state : SqlState}

/-- The cutoff of every prunable run is a representable datetime. -/
def CutoffsFit (policy : RetentionPolicy) (now : DateTime) (state : SqlState) :
    Prop :=
  ∀ row ∈ state.workflowRuns.rows, Prunable policy row →
    policy.CutoffFits now (row.status = WorkflowRunStatus.failed.value)

theorem rowPrunes_iff {status : String} :
    Store.rowPrunes policy status = true ↔
      ∃ member : WorkflowRunStatus, status = member.value ∧
        policy.prunes member = true := by
  simp only [Store.rowPrunes, RetentionPolicy.prunes, Bool.and_eq_true,
    List.contains_eq_mem, decide_eq_true_eq, List.mem_map, List.mem_filter]
  constructor
  · rintro ⟨⟨member, ⟨-, hterminal⟩, rfl⟩, other, hother, hvalue⟩
    have heq : other = member := StrEnum.value_injective hvalue
    exact ⟨member, rfl, hterminal, heq ▸ hother⟩
  · rintro ⟨member, rfl, hterminal, hmem⟩
    exact ⟨⟨member, ⟨by cases member <;> decide, hterminal⟩, rfl⟩, member, hmem, rfl⟩

theorem mem_workflowNames {name : String} :
    name ∈ Store.workflowNames policy state ↔
      policy.selectsName name = true ∧
        ∃ row ∈ state.workflowRuns.rows, row.workflowName = name := by
  simp only [Store.workflowNames, mem_sortBy, List.mem_dedup, List.mem_filter,
    List.mem_map]
  tauto

theorem nodup_newestFirst (state : SqlState) :
    (state.workflowRuns.rows.map Store.newestFirst).Nodup := by
  refine List.Nodup.of_map (fun key => (ofLex key).2) ?_
  rw [List.map_map]
  exact state.workflowRuns.nodup

theorem prunable_iff {row : WorkflowRunRow} (hrow : row ∈ state.workflowRuns.rows) :
    Prunable policy row ↔
      row.workflowName ∈ Store.workflowNames policy state ∧
        Store.rowPrunes policy row.status = true := by
  rw [Prunable, ← rowPrunes_iff, mem_workflowNames]
  exact ⟨fun ⟨hname, hstatus⟩ => ⟨⟨hname, row, hrow, rfl⟩, hstatus⟩,
    fun ⟨⟨hname, _⟩, hstatus⟩ => ⟨hname, hstatus⟩⟩

/-- The eligibility query selects the prunable rows that are expired or
surplus, provided every cutoff can be computed. -/
theorem eligibleRows_eq_ok {rows : List WorkflowRunRow}
    (hrows : Store.eligibleRows policy now state = .ok rows) :
    CutoffsFit policy now state ∧
      ∀ row, row ∈ rows ↔ row ∈ state.workflowRuns.rows ∧ Prunable policy row ∧
        (policy.Expired now (row.status = WorkflowRunStatus.failed.value)
            row.createdAt ∨
          policy.Surplus (rankBy WorkflowRunRow.workflowName Store.newestFirst
            state.workflowRuns.rows row)) := by
  obtain ⟨hdecided, hmembers⟩ :=
    chooseGrouped_eq_ok (nodup_newestFirst state) hrows
  refine ⟨?_, ?_⟩
  · intro row hrow hprunable
    obtain ⟨hname, hstatus⟩ := (prunable_iff hrow).mp hprunable
    obtain ⟨flag, hflag⟩ := hdecided row hrow hname
    exact (RetentionPolicy.eligible_eq_ok hflag).1 hstatus
  · intro row
    rw [hmembers row]
    constructor
    · rintro ⟨hrow, hname, hflag⟩
      obtain ⟨hstatus, hchosen⟩ :=
        (RetentionPolicy.eligible_eq_ok hflag).2.mp rfl
      exact ⟨hrow, (prunable_iff hrow).mpr ⟨hname, hstatus⟩, hchosen⟩
    · rintro ⟨hrow, hprunable, hchosen⟩
      obtain ⟨hname, hstatus⟩ := (prunable_iff hrow).mp hprunable
      obtain ⟨flag, hflag⟩ := hdecided row hrow hname
      have htrue := (RetentionPolicy.eligible_eq_ok hflag).2.mpr ⟨hstatus, hchosen⟩
      exact ⟨hrow, hname, by rw [hflag, htrue]⟩

theorem eligibleRows_eq_error {error : PyError}
    (herror : Store.eligibleRows policy now state = .error error) :
    error = .overflowError "date value out of range" ∧
      ¬ CutoffsFit policy now state := by
  obtain ⟨row, hrow, hname, hfailed⟩ :=
    chooseGrouped_eq_error (nodup_newestFirst state) herror
  obtain ⟨hstatus, hnot, heq⟩ := RetentionPolicy.eligible_eq_error hfailed
  exact ⟨heq, fun hfit =>
    hnot (hfit row hrow ((prunable_iff hrow).mpr ⟨hname, hstatus⟩))⟩

theorem mem_eligibleIds {rows : List WorkflowRunRow}
    (hrows : Store.eligibleRows policy now state = .ok rows) (runId : String) :
    runId ∈ rows.map WorkflowRunRow.runId ↔ EligibleRun policy now state runId := by
  rw [List.mem_map, EligibleRun]
  constructor
  · rintro ⟨row, hmem, rfl⟩
    obtain ⟨hrow, hchosen⟩ := ((eligibleRows_eq_ok hrows).2 row).mp hmem
    exact ⟨row, hrow, rfl, hchosen⟩
  · rintro ⟨row, hrow, rfl, hchosen⟩
    exact ⟨row, ((eligibleRows_eq_ok hrows).2 row).mpr ⟨hrow, hchosen⟩, rfl⟩

theorem nodup_eligibleIds {rows : List WorkflowRunRow}
    (hrows : Store.eligibleRows policy now state = .ok rows) :
    (rows.map WorkflowRunRow.runId).Nodup := by
  have hnames : (Store.workflowNames policy state).Nodup :=
    nodup_sortBy id (List.nodup_dedup _)
  refine (chooseGrouped_nodup (nodup_newestFirst state) hnames hrows).map_on ?_
  intro left hleft right hright heq
  exact state.workflowRuns.eq_of_mem (((eligibleRows_eq_ok hrows).2 left).mp hleft).1
    (((eligibleRows_eq_ok hrows).2 right).mp hright).1 heq

end Eligibility

section Deletion

variable {state : SqlState}

theorem zero_addSummary (summary : DeletedRecordsSummary) :
    Store.addSummary .zero summary = summary := by
  simp [Store.addSummary, DeletedRecordsSummary.zero]

theorem addSummary_assoc (left middle right : DeletedRecordsSummary) :
    Store.addSummary (Store.addSummary left middle) right =
      Store.addSummary left (Store.addSummary middle right) := by
  simp [Store.addSummary, Nat.add_assoc]

theorem taskRunIdsOf_nil : Store.taskRunIdsOf state [] = [] := by
  simp [Store.taskRunIdsOf]

theorem attemptIdsOf_nil : Store.attemptIdsOf state [] = [] := by
  simp [Store.attemptIdsOf, taskRunIdsOf_nil]

theorem without_addressed_nil : state.without (Store.addressed state []) = state := by
  apply SqlState.ext <;>
    simp [SqlState.without, Store.addressed, taskRunIdsOf_nil, attemptIdsOf_nil]

theorem count_addressed_nil :
    state.count (Store.addressed state []) = .zero := by
  simp [SqlState.count, Store.addressed, DeletedRecordsSummary.zero,
    taskRunIdsOf_nil, attemptIdsOf_nil]

theorem estimate_nil : Store.estimate state [] = .zero := by
  rw [Store.estimate, count_addressed_nil, taskRunIdsOf_nil, attemptIdsOf_nil]
  rfl

/-- A batch leaves the attempts of the runs outside it. -/
theorem HasAttempt.without_addressed {runId : String} {batch : List String}
    (hattempt : HasAttempt state runId) (houtside : runId ∉ batch) :
    HasAttempt (state.without (Store.addressed state batch)) runId := by
  obtain ⟨taskRun, htaskRun, hrun, attempt, hmem, htask⟩ := hattempt
  refine ⟨taskRun, ?_, hrun, attempt, ?_, htask⟩
  · simp [SqlState.without, Store.addressed, htaskRun, hrun, houtside]
  · have habsent : attempt.taskRunId ∉ Store.taskRunIdsOf state batch := by
      intro hselected
      obtain ⟨other, hother, hbatch, hid⟩ := mem_taskRunIdsOf.mp hselected
      have heq := state.taskRuns.eq_of_mem hother htaskRun (hid.trans htask)
      exact houtside (hrun ▸ heq ▸ hbatch)
    simp [SqlState.without, Store.addressed, hmem, habsent]

/-- Batches that each hold a run with an attempt delete, together, what the
statements about all their runs address. -/
theorem foldl_pruneBatch {batches : List (List String)}
    (hattempts : ∀ batch ∈ batches, ∃ runId ∈ batch, HasAttempt state runId)
    (hnodup : batches.flatten.Nodup) (total : DeletedRecordsSummary) :
    batches.foldl Store.pruneBatch (state, total) =
      (state.without (Store.addressed state batches.flatten),
        Store.addSummary total
          (state.count (Store.addressed state batches.flatten))) := by
  induction batches generalizing state total with
  | nil =>
      rw [List.foldl_nil, List.flatten_nil, without_addressed_nil,
        count_addressed_nil]
      rfl
  | cons batch rest ih =>
      have hstep : Store.pruneBatch (state, total) batch =
          (state.without (Store.addressed state batch),
            Store.addSummary total (state.count (Store.addressed state batch))) := by
        simp only [Store.pruneBatch]
        rw [if_neg (attemptIdsOf_ne_nil_iff.mpr
          (hattempts batch List.mem_cons_self))]
      rw [List.flatten_cons] at hnodup ⊢
      have hdisjoint := List.disjoint_of_nodup_append hnodup
      have hrest : ∀ other ∈ rest, ∃ runId ∈ other,
          HasAttempt (state.without (Store.addressed state batch)) runId := by
        intro other hother
        obtain ⟨runId, hmem, hattempt⟩ :=
          hattempts other (List.mem_cons_of_mem _ hother)
        exact ⟨runId, hmem, hattempt.without_addressed fun hbatch =>
          hdisjoint hbatch (List.mem_flatten.mpr ⟨other, hother, hmem⟩)⟩
      have happend := addressed_append state batch rest.flatten
      rw [List.foldl_cons, hstep, ih hrest hnodup.of_append_right,
        SqlState.without_without, ← happend.without_eq, addSummary_assoc,
        ← SqlState.count_or, ← happend.count_eq]

/-- A run without attempts outlives a batch of at most one run. -/
theorem pruneBatch_keeps_attemptless {row : WorkflowRunRow}
    (hrow : row ∈ state.workflowRuns.rows) (hattempt : ¬ HasAttempt state row.runId)
    {batch : List String} (hsmall : batch.length ≤ 1)
    (total : DeletedRecordsSummary) :
    row ∈ (Store.pruneBatch (state, total) batch).1.workflowRuns.rows ∧
      ¬ HasAttempt (Store.pruneBatch (state, total) batch).1 row.runId := by
  simp only [Store.pruneBatch]
  split
  · refine ⟨by simpa [SqlState.without, Store.evidenceOnly] using hrow, ?_⟩
    simpa [HasAttempt, SqlState.without, Store.evidenceOnly] using hattempt
  · next hlive =>
    have houtside : row.runId ∉ batch := by
      intro hmem
      obtain ⟨runId, hother, hhas⟩ := attemptIdsOf_ne_nil_iff.mp hlive
      have heq : runId = row.runId := by
        cases batch with
        | nil => cases hother
        | cons only rest =>
            cases rest with
            | nil => rw [List.mem_singleton.mp hother, List.mem_singleton.mp hmem]
            | cons next rest => simp at hsmall
      exact hattempt (heq ▸ hhas)
    refine ⟨by simp [SqlState.without, Store.addressed, hrow, houtside], ?_⟩
    rintro ⟨taskRun, htaskRun, hrun, attempt, hmem, htask⟩
    exact hattempt ⟨taskRun, (List.mem_filter.mp htaskRun).1, hrun, attempt,
      (List.mem_filter.mp hmem).1, htask⟩

theorem foldl_pruneBatch_keeps_attemptless {row : WorkflowRunRow}
    {batches : List (List String)}
    (hrow : row ∈ state.workflowRuns.rows) (hattempt : ¬ HasAttempt state row.runId)
    (hsmall : ∀ batch ∈ batches, batch.length ≤ 1) (total : DeletedRecordsSummary) :
    row ∈ (batches.foldl Store.pruneBatch (state, total)).1.workflowRuns.rows := by
  induction batches generalizing state total with
  | nil => exact hrow
  | cons batch rest ih =>
      obtain ⟨hkept, hstill⟩ := pruneBatch_keeps_attemptless hrow hattempt
        (hsmall batch List.mem_cons_self) total
      exact ih hkept hstill
        (fun other hother => hsmall other (List.mem_cons_of_mem _ hother)) _

end Deletion

section Purge

variable {state : SqlState} {runIds : List String}

theorem mem_taskRunIdsOf_iff_runOfTask {taskRunId : String} :
    taskRunId ∈ Store.taskRunIdsOf state runIds ↔
      ∃ run ∈ state.runOfTask taskRunId, run ∈ runIds := by
  rw [mem_taskRunIdsOf]
  constructor
  · rintro ⟨row, hrow, hrun, rfl⟩
    refine ⟨row.workflowRunId, ?_, hrun⟩
    simp [SqlState.runOfTask, state.taskRuns.find?_of_mem hrow]
  · rintro ⟨run, howner, hrun⟩
    obtain ⟨row, hfound, rfl⟩ := Option.map_eq_some_iff.mp howner
    obtain ⟨hrow, hkey⟩ := (state.taskRuns.find?_eq_some_iff _ _).mp hfound
    exact ⟨row, hrow, hrun, hkey⟩

theorem mem_attemptIdsOf_iff_runOfAttempt {attemptId : String} :
    attemptId ∈ Store.attemptIdsOf state runIds ↔
      ∃ run ∈ state.runOfAttempt attemptId, run ∈ runIds := by
  rw [mem_attemptIdsOf]
  constructor
  · rintro ⟨row, hrow, htask, rfl⟩
    obtain ⟨run, howner, hrun⟩ := mem_taskRunIdsOf_iff_runOfTask.mp htask
    refine ⟨run, ?_, hrun⟩
    rw [SqlState.runOfAttempt, state.taskAttempts.find?_of_mem hrow]
    exact howner
  · rintro ⟨run, howner, hrun⟩
    obtain ⟨row, hfound, htask⟩ := Option.bind_eq_some_iff.mp howner
    obtain ⟨hrow, hkey⟩ := (state.taskAttempts.find?_eq_some_iff _ _).mp hfound
    exact ⟨row, hrow, mem_taskRunIdsOf_iff_runOfTask.mpr ⟨run, htask, hrun⟩, hkey⟩

/-- The statements about some runs address all and only the rows they own. -/
theorem addressed_sameOn_ownedBy {doomed : String → Prop}
    (hdoomed : ∀ runId, runId ∈ runIds ↔ doomed runId) :
    SameOn state (Store.addressed state runIds) (state.ownedBy doomed) := by
  classical
  have hrun : ∀ id, runIds.contains id = true ↔ doomed id := by
    intro id
    rw [List.contains_iff_mem, hdoomed]
  have htask : ∀ id, (Store.taskRunIdsOf state runIds).contains id = true ↔
      ∃ run ∈ state.runOfTask id, doomed run := by
    intro id
    rw [List.contains_iff_mem, mem_taskRunIdsOf_iff_runOfTask]
    simp only [hdoomed]
  have hattempt : ∀ id, (Store.attemptIdsOf state runIds).contains id = true ↔
      ∃ run ∈ state.runOfAttempt id, doomed run := by
    intro id
    rw [List.contains_iff_mem, mem_attemptIdsOf_iff_runOfAttempt]
    simp only [hdoomed]
  constructor <;> intro row _ <;> rw [Bool.eq_iff_iff]
  · exact (hrun _).trans decide_eq_true_iff.symm
  · exact (hrun _).trans decide_eq_true_iff.symm
  · exact (htask _).trans decide_eq_true_iff.symm
  · exact (hattempt _).trans decide_eq_true_iff.symm
  · refine Iff.trans ?_ decide_eq_true_iff.symm
    simp only [Store.addressed, Bool.or_eq_true, Bool.and_eq_true,
      decide_eq_true_eq, hrun, htask, hattempt, SqlState.runOfEntity]
    have hworkflow : StateEntityType.taskRun.value ≠
        StateEntityType.workflowRun.value := by decide
    have hworkflow' : StateEntityType.taskAttempt.value ≠
        StateEntityType.workflowRun.value := by decide
    have hattemptTask : StateEntityType.taskAttempt.value ≠
        StateEntityType.taskRun.value := by decide
    split
    · next htype => simp [htype, hworkflow.symm, hworkflow'.symm]
    · split
      · next htype => simp [htype, hworkflow, hattemptTask.symm]
      · split
        · next htype => simp [htype, hworkflow', hattemptTask]
        · next hfirst hsecond hthird => simp [hfirst, hsecond, hthird]
  · exact (htask _).trans decide_eq_true_iff.symm
  · exact (hrun _).trans decide_eq_true_iff.symm

/-- The estimate of a dry run counts the addressed rows. -/
theorem estimate_eq_count (hnodup : runIds.Nodup)
    (hstored : ∀ runId ∈ runIds, ∃ row ∈ state.workflowRuns.rows,
      row.runId = runId) :
    Store.estimate state runIds = state.count (Store.addressed state runIds) := by
  have hruns : runIds.length =
      state.workflowRuns.rows.countP fun row => runIds.contains row.runId := by
    rw [List.countP_eq_length_filter,
      ← List.length_map (f := WorkflowRunRow.runId)]
    apply List.Perm.length_eq
    refine (List.perm_ext_iff_of_nodup hnodup
      (state.workflowRuns.nodup.sublist (List.filter_sublist.map _))).mpr ?_
    intro runId
    simp only [List.mem_map, List.mem_filter, List.contains_iff_mem]
    constructor
    · intro hmem
      obtain ⟨row, hrow, rfl⟩ := hstored runId hmem
      exact ⟨row, ⟨hrow, hmem⟩, rfl⟩
    · rintro ⟨row, ⟨-, hmem⟩, rfl⟩
      exact hmem
  simp only [Store.estimate, SqlState.count, Store.addressed,
    DeletedRecordsSummary.mk.injEq, and_true]
  exact ⟨hruns, by
    rw [Store.taskRunIdsOf, List.length_map, List.countP_eq_length_filter],
    by rw [Store.attemptIdsOf, List.length_map, List.countP_eq_length_filter]⟩

end Purge

section Main

variable {policy : RetentionPolicy} {now : DateTime} {batchSize : Int}
  {state : SqlState} {rows : List WorkflowRunRow}

theorem run_pruneRuns_false (hbatch : 1 ≤ batchSize)
    (hrows : Store.eligibleRows policy now state = .ok rows) :
    (Store.pruneRuns policy false batchSize now).run state =
      (.ok ⟨false, (Store.workflowNames policy state).length, rows.length,
          ((Store.batches batchSize.toNat (rows.map WorkflowRunRow.runId)).foldl
            Store.pruneBatch (state, .zero)).2⟩,
        ((Store.batches batchSize.toNat (rows.map WorkflowRunRow.runId)).foldl
          Store.pruneBatch (state, .zero)).1) := by
  rw [Store.pruneRuns,
    Action.run_bind_of_ok (Action.run_require_of hbatch _ state),
    Action.run_bind_of_ok (Action.run_get state), hrows,
    Action.run_bind_of_ok (Action.run_ofExcept _ state)]
  by_cases hempty : rows.map WorkflowRunRow.runId = []
  · have hrowsEmpty : rows = [] := List.map_eq_nil_iff.mp hempty
    have hbatches : Store.batches batchSize.toNat [] = [] := by
      have hlt : 0 + batchSize.toNat - 1 < batchSize.toNat := by omega
      rw [Store.batches, List.length_nil, Nat.div_eq_of_lt hlt]
      rfl
    rw [if_pos hempty, hempty, hbatches, hrowsEmpty]
    rfl
  · rw [if_neg hempty, List.length_map]
    rfl

theorem run_pruneRuns_true (hbatch : 1 ≤ batchSize)
    (hrows : Store.eligibleRows policy now state = .ok rows) :
    (Store.pruneRuns policy true batchSize now).run state =
      (.ok ⟨true, (Store.workflowNames policy state).length, rows.length,
        Store.estimate state (rows.map WorkflowRunRow.runId)⟩, state) := by
  rw [Store.pruneRuns,
    Action.run_bind_of_ok (Action.run_require_of hbatch _ state),
    Action.run_bind_of_ok (Action.run_get state), hrows,
    Action.run_bind_of_ok (Action.run_ofExcept _ state)]
  by_cases hempty : rows.map WorkflowRunRow.runId = []
  · rw [if_pos hempty, hempty, estimate_nil, List.map_eq_nil_iff.mp hempty]
    rfl
  · rw [if_neg hempty, List.length_map]
    rfl

theorem run_pruneRuns_error (hbatch : 1 ≤ batchSize) {error : PyError}
    (herror : Store.eligibleRows policy now state = .error error) (dryRun : Bool) :
    (Store.pruneRuns policy dryRun batchSize now).run state =
      (.error error, state) := by
  rw [Store.pruneRuns,
    Action.run_bind_of_ok (Action.run_require_of hbatch _ state),
    Action.run_bind_of_ok (Action.run_get state), herror]
  exact Action.run_bind_of_error (Action.run_ofExcept _ state) _

/-- When every eligible run has an attempt, the batched deletion is the purge
of the eligible runs and counts what the dry run estimates. -/
theorem foldl_batches_eq_purge (hbatch : 1 ≤ batchSize)
    (hrows : Store.eligibleRows policy now state = .ok rows)
    (hattempts : ∀ runId, EligibleRun policy now state runId →
      HasAttempt state runId) :
    (Store.batches batchSize.toNat (rows.map WorkflowRunRow.runId)).foldl
        Store.pruneBatch (state, .zero) =
      (state.without (state.ownedBy (EligibleRun policy now state)),
        Store.estimate state (rows.map WorkflowRunRow.runId)) := by
  have hsize : 1 ≤ batchSize.toNat := by omega
  have hflatten := flatten_batches hsize (rows.map WorkflowRunRow.runId)
  have hnodup := nodup_eligibleIds hrows
  have hlive : ∀ batch ∈ Store.batches batchSize.toNat
      (rows.map WorkflowRunRow.runId), ∃ runId ∈ batch, HasAttempt state runId := by
    intro batch hmem
    obtain ⟨runId, hrun⟩ :=
      List.exists_mem_of_ne_nil batch (ne_nil_of_mem_batches hsize hmem)
    have hchosen : runId ∈ rows.map WorkflowRunRow.runId :=
      hflatten ▸ List.mem_flatten.mpr ⟨batch, hmem, hrun⟩
    exact ⟨runId, hrun, hattempts runId ((mem_eligibleIds hrows runId).mp hchosen)⟩
  have hstored : ∀ runId ∈ rows.map WorkflowRunRow.runId,
      ∃ row ∈ state.workflowRuns.rows, row.runId = runId := by
    intro runId hmem
    obtain ⟨row, hrow, hid, -⟩ := (mem_eligibleIds hrows runId).mp hmem
    exact ⟨row, hrow, hid⟩
  have hflatNodup : (Store.batches batchSize.toNat
      (rows.map WorkflowRunRow.runId)).flatten.Nodup := by
    rw [hflatten]
    exact hnodup
  rw [foldl_pruneBatch hlive hflatNodup .zero, hflatten, zero_addSummary,
    estimate_eq_count hnodup hstored,
    (addressed_sameOn_ownedBy (mem_eligibleIds hrows)).without_eq]

/-- An eligible run without attempts survives a prune in batches of one run, so
the prune is not exact. -/
theorem not_prunesExactly_of_attemptless {runId : String}
    (heligible : EligibleRun policy now state runId)
    (hattempt : ¬ HasAttempt state runId) :
    ¬ PrunesExactly policy now batchSize state := by
  rintro ⟨report, estimated, hrun, -, -, hother⟩
  obtain ⟨row, hrow, rfl, hchosen⟩ := heligible
  have hsingle := hother 1 (le_refl 1)
  rw [hrun] at hsingle
  have hgone : row ∉ (state.without
      (state.ownedBy (EligibleRun policy now state))).workflowRuns.rows := by
    intro hmem
    have hkept := (List.mem_filter.mp hmem).2
    have hdoomed : EligibleRun policy now state row.runId := ⟨row, hrow, rfl, hchosen⟩
    simp [SqlState.ownedBy, hdoomed] at hkept
  have hkept : row ∈
      ((Store.pruneRuns policy false 1 now).run state).2.workflowRuns.rows := by
    cases hrows : Store.eligibleRows policy now state with
    | error error =>
        rw [run_pruneRuns_error (le_refl 1) hrows]
        exact hrow
    | ok rows =>
        rw [run_pruneRuns_false (le_refl 1) hrows]
        exact foldl_pruneBatch_keeps_attemptless hrow hattempt
          (fun batch hbatch => length_le_of_mem_batches hbatch) .zero
  rw [hsingle] at hkept
  exact hgone hkept

end Main

/-- The retention policy with the default value of every field. -/
def defaultPolicy : RetentionPolicy where
  retentionDays := some 30
  maxRunsPerWorkflow := some 100
  pruneStates := [.succeeded, .cancelled]
  retainFailedRunsDays := some 90
  workflowNames := none
  positive := by decide
  nonempty := by decide
  terminal := by decide

/-- Midnight UTC, `days` days after the first representable moment. -/
def midnight (days : Nat) (hrange : days ≤ 3652058) : DateTime where
  localMicros := days * dayMicros
  offsetMicros := 0
  localRange := by
    unfold maxMicros dayMicros
    omega
  offsetRange := DateTime.offsetRange_zero

theorem valid_running : States.workflowRunViolation .running (some Instant.first) none = none :=
  rfl

/-- Create a run that succeeds without any task. -/
def recordTasklessRun : SqlAction Unit := do
  let running : WorkflowRun :=
    { plainRun with status := .running, startedAt := some .first, valid := valid_running }
  Store.createWorkflowRun plainRun
  Store.updateWorkflowRun running .pending (some (.aware .first))
  Store.updateWorkflowRun
    { running with status := .succeeded, endedAt := some .first, valid := rfl }
    .running (some (.aware .first))

end PyWorkflowKit.Sql
