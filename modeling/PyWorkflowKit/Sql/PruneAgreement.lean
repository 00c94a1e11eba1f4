import PyWorkflowKit.Sql.PruneExactness

/-!
# Selection by the two stores

Both stores rank the runs of a workflow by descending creation time, but break
ties in opposite directions.  They select the same runs exactly when no quota
separates runs that were created at the same time.
-/

namespace PyWorkflowKit.Sql

open PyWorkflowKit.Core PyWorkflowKit.Domain PyWorkflowKit.States
open PyWorkflowKit.Persistence

/-- Both stores hold the same workflow runs. -/
def SameRuns (memory : MemoryState) (sql : SqlState) : Prop :=
  sql.workflowRuns.rows.Perm (memory.workflowRuns.rows.map workflowToRow)

/-- Both selections name the same runs, or both fail in the same way. -/
def SelectSame : Except PyError (List WorkflowRun) →
    Except PyError (List WorkflowRunRow) → Prop
  | .ok runs, .ok rows => ∀ runId : WorkflowRunId,
      runId ∈ runs.map WorkflowRun.runId ↔
        runId.str ∈ rows.map WorkflowRunRow.runId
  | .error left, .error right => left = right
  | _, _ => False

section Ranks

variable (runs : List WorkflowRun) (run : WorkflowRun)

/-- Runs of the same workflow that were created later. -/
def newerRuns : Nat :=
  runs.countP fun other =>
    other.workflowName = run.workflowName ∧ run.createdAt < other.createdAt

/-- Runs of the same workflow and creation time with a smaller id. -/
def tiedBefore : Nat :=
  runs.countP fun other =>
    other.workflowName = run.workflowName ∧ other.createdAt = run.createdAt ∧
      other.runId.str < run.runId.str

/-- Runs of the same workflow and creation time with a larger id. -/
def tiedAfter : Nat :=
  runs.countP fun other =>
    other.workflowName = run.workflowName ∧ other.createdAt = run.createdAt ∧
      run.runId.str < other.runId.str

/-- The key of the descending sort of the in-memory store. -/
def memoryKey (run : WorkflowRun) : (Instant ×ₗ String)ᵒᵈ :=
  OrderDual.toDual (toLex (run.createdAt, run.runId.str))

theorem workflowName_value_eq_iff {left right : WorkflowRun} :
    left.workflowName.value = right.workflowName.value ↔
      left.workflowName = right.workflowName :=
  ⟨Text.ext, fun heq => congrArg Text.value heq⟩

theorem countP_or_of_disjoint {α : Type} (values : List α) (left right : α → Prop)
    [DecidablePred left] [DecidablePred right]
    (hdisjoint : ∀ value, left value → ¬ right value) :
    values.countP (fun value => left value ∨ right value) =
      values.countP (fun value => left value) +
        values.countP fun value => right value := by
  induction values with
  | nil => rfl
  | cons first rest ih =>
      simp only [List.countP_cons, ih]
      by_cases hleft : left first
      · have hright := hdisjoint first hleft
        simp [hleft, hright, Nat.add_right_comm]
      · by_cases hright : right first <;> simp [hleft, hright, Nat.add_assoc]

theorem rankBy_memoryKey :
    rankBy (fun run => run.workflowName.value) memoryKey runs run =
      1 + newerRuns runs run + tiedAfter runs run := by
  rw [rankBy, newerRuns, tiedAfter, Nat.add_assoc, ← countP_or_of_disjoint]
  · congr 1
    apply List.countP_congr
    intro other _
    simp only [decide_eq_true_eq, workflowName_value_eq_iff, memoryKey,
      OrderDual.toDual_lt_toDual, Prod.Lex.toLex_lt_toLex]
    constructor
    · rintro ⟨hname, hnewer | ⟨htied, hid⟩⟩
      · exact Or.inl ⟨hname, hnewer⟩
      · exact Or.inr ⟨hname, htied.symm, hid⟩
    · rintro (⟨hname, hnewer⟩ | ⟨hname, htied, hid⟩)
      · exact ⟨hname, Or.inl hnewer⟩
      · exact ⟨hname, Or.inr ⟨htied.symm, hid⟩⟩
  · rintro other ⟨-, hnewer⟩ ⟨-, htied, -⟩
    exact absurd htied (ne_of_gt hnewer)

theorem rankBy_newestFirst {rows : List WorkflowRunRow}
    (hrows : rows.Perm (runs.map workflowToRow)) :
    rankBy WorkflowRunRow.workflowName Store.newestFirst rows (workflowToRow run) =
      1 + newerRuns runs run + tiedBefore runs run := by
  rw [rankBy, hrows.countP_eq, List.countP_map, newerRuns, tiedBefore,
    Nat.add_assoc, ← countP_or_of_disjoint]
  · congr 1
    apply List.countP_congr
    intro other _
    simp only [Function.comp_apply, decide_eq_true_eq, workflowToRow,
      Store.newestFirst, Prod.Lex.toLex_lt_toLex, OrderDual.toDual_lt_toDual,
      OrderDual.toDual_inj, workflowName_value_eq_iff]
    constructor
    · rintro ⟨hname, hnewer | ⟨htied, hid⟩⟩
      · exact Or.inl ⟨hname, hnewer⟩
      · exact Or.inr ⟨hname, htied, hid⟩
    · rintro (⟨hname, hnewer⟩ | ⟨hname, htied, hid⟩)
      · exact ⟨hname, Or.inl hnewer⟩
      · exact ⟨hname, Or.inr ⟨htied, hid⟩⟩
  · rintro other ⟨-, hnewer⟩ ⟨-, htied, -⟩
    exact absurd htied (ne_of_gt hnewer)

end Ranks

section Agreement

variable {policy : RetentionPolicy} {now : DateTime} {memory : MemoryState}
  {sql : SqlState}

/-- A run of a selected workflow in a status that the policy prunes. -/
def PrunableRun (policy : RetentionPolicy) (run : WorkflowRun) : Prop :=
  policy.selectsName run.workflowName.value = true ∧
    policy.prunes run.status = true

/-- Some prunable run has a cutoff that no datetime represents. -/
def CutoffOverflows (policy : RetentionPolicy) (now : DateTime)
    (runs : List WorkflowRun) : Prop :=
  ∃ run ∈ runs, PrunableRun policy run ∧
    ¬ policy.CutoffFits now (run.status = .failed)

/-- The quota falls outside every group of runs that were created together:
a prunable run that is not expired has its tied runs on one side of it. -/
def QuotaRespectsTies (policy : RetentionPolicy) (now : DateTime)
    (runs : List WorkflowRun) : Prop :=
  ∀ run ∈ runs, PrunableRun policy run →
    ¬ policy.Expired now (run.status = .failed) run.createdAt →
      ∀ quota ∈ policy.maxRunsPerWorkflow,
        newerRuns runs run + tiedBefore runs run < quota ↔
          newerRuns runs run + tiedAfter runs run < quota

theorem nodup_memoryKey (memory : MemoryState) :
    (memory.workflowRuns.rows.map memoryKey).Nodup := by
  refine List.Nodup.of_map
    (fun key : (Instant ×ₗ String)ᵒᵈ => (ofLex (OrderDual.ofDual key)).2) ?_
  rw [List.map_map]
  have hids := memory.workflowRuns.nodup.map fun _ _ => WorkflowRunId.str_injective
  rwa [List.map_map] at hids

/-- The names of the groups of the in-memory store. -/
def memoryNames (policy : RetentionPolicy) (memory : MemoryState) : List String :=
  ((memory.workflowRuns.rows.filter fun run =>
    policy.selectsName run.workflowName.value).map
      fun run => run.workflowName.value).reverse.dedup.reverse

theorem mem_memoryNames {run : WorkflowRun}
    (hrun : run ∈ memory.workflowRuns.rows) :
    run.workflowName.value ∈ memoryNames policy memory ↔
      policy.selectsName run.workflowName.value = true := by
  simp only [memoryNames, List.mem_reverse, List.mem_dedup, List.mem_map,
    List.mem_filter]
  constructor
  · rintro ⟨other, ⟨-, hselected⟩, hname⟩
    exact hname ▸ hselected
  · intro hselected
    exact ⟨run, ⟨hrun, hselected⟩, rfl⟩

theorem eligibleRuns_eq_chooseGrouped :
    Memory.eligibleRuns policy now memory =
      chooseGrouped (fun run rank => policy.eligible now (policy.prunes run.status)
          (run.status = .failed) run.createdAt rank)
        (fun run => run.workflowName.value) memoryKey memory.workflowRuns.rows
        (memoryNames policy memory) := by
  have hgroup : ∀ name ∈ memoryNames policy memory,
      ((memory.workflowRuns.rows.filter fun run =>
        policy.selectsName run.workflowName.value).filter fun run =>
          run.workflowName.value = name) =
        memory.workflowRuns.rows.filter fun run => run.workflowName.value = name := by
    intro name hname
    simp only [memoryNames, List.mem_reverse, List.mem_dedup, List.mem_map,
      List.mem_filter] at hname
    obtain ⟨run, ⟨-, hselected⟩, rfl⟩ := hname
    rw [List.filter_filter]
    apply List.filter_congr
    intro other _
    by_cases hname : other.workflowName.value = run.workflowName.value
    · simp [hname, hselected]
    · simp [hname]
  rw [Memory.eligibleRuns, Memory.runsByWorkflow, chooseGrouped, List.map_map]
  congr 2
  apply List.map_congr_left
  intro name hname
  rw [Function.comp_apply, Memory.eligibleOfWorkflow, hgroup name hname]
  rfl

/-- The selection of the in-memory store. -/
theorem eligibleRuns_eq_ok {runs : List WorkflowRun}
    (hruns : Memory.eligibleRuns policy now memory = .ok runs) :
    ¬ CutoffOverflows policy now memory.workflowRuns.rows ∧
      ∀ run, run ∈ runs ↔ run ∈ memory.workflowRuns.rows ∧
        PrunableRun policy run ∧
          (policy.Expired now (run.status = .failed) run.createdAt ∨
            policy.Surplus (1 + newerRuns memory.workflowRuns.rows run +
              tiedAfter memory.workflowRuns.rows run)) := by
  rw [eligibleRuns_eq_chooseGrouped] at hruns
  obtain ⟨hdecided, hmembers⟩ := chooseGrouped_eq_ok (nodup_memoryKey memory) hruns
  refine ⟨?_, ?_⟩
  · rintro ⟨run, hrun, ⟨hname, hstatus⟩, hnot⟩
    obtain ⟨flag, hflag⟩ := hdecided run hrun ((mem_memoryNames hrun).mpr hname)
    exact hnot ((RetentionPolicy.eligible_eq_ok hflag).1 hstatus)
  · intro run
    rw [hmembers run, ← rankBy_memoryKey]
    constructor
    · rintro ⟨hrun, hname, hflag⟩
      obtain ⟨hstatus, hchosen⟩ := (RetentionPolicy.eligible_eq_ok hflag).2.mp rfl
      exact ⟨hrun, ⟨(mem_memoryNames hrun).mp hname, hstatus⟩, hchosen⟩
    · rintro ⟨hrun, ⟨hname, hstatus⟩, hchosen⟩
      have hmember := (mem_memoryNames hrun).mpr hname
      obtain ⟨flag, hflag⟩ := hdecided run hrun hmember
      have htrue := (RetentionPolicy.eligible_eq_ok hflag).2.mpr ⟨hstatus, hchosen⟩
      exact ⟨hrun, hmember, by rw [hflag, htrue]⟩

theorem eligibleRuns_eq_error {error : PyError}
    (herror : Memory.eligibleRuns policy now memory = .error error) :
    error = .overflowError "date value out of range" ∧
      CutoffOverflows policy now memory.workflowRuns.rows := by
  rw [eligibleRuns_eq_chooseGrouped] at herror
  obtain ⟨run, hrun, hname, hfailed⟩ :=
    chooseGrouped_eq_error (nodup_memoryKey memory) herror
  obtain ⟨hstatus, hnot, heq⟩ := RetentionPolicy.eligible_eq_error hfailed
  exact ⟨heq, run, hrun, ⟨(mem_memoryNames hrun).mp hname, hstatus⟩, hnot⟩

theorem prunable_workflowToRow {run : WorkflowRun} :
    Prunable policy (workflowToRow run) ↔ PrunableRun policy run := by
  constructor
  · rintro ⟨hname, status, hvalue, hprunes⟩
    have heq : run.status = status := StrEnum.value_injective hvalue
    exact ⟨hname, heq ▸ hprunes⟩
  · rintro ⟨hname, hprunes⟩
    exact ⟨hname, run.status, rfl, hprunes⟩

theorem failed_workflowToRow (run : WorkflowRun) :
    ((workflowToRow run).status = WorkflowRunStatus.failed.value) ↔
      run.status = .failed :=
  ⟨fun hvalue => StrEnum.value_injective hvalue, fun heq => congrArg WorkflowRunStatus.value heq⟩

/-- Equal contents have cutoffs that fit, or do not, in both stores. -/
theorem cutoffsFit_iff (hsame : SameRuns memory sql) :
    CutoffsFit policy now sql ↔
      ¬ CutoffOverflows policy now memory.workflowRuns.rows := by
  have hmem : ∀ row, row ∈ sql.workflowRuns.rows ↔
      ∃ run ∈ memory.workflowRuns.rows, workflowToRow run = row := by
    intro row
    rw [hsame.mem_iff, List.mem_map]
  constructor
  · rintro hfit ⟨run, hrun, hprunable, hnot⟩
    have hrow := hfit _ ((hmem _).mpr ⟨run, hrun, rfl⟩)
      (prunable_workflowToRow.mpr hprunable)
    simp only [failed_workflowToRow] at hrow
    exact hnot hrow
  · intro hfits row hrow hprunable
    obtain ⟨run, hrun, rfl⟩ := (hmem row).mp hrow
    simp only [failed_workflowToRow]
    by_contra hnot
    exact hfits ⟨run, hrun, prunable_workflowToRow.mp hprunable, hnot⟩

/-- The selection of the relational store, on the runs of the in-memory one. -/
theorem mem_eligibleRows_workflowToRow (hsame : SameRuns memory sql)
    {rows : List WorkflowRunRow}
    (hrows : Store.eligibleRows policy now sql = .ok rows) (run : WorkflowRun)
    (hrun : run ∈ memory.workflowRuns.rows) :
    run.runId.str ∈ rows.map WorkflowRunRow.runId ↔ PrunableRun policy run ∧
      (policy.Expired now (run.status = .failed) run.createdAt ∨
        policy.Surplus (1 + newerRuns memory.workflowRuns.rows run +
          tiedBefore memory.workflowRuns.rows run)) := by
  have hrow : workflowToRow run ∈ sql.workflowRuns.rows :=
    hsame.mem_iff.mpr (List.mem_map_of_mem hrun)
  have hunique : run.runId.str ∈ rows.map WorkflowRunRow.runId ↔
      workflowToRow run ∈ rows := by
    constructor
    · intro hmem
      obtain ⟨row, hchosen, hid⟩ := List.mem_map.mp hmem
      have hstored := (((eligibleRows_eq_ok hrows).2 row).mp hchosen).1
      rwa [← sql.workflowRuns.eq_of_mem hstored hrow hid]
    · intro hmem
      exact List.mem_map.mpr ⟨_, hmem, rfl⟩
  rw [hunique, (eligibleRows_eq_ok hrows).2, prunable_workflowToRow,
    ← rankBy_newestFirst _ _ hsame]
  simp only [failed_workflowToRow]
  exact ⟨And.right, And.intro hrow⟩

end Agreement

/-- Keep one run of every workflow. -/
def keepOnePolicy : RetentionPolicy where
  retentionDays := none
  maxRunsPerWorkflow := some 1
  pruneStates := [.succeeded]
  retainFailedRunsDays := none
  workflowNames := none
  positive := by decide
  nonempty := by decide
  terminal := by decide

/-- A succeeded run of one workflow, created at the first moment. -/
def settledRun (runId : WorkflowRunId) : WorkflowRun :=
  { plainRun with
    runId := runId, status := .succeeded, startedAt := some .first,
    endedAt := some .first, valid := rfl }

/-- Two runs that were created together, in the in-memory store. -/
def tiedMemory : MemoryState :=
  (MemoryState.empty.withWorkflowRun (settledRun ⟨.lit "run-1"⟩)).withWorkflowRun
    (settledRun ⟨.lit "run-2"⟩)

/-- The same two runs in the relational store. -/
def tiedSql : SqlState :=
  { SqlState.empty with
    workflowRuns := (Table.empty.set
      (workflowToRow (settledRun ⟨.lit "run-1"⟩))).set
        (workflowToRow (settledRun ⟨.lit "run-2"⟩)) }

end PyWorkflowKit.Sql
