import PyWorkflowKit.V1.Memory

/-!
# What the writes of a unit of work do

When each write call returns and which row it assigns.  No write refuses a resume.
-/

namespace PyWorkflowKit.V1

open PyWorkflowKit.Core PyWorkflowKit.Domain

/-- The error is a `ResumeError`. -/
def Error.isResume : Error → Bool
  | .resume _ _ => true
  | _ => false

namespace MemoryState

variable {store after : MemoryState}

section Writes

theorem write_addWorkflowRun (run : WorkflowRun) :
    store.write (.addWorkflowRun run) = .ok after ↔
      store.workflowRuns.contains run.runId = false ∧
        after = { store with workflowRuns := store.workflowRuns.set run } := by
  simp only [write, addWorkflowRun]
  split
  all_goals
    next hcondition => simp [hcondition, @eq_comm _ _ after]

theorem write_saveWorkflowRun (run : WorkflowRun) :
    store.write (.saveWorkflowRun run) = .ok after ↔
      store.workflowRuns.contains run.runId = true ∧
        after = { store with workflowRuns := store.workflowRuns.set run } := by
  simp only [write, saveWorkflowRun]
  split
  all_goals
    next hcondition => simp [hcondition, @eq_comm _ _ after]

theorem write_addTaskRun (taskRun : TaskRun) :
    store.write (.addTaskRun taskRun) = .ok after ↔
      store.taskRuns.contains taskRun.taskRunId = false ∧
        store.workflowRuns.contains taskRun.runId = true ∧
        after = { store with taskRuns := store.taskRuns.set taskRun } := by
  simp only [write, addTaskRun]
  split
  · next hfirst => simp [hfirst]
  · next hfirst =>
    split
    all_goals
      next hsecond => simp [hfirst, hsecond, @eq_comm _ _ after]

theorem write_saveTaskRun (taskRun : TaskRun) :
    store.write (.saveTaskRun taskRun) = .ok after ↔
      store.taskRuns.contains taskRun.taskRunId = true ∧
        after = { store with taskRuns := store.taskRuns.set taskRun } := by
  simp only [write, saveTaskRun]
  split
  all_goals
    next hcondition => simp [hcondition, @eq_comm _ _ after]

theorem write_addTaskAttempt (attempt : TaskAttempt) :
    store.write (.addTaskAttempt attempt) = .ok after ↔
      store.taskAttempts.contains attempt.attemptId = false ∧
        store.taskRuns.contains attempt.taskRunId = true ∧
        store.numberTaken attempt = false ∧
        after = { store with taskAttempts := store.taskAttempts.set attempt } := by
  simp only [write, addTaskAttempt]
  split
  · next hfirst => simp [hfirst]
  · next hfirst =>
    split
    · next hsecond => simp [hfirst, hsecond]
    · next hsecond =>
      have hpresent := not_not.mp hsecond
      split
      all_goals
        next hthird => simp [hfirst, hpresent, hthird, @eq_comm _ _ after]

theorem write_saveTaskAttempt (attempt : TaskAttempt) :
    store.write (.saveTaskAttempt attempt) = .ok after ↔
      store.taskAttempts.contains attempt.attemptId = true ∧
        after = { store with taskAttempts := store.taskAttempts.set attempt } := by
  simp only [write, saveTaskAttempt]
  split
  all_goals
    next hcondition => simp [hcondition, @eq_comm _ _ after]

theorem write_addEvent (event : RuntimeEvent) :
    store.write (.addEvent event) = .ok after ↔
      store.events.contains event.eventId = false ∧
        store.workflowRuns.contains event.runId = true ∧
        (∃ sequence ∈ event.eventSequence,
          (store.sequences event.runId).foldr max 0 < sequence) ∧
        after = { store with events := store.events.set event } := by
  simp only [write, addEvent]
  split
  · next hfirst => simp [hfirst]
  · next hfirst =>
    split
    · next hsecond => simp [hfirst, hsecond]
    · next hsecond =>
      have hpresent := not_not.mp hsecond
      split
      · next hlater =>
        constructor
        · rintro ⟨rfl⟩
          exact ⟨by simpa using hfirst, hpresent, hlater, rfl⟩
        · rintro ⟨-, -, -, rfl⟩
          rfl
      · next hnot =>
        constructor
        · intro hraised
          cases hraised
        · rintro ⟨-, -, hlater, -⟩
          exact absurd hlater hnot

theorem write_addTaskOutputCheckpoint (taskRunId : TaskRunId) (output : PyValue) :
    store.write (.addTaskOutputCheckpoint taskRunId output) = .ok after ↔
      store.taskRuns.contains taskRunId = true ∧
        store.taskOutputs.contains taskRunId = false ∧
        ∃ normalized,
          portableJsonValue ("task_output_checkpoint." ++ taskRunId.str) output =
              .ok normalized ∧
            after = { store with taskOutputs := store.taskOutputs.set ⟨taskRunId, normalized⟩ } := by
  simp only [write, addTaskOutputCheckpoint]
  split
  · next hfirst => simp [hfirst]
  · next hfirst =>
    have hpresent := not_not.mp hfirst
    split
    · next hsecond => simp [hsecond]
    · next hsecond =>
      cases portableJsonValue ("task_output_checkpoint." ++ taskRunId.str) output with
      | error raised => simp [Except.map]
      | ok normalized => simp [hpresent, hsecond, Except.map, @eq_comm _ _ after]

theorem write_addArtifact (taskRunId : TaskRunId) (artifact : ArtifactReference) :
    store.write (.addArtifact taskRunId artifact) = .ok after ↔
      store.taskRuns.contains taskRunId = true ∧
        store.artifacts.contains artifact.artifactId = false ∧
        after = { store with artifacts := store.artifacts.set ⟨taskRunId, artifact⟩ } := by
  simp only [write, addArtifact]
  split
  · next hfirst => simp [hfirst]
  · next hfirst =>
    have hpresent := not_not.mp hfirst
    split
    all_goals
      next hsecond => simp [hpresent, hsecond, @eq_comm _ _ after]

theorem write_addExternalRunRef (taskRunId : TaskRunId) (externalRef : ExternalRunRef) :
    store.write (.addExternalRunRef taskRunId externalRef) = .ok after ↔
      store.taskRuns.contains taskRunId = true ∧
        store.externalRefs.contains externalRef.externalRefId = false ∧
        after = { store with
          externalRefs := store.externalRefs.set ⟨taskRunId, externalRef⟩ } := by
  simp only [write, addExternalRunRef]
  split
  · next hfirst => simp [hfirst]
  · next hfirst =>
    have hpresent := not_not.mp hfirst
    split
    all_goals
      next hsecond => simp [hpresent, hsecond, @eq_comm _ _ after]

end Writes

section Units

theorem unitOfWork_nil (store : MemoryState) : store.unitOfWork [] = .ok store := rfl

theorem unitOfWork_cons (call : WriteCall) (calls : List WriteCall) (store : MemoryState) :
    store.unitOfWork (call :: calls) =
      match store.write call with
      | .error error => .error error
      | .ok written => written.unitOfWork calls := by
  change ((((store.write call).map some) >>= fun written =>
    calls.foldlM MemoryUnitOfWork.write written) >>= fun written =>
      MemoryUnitOfWork.commit written >>= fun committed => .ok committed.1) = _
  cases store.write call <;> rfl

theorem unitOfWork_cons_eq_ok {call : WriteCall} {calls : List WriteCall} :
    store.unitOfWork (call :: calls) = .ok after ↔
      ∃ written, store.write call = .ok written ∧ written.unitOfWork calls = .ok after := by
  rw [unitOfWork_cons]
  cases store.write call <;> simp

theorem unitOfWork_append {first second : List WriteCall} :
    store.unitOfWork (first ++ second) = .ok after ↔
      ∃ between, store.unitOfWork first = .ok between ∧
        between.unitOfWork second = .ok after := by
  induction first generalizing store with
  | nil => simp [unitOfWork_nil]
  | cons call rest ih =>
      rw [List.cons_append, unitOfWork_cons_eq_ok]
      simp only [ih, unitOfWork_cons_eq_ok]
      constructor
      · rintro ⟨written, hwrite, between, hfirst, hsecond⟩
        exact ⟨between, ⟨written, hwrite, hfirst⟩, hsecond⟩
      · rintro ⟨between, ⟨written, hwrite, hfirst⟩, hsecond⟩
        exact ⟨written, hwrite, between, hfirst, hsecond⟩

/-- A relation that every write of a unit of work keeps is kept by the unit of work. -/
theorem unitOfWork_induction {kept : MemoryState → MemoryState → Prop}
    (hrefl : ∀ store, kept store store)
    (htrans : ∀ first second third, kept first second → kept second third → kept first third)
    {calls : List WriteCall}
    (hcalls : ∀ call ∈ calls, ∀ before after, before.write call = .ok after →
      kept before after)
    (hwritten : store.unitOfWork calls = .ok after) : kept store after := by
  induction calls generalizing store with
  | nil =>
      cases hwritten
      exact hrefl _
  | cons call rest ih =>
      obtain ⟨written, hwrite, hrest⟩ := unitOfWork_cons_eq_ok.mp hwritten
      exact htrans _ _ _ (hcalls call List.mem_cons_self _ _ hwrite)
        (ih (fun other hother => hcalls other (List.mem_cons_of_mem _ hother)) hrest)

end Units

end MemoryState

section Errors

theorem error_of_mapM_id {α : Type} {results : List (Except Error α)} {error : Error}
    (hmap : results.mapM id = .error error) : .error error ∈ results := by
  induction results with
  | nil => cases hmap
  | cons result rest ih =>
      rw [List.mapM_cons] at hmap
      cases result with
      | error raised =>
          cases hmap
          exact List.mem_cons_self
      | ok value =>
          cases hrest : rest.mapM id with
          | error raised =>
              simp only [hrest, id] at hmap
              cases hmap
              exact List.mem_cons_of_mem _ (ih hrest)
          | ok values =>
              simp only [hrest, id] at hmap
              cases hmap

mutual

theorem portableJsonValue_ne_resume (path : String) (value : PyValue) {error : Error}
    (hvalue : portableJsonValue path value = .error error) : error.isResume = false := by
  cases value with
  | none | str _ | bool _ | int _ =>
      simp [portableJsonValue] at hvalue
  | float repr finite =>
      simp only [portableJsonValue] at hvalue
      split at hvalue
      · cases hvalue
      · cases hvalue
        rfl
  | enum value =>
      rw [portableJsonValue] at hvalue
      exact portableJsonValue_ne_resume path value hvalue
  | dict members =>
      rw [portableJsonValue] at hvalue
      cases hmap : ((sortBy Prod.fst (portableMembers path members)).map Prod.snd).mapM id with
      | ok normalized =>
          rw [hmap] at hvalue
          cases hvalue
      | error raised =>
          rw [hmap] at hvalue
          cases hvalue
          obtain ⟨entry, hentry, hraised⟩ := List.mem_map.mp (error_of_mapM_id hmap)
          rw [mem_sortBy] at hentry
          exact portableMembers_ne_resume path members entry hentry hraised
  | list items =>
      rw [portableJsonValue] at hvalue
      cases hmap : (portableItems path 0 items).mapM id with
      | ok normalized =>
          rw [hmap] at hvalue
          cases hvalue
      | error raised =>
          rw [hmap] at hvalue
          cases hvalue
          exact portableItems_ne_resume path 0 items (error_of_mapM_id hmap)
  | tuple items =>
      rw [portableJsonValue] at hvalue
      cases hmap : (portableItems path 0 items).mapM id with
      | ok normalized =>
          rw [hmap] at hvalue
          cases hvalue
      | error raised =>
          rw [hmap] at hvalue
          cases hvalue
          exact portableItems_ne_resume path 0 items (error_of_mapM_id hmap)
  | other typeName =>
      simp only [portableJsonValue] at hvalue
      cases hvalue
      rfl

theorem portableItems_ne_resume (path : String) (index : Nat) (items : List PyValue)
    {error : Error} (hmem : .error error ∈ portableItems path index items) :
    error.isResume = false := by
  cases items with
  | nil => simp [portableItems] at hmem
  | cons item rest =>
      rw [portableItems, List.mem_cons] at hmem
      rcases hmem with hitem | hrest
      · exact portableJsonValue_ne_resume _ item hitem.symm
      · exact portableItems_ne_resume path (index + 1) rest hrest

theorem portableMembers_ne_resume (path : String) (members : List (PyKey × PyValue))
    (entry : String × Except Error (String × PyValue))
    (hmem : entry ∈ portableMembers path members) {error : Error}
    (hentry : entry.2 = .error error) : error.isResume = false := by
  cases members with
  | nil => simp [portableMembers] at hmem
  | cons member rest =>
      obtain ⟨key, value⟩ := member
      simp only [portableMembers, List.mem_cons] at hmem
      rcases hmem with rfl | hrest
      · cases key with
        | str name =>
            simp only at hentry
            cases hvalue : portableJsonValue (path ++ "." ++ name) value with
            | error raised =>
                rw [hvalue] at hentry
                cases hentry
                exact portableJsonValue_ne_resume _ value hvalue
            | ok normalized =>
                rw [hvalue] at hentry
                cases hentry
        | other typeName =>
            cases hentry
            rfl
      · exact portableMembers_ne_resume path rest entry hrest hentry

end

/-- A write call that fails does not refuse a resume. -/
theorem MemoryState.write_ne_resume {store : MemoryState} {call : WriteCall} {error : Error}
    (hwrite : store.write call = .error error) : error.isResume = false := by
  cases call with
  | addTaskOutputCheckpoint taskRunId output =>
      simp only [write, addTaskOutputCheckpoint] at hwrite
      split at hwrite
      · cases hwrite
        rfl
      · split at hwrite
        · cases hwrite
          rfl
        · cases hvalue : portableJsonValue
              ("task_output_checkpoint." ++ taskRunId.str) output with
          | ok normalized =>
              rw [hvalue] at hwrite
              cases hwrite
          | error raised =>
              rw [hvalue] at hwrite
              cases hwrite
              exact portableJsonValue_ne_resume _ _ hvalue
  | _ =>
      simp only [write, addWorkflowRun, saveWorkflowRun, addTaskRun, saveTaskRun,
        addTaskAttempt, saveTaskAttempt, addEvent, addArtifact, addExternalRunRef] at hwrite
      repeat' split at hwrite
      all_goals first
        | cases hwrite
          rfl
        | cases hwrite

theorem MemoryState.unitOfWork_ne_resume {calls : List WriteCall} {store : MemoryState}
    {error : Error} (hwritten : store.unitOfWork calls = .error error) :
    error.isResume = false := by
  induction calls generalizing store with
  | nil => cases hwritten
  | cons call rest ih =>
      rw [unitOfWork_cons] at hwritten
      split at hwritten
      · next raised hwrite =>
        cases hwritten
        exact write_ne_resume hwrite
      · exact ih hwritten

end Errors

end PyWorkflowKit.V1
