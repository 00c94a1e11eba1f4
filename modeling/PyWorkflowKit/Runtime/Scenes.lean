import PyWorkflowKit.Runtime.Records
import PyWorkflowKit.Runtime.Transitions

/-!
# A run that only one procedure writes

The surroundings of a procedure that alone writes the records of one run, while
other runs go on in the same store, and the rules for its steps on the record of
the run.
-/

namespace PyWorkflowKit.Runtime

open PyWorkflowKit.Core PyWorkflowKit.Domain PyWorkflowKit.States
open PyWorkflowKit.Persistence PyWorkflowKit.Executors Program

/-- A run in progress among others: which runs nobody writes any more, what the
services may answer, and which ids nobody else gives to a task or an attempt. -/
structure Setting where
  runId : WorkflowRunId
  settled : WorkflowRunId → Prop
  answers : RunRecord → (service : Service) → service.Answer → Prop
  taskIds : TaskRunId → Prop
  attemptIds : TaskAttemptId → Prop

/-- What happens to the record of a run outside of its procedure: an executor that is
called answers. -/
def Drifts (runId : WorkflowRunId) (moment : Option Service) (before after : RunRecord) :
    Prop :=
  match moment with
  | some (.execute request) =>
      if request.context.workflowRunId = runId then
        ∃ answer, after =
          { before with executions := before.executions ++ [(request, answer)] }
      else after = before
  | _ => after = before

/-- The answer of an executor is the one that is recorded, and the run gets its id. -/
def Faithful (runId : WorkflowRunId) (record : RunRecord) :
    (service : Service) → service.Answer → Prop
  | .execute request, answer => request.context.workflowRunId = runId →
      record.executions.getLast? = some (request, answer)
  | .newWorkflowRunId, answer => answer = runId
  | _, _ => True

/-- Only the run itself has tasks and attempts with the ids that are kept for it. -/
structure Setting.Reserved (setting : Setting) (store : MemoryState) : Prop where
  taskIds : ∀ taskRunId, setting.taskIds taskRunId →
    ∀ owner ∈ store.ownerOf (.taskRun, taskRunId.value), owner = setting.runId
  attemptIds : ∀ attemptId, setting.attemptIds attemptId →
    ∀ owner ∈ store.ownerOf (.taskAttempt, attemptId.value), owner = setting.runId

/-- Others may go on with their own runs. -/
structure Setting.Elsewhere (setting : Setting) (moment : Option Service)
    (before after : World) : Prop where
  consistent : before.store.Consistent → after.store.Consistent
  record : Drifts setting.runId moment (before.record setting.runId)
    (after.record setting.runId)
  archives : ∀ other, setting.settled other →
    after.store.archive other = before.store.archive other
  reserved : setting.Reserved before.store → setting.Reserved after.store
  externalRefs : ∀ attemptId, setting.attemptIds attemptId →
    after.store.listExternalRunRefs attemptId = before.store.listExternalRunRefs attemptId

/-- The surroundings of a run that only one procedure writes. -/
def Setting.surroundings (setting : Setting) : Surroundings Service Service.Answer World where
  drift := setting.Elsewhere
  allows world service answer :=
    setting.answers (world.record setting.runId) service answer ∧
      Faithful setting.runId (world.record setting.runId) service answer

/-- The services give what they should: the clock knows its time zone, and no id is
given twice. -/
structure Setting.Orderly (setting : Setting) : Prop where
  clock : ∀ record, ¬ setting.answers record .now none
  taskIds : ∀ record taskRunId, setting.answers record .newTaskRunId taskRunId →
    setting.taskIds taskRunId ∧ ∀ task ∈ record.tasks, task.taskRun.taskRunId ≠ taskRunId
  attemptIds : ∀ record attemptId, setting.answers record .newTaskAttemptId attemptId →
    setting.attemptIds attemptId ∧
      ∀ task ∈ record.tasks, ∀ attempt ∈ task.attempts, attempt.attemptId ≠ attemptId

/-- A setting with what is to be shown of the procedure: when it may call an executor,
and what its writes keep. -/
structure Scene extends Setting where
  archives : WorkflowRunId → MemoryState.Archive
  admits : RunRecord → TaskExecutionRequest → Prop
  keeps : RunRecord → RunRecord → Prop
  unsettled : ¬ settled runId

/-- Writes of the run itself leave the ids that are kept for it. -/
theorem Setting.Reserved.write {setting : Setting} {store after : MemoryState}
    (hreserved : setting.Reserved store)
    (hwrite : MemoryState.RunWrite store setting.runId after) : setting.Reserved after := by
  have hkept : ∀ entity, (∀ owner ∈ store.ownerOf entity, owner = setting.runId) →
      ∀ owner ∈ after.ownerOf entity, owner = setting.runId := by
    intro entity hbefore owner howner
    rcases hwrite.ownerOf_eq entity with heq | heq
    · rw [heq] at howner
      exact hbefore owner howner
    · rw [heq] at howner
      exact (Option.some.inj howner).symm
  exact ⟨fun taskRunId hid => hkept _ (hreserved.taskIds taskRunId hid),
    fun attemptId hid => hkept _ (hreserved.attemptIds attemptId hid)⟩

namespace Scene

def contract (scene : Scene) : Contract Service Service.Answer World where
  toSurroundings := scene.surroundings
  guarantee before after :=
    after.store.Consistent ∧
      (after.record scene.runId = before.record scene.runId ∨
        scene.keeps (before.record scene.runId) (after.record scene.runId)) ∧
      ∀ other, scene.settled other → after.store.archive other = before.store.archive other
  enters world service :=
    match service with
    | .execute request => scene.admits (world.record scene.runId) request
    | _ => True

/-- The run has this record and the settled runs have their archives. -/
structure Stands (scene : Scene) (record : RunRecord) (world : World) : Prop where
  consistent : world.store.Consistent
  record : world.record scene.runId = record
  archives : ∀ other, scene.settled other →
    world.store.archive other = scene.archives other
  reserved : scene.Reserved world.store

/-- Started where the run has this record, a procedure keeps its contract and ends as
`post` says. -/
def Ensures (scene : Scene) {α : Type} (procedure : Procedure α) (record : RunRecord)
    (post : Except PyError α → RunRecord → Prop) : Prop :=
  ∀ world, scene.Stands record world →
    procedure.Meets scene.contract
      (fun result after => ∃ last, scene.Stands last after ∧ post result last) world

variable {scene : Scene} {α β : Type} {record : RunRecord}
  {post : Except PyError α → RunRecord → Prop}

theorem Stands.sound {world : World} (hstands : scene.Stands record world) :
    record.Sound scene.runId := by
  rw [← hstands.record]
  exact World.record_sound hstands.consistent scene.runId

theorem Stands.drift {world drifted : World} {moment : Option Service}
    (hstands : scene.Stands record world)
    (hdrift : scene.contract.drift moment world drifted) :
    ∃ next, Drifts scene.runId moment record next ∧ scene.Stands next drifted := by
  have hrecord := hdrift.record
  rw [hstands.record] at hrecord
  exact ⟨_, hrecord, hdrift.consistent hstands.consistent, rfl, fun other hother =>
    (hdrift.archives other hother).trans (hstands.archives other hother),
    hdrift.reserved hstands.reserved⟩

section Rules

/-- What a record is known to satisfy may be used. -/
theorem ensures_of_sound {procedure : Procedure α}
    (h : record.Sound scene.runId → scene.Ensures procedure record post) :
    scene.Ensures procedure record post :=
  fun world hstands => h hstands.sound world hstands

theorem ensures_done {result : Except PyError α} (hpost : post result record) :
    scene.Ensures (.done result) record post :=
  fun _ hstands => ⟨record, hstands, hpost⟩

theorem ensures_pure {value : α} (hpost : post (.ok value) record) :
    scene.Ensures (pure value) record post := ensures_done hpost

theorem ensures_raise {error : PyError} (hpost : post (.error error) record) :
    scene.Ensures (.raise error) record post := ensures_done hpost

theorem ensures_ofExcept {result : Except PyError α} (hpost : post result record) :
    scene.Ensures (.ofExcept result) record post := ensures_done hpost

theorem ensures_require {condition : Prop} [Decidable condition] {error : PyError}
    {post : Except PyError Unit → RunRecord → Prop}
    (hok : condition → post (.ok ()) record)
    (herror : ¬ condition → post (.error error) record) :
    scene.Ensures (.require condition error) record post := by
  unfold Program.require
  split
  · next hcondition => exact ensures_done (hok hcondition)
  · next hcondition => exact ensures_done (herror hcondition)

theorem Ensures.mono {procedure : Procedure α}
    {post' : Except PyError α → RunRecord → Prop}
    (hensures : scene.Ensures procedure record post)
    (himp : ∀ result last, post result last → post' result last) :
    scene.Ensures procedure record post' := by
  intro world hstands
  refine (hensures world hstands).mono fun result after hresult => ?_
  obtain ⟨last, hlast, hpost⟩ := hresult
  exact ⟨last, hlast, himp result last hpost⟩

theorem Ensures.bind {first : Procedure α} {next : α → Procedure β}
    {middle : Except PyError α → RunRecord → Prop}
    {post : Except PyError β → RunRecord → Prop}
    (hfirst : scene.Ensures first record middle)
    (hok : ∀ value last, middle (.ok value) last → scene.Ensures (next value) last post)
    (herror : ∀ error last, middle (.error error) last → post (.error error) last) :
    scene.Ensures (first >>= next) record post := by
  intro world hstands
  refine (hfirst world hstands).bind ?_ ?_
  · rintro value after ⟨last, hlast, hmiddle⟩
    exact hok value last hmiddle after hlast
  · rintro error after ⟨last, hlast, hmiddle⟩
    exact ⟨last, hlast, herror error last hmiddle⟩

theorem ensures_ofExcept_bind {result : Except PyError α} {next : α → Procedure β}
    {post : Except PyError β → RunRecord → Prop}
    (hok : ∀ value, result = .ok value → scene.Ensures (next value) record post)
    (herror : ∀ error, result = .error error → post (.error error) record) :
    scene.Ensures (.ofExcept result >>= next) record post := by
  cases result with
  | ok value => exact hok value rfl
  | error error => exact ensures_done (herror error rfl)

/-- A call other than of an executor leaves the record. -/
theorem ensures_ask {service : Service} {post : Except PyError service.Answer → RunRecord → Prop}
    (hservice : ∀ request, service ≠ .execute request)
    (hpost : ∀ answer, scene.answers record service answer →
      Faithful scene.runId record service answer → post (.ok answer) record) :
    scene.Ensures (Program.ask service) record post := by
  intro world hstands
  rw [meets_ask]
  constructor
  · unfold contract
    cases service <;> first | trivial | exact absurd rfl (hservice _)
  · intro drifted hdrift answer hallows
    obtain ⟨next, hnext, hstands'⟩ := hstands.drift hdrift
    have hsame : next = record := by
      cases service <;> first | exact hnext | exact absurd rfl (hservice _)
    subst hsame
    obtain ⟨hanswers, hfaithful⟩ := hallows
    rw [hstands'.record] at hanswers hfaithful
    exact ⟨next, hstands', hpost answer hanswers hfaithful⟩

/-- The call of an executor is recorded with its answer. -/
theorem ensures_execute {request : TaskExecutionRequest}
    {post : Except PyError Execution → RunRecord → Prop}
    (hrun : request.context.workflowRunId = scene.runId)
    (hadmits : scene.admits record request)
    (hpost : ∀ answer : Execution,
      scene.answers { record with executions := record.executions ++ [(request, answer)] }
        (.execute request) answer →
      post (.ok answer)
        { record with executions := record.executions ++ [(request, answer)] }) :
    scene.Ensures (Program.ask (Service.execute request)) record post := by
  intro world hstands
  rw [meets_ask]
  constructor
  · change scene.admits (world.record scene.runId) request
    rw [hstands.record]
    exact hadmits
  · intro drifted hdrift answer hallows
    obtain ⟨next, hnext, hstands'⟩ := hstands.drift hdrift
    unfold Drifts at hnext
    simp only [if_pos hrun] at hnext
    obtain ⟨recorded, rfl⟩ := hnext
    obtain ⟨hanswers, hanswer⟩ := hallows
    rw [hstands'.record] at hanswers
    have hlast : (drifted.record scene.runId).executions.getLast? = some (request, answer) :=
      hanswer hrun
    rw [hstands'.record] at hlast
    simp only [List.getLast?_append, List.getLast?_singleton, Option.some_or,
      Option.some.injEq, Prod.mk.injEq, true_and] at hlast
    subst hlast
    exact ⟨_, hstands', hpost recorded hanswers⟩

/-- An atomic step that writes the records of the run. -/
theorem ensures_onStore {action : MemoryAction α}
    (h : ∀ world, scene.Stands record world →
      ∃ result after last, action.run world.store = (result, after) ∧
        ((after = world.store ∧ last = record) ∨
          (MemoryState.RunWrite world.store scene.runId after ∧
            ({ world with store := after } : World).record scene.runId = last ∧
            (last.Sound scene.runId → last = record ∨ scene.keeps record last))) ∧
        (last.Sound scene.runId → post result last)) :
    scene.Ensures (onStore action) record post := by
  intro world hstands
  change (atomic _ : Procedure α).Meets scene.contract _ world
  rw [meets_atomic]
  intro drifted hdrift
  obtain ⟨next, hnext, hstands'⟩ := hstands.drift hdrift
  obtain rfl : next = record := hnext
  obtain ⟨result, after, last, hrun, hwritten, hpost⟩ := h drifted hstands'
  simp only [hrun]
  rcases hwritten with ⟨rfl, rfl⟩ | ⟨hwrite, hlast, hkeeps⟩
  · exact ⟨⟨hstands'.consistent, Or.inl rfl, fun _ _ => rfl⟩, last, hstands',
      hpost hstands'.sound⟩
  · have hconsistent := hstands'.consistent.write hwrite.write
    have harchives : ∀ other, scene.settled other →
        after.archive other = drifted.store.archive other := by
      intro other hother
      apply hwrite.archive_other hstands'.consistent
      intro heq
      exact scene.unsettled (heq ▸ hother)
    have hafter : scene.Stands last { drifted with store := after } :=
      ⟨hconsistent, hlast, fun other hother =>
        (harchives other hother).trans (hstands'.archives other hother),
        hstands'.reserved.write hwrite⟩
    refine ⟨⟨hconsistent, ?_, harchives⟩, last, hafter, hpost hafter.sound⟩
    rw [hlast, hstands'.record]
    exact hkeeps hafter.sound

/-- A step that only reads the store. -/
theorem ensures_read {action : MemoryAction α}
    (h : ∀ world, scene.Stands record world →
      ∃ result, action.run world.store = (result, world.store) ∧ post result record) :
    scene.Ensures (onStore action) record post := by
  apply ensures_onStore
  intro world hstands
  obtain ⟨result, hrun, hpost⟩ := h world hstands
  exact ⟨result, world.store, record, hrun, Or.inl ⟨rfl, rfl⟩, fun _ => hpost⟩

theorem ensures_query {read : MemoryState → α}
    (h : ∀ world, scene.Stands record world → post (.ok (read world.store)) record) :
    scene.Ensures (query read) record post :=
  ensures_read fun world hstands => ⟨_, Action.run_read read world.store, h world hstands⟩

/-- A step that does not concern the store. -/
theorem ensures_workers {update : World → World} {value : World → α}
    (hstore : ∀ world, (update world).store = world.store)
    (hexecutions : ∀ world, (update world).workers.executions = world.workers.executions)
    (hpost : ∀ world, post (.ok (value world)) record) :
    scene.Ensures (.step update fun world => .done (.ok (value world))) record post := by
  intro world hstands drifted hdrift
  obtain ⟨next, hnext, hstands'⟩ := hstands.drift hdrift
  obtain rfl : next = record := hnext
  have hrecord : (update drifted).record scene.runId = drifted.record scene.runId := by
    unfold World.record
    rw [hstore, hexecutions]
  have hafter : scene.Stands next (update drifted) :=
    ⟨by rw [hstore]; exact hstands'.consistent, hrecord.trans hstands'.record,
      fun other hother => by rw [hstore]; exact hstands'.archives other hother,
      by rw [hstore]; exact hstands'.reserved⟩
  exact ⟨⟨hafter.consistent, Or.inl hrecord, fun other _ => by rw [hstore]⟩, next, hafter,
    hpost drifted⟩

/-- A loop keeps its invariant. -/
theorem ensures_forEach {ι : Type} (invariant : List ι → RunRecord → Prop)
    (bad : PyError → RunRecord → Prop) {body : ι → Procedure Unit} (items : List ι)
    (hbody : ∀ item rest current, invariant (item :: rest) current →
      scene.Ensures (body item) current (Ends (fun _ => invariant rest) bad))
    (hstart : invariant items record) :
    scene.Ensures (.forEach items body) record (Ends (fun _ => invariant []) bad) := by
  induction items generalizing record with
  | nil => exact ensures_done hstart
  | cons item rest ih =>
      exact (hbody item rest record hstart).bind (fun _ last hlast => ih hlast)
        fun _ _ herror => herror

/-- A loop that collects results keeps its invariant. -/
theorem ensures_mapEach {ι : Type} (invariant : List ι → List α → RunRecord → Prop)
    (bad : PyError → RunRecord → Prop) {good : List α → RunRecord → Prop}
    {body : ι → Procedure α} (items : List ι)
    (hbody : ∀ handled item rest values current, items = handled ++ item :: rest →
      invariant handled values current →
      scene.Ensures (body item) current
        (Ends (fun value => invariant (handled ++ [item]) (values ++ [value])) bad))
    (hend : ∀ values last, invariant items values last → good values last)
    (hstart : invariant [] [] record) :
    scene.Ensures (.mapEach items body) record (Ends good bad) := by
  have hrest : ∀ rest handled values current, items = handled ++ rest →
      invariant handled values current →
      scene.Ensures (.mapEach rest body) current
        (Ends (fun others => invariant items (values ++ others)) bad) := by
    intro rest
    induction rest with
    | nil =>
        intro handled values current hitems hinvariant
        rw [List.append_nil] at hitems
        subst hitems
        exact ensures_done (by simpa using hinvariant)
    | cons item rest ih =>
        intro handled values current hitems hinvariant
        refine (hbody handled item rest values current hitems hinvariant).bind
          (fun value after hafter => ?_) fun _ _ herror => herror
        refine (ih (handled ++ [item]) (values ++ [value]) after (by simp [hitems])
          hafter).bind (fun others last hlast => ?_) fun _ _ herror => herror
        exact ensures_done (by simpa [List.append_assoc] using hlast)
  refine (hrest items [] [] record rfl hstart).mono fun result last hresult => ?_
  cases result with
  | ok values => exact hend values last (by simpa using hresult)
  | error error => exact hresult

end Rules

end Scene

end PyWorkflowKit.Runtime
