import PyWorkflowKit.V1.Executors.Asyncio

/-!
# Delivery by the asyncio executor

Whatever the threads do, every attempt that the executor accepts comes to one completion, and
the loop stops only when nothing is left to complete.
-/

namespace PyWorkflowKit.V1.Executors

open PyWorkflowKit.Core PyWorkflowKit.Domain

/-- The handles whose completion a pending call still answers for. -/
def PendingCall.live : PendingCall → List ExecutionHandle
  | .scheduling handle => [handle]
  | _ => []

def Callback.live : Callback → List ExecutionHandle
  | .scheduleTask handle => [handle]
  | .publishCompletion handle _ => [handle]
  | _ => []

def AsyncTask.live (task : AsyncTask) : List ExecutionHandle :=
  if task.done then [] else [task.handle]

/-- The handles whose completion is about to be put. -/
def Chore.putting : Chore → List ExecutionHandle
  | .put completion => [completion.handle]
  | _ => []

/-- What a pending call relies on. -/
def PendingCall.Fits (shutdown : Bool) (active : List ExecutionHandle) : PendingCall → Prop
  | .failing _ _ => False
  | .awaiting handles => shutdown = true ∧ active ⊆ handles
  | .stopping _ => shutdown = true ∧ active = []
  | .joining => shutdown = true
  | .sweeping _ => shutdown = true
  | .requesting _ (some _) => shutdown = true
  | .acknowledging _ (some _) => shutdown = true
  | _ => True

def Callback.Fits (shutdown : Bool) (active : List ExecutionHandle) : Callback → Prop
  | .stop => shutdown = true ∧ active = []
  | _ => True

def Chore.Fits (shutdown : Bool) (active : List ExecutionHandle) (completed : List Text) :
    Chore → Prop
  | .stopLoop => shutdown = true ∧ active = []
  | .setDone handleId => handleId ∈ completed
  | .put _ => True

section Fits

variable {shutdown shutdown' : Bool} {active active' : List ExecutionHandle}
  {completed completed' : List Text}

theorem PendingCall.Fits.mono {call : PendingCall} (hfits : call.Fits shutdown active)
    (hshutdown : shutdown = true → shutdown' = true) (hactive : active' ⊆ active) :
    call.Fits shutdown' active' := by
  have hnone : active = [] → active' = [] := by
    rintro rfl
    exact List.subset_nil.mp hactive
  cases call with
  | failing => exact hfits
  | awaiting => exact ⟨hshutdown hfits.1, fun handle hmem => hfits.2 (hactive hmem)⟩
  | stopping => exact ⟨hshutdown hfits.1, hnone hfits.2⟩
  | joining => exact hshutdown hfits
  | sweeping => exact hshutdown hfits
  | scheduling => trivial
  | requesting handle others =>
      cases others with
      | none => trivial
      | some => exact hshutdown hfits
  | acknowledging ticket others =>
      cases others with
      | none => trivial
      | some => exact hshutdown hfits

theorem Callback.Fits.mono {callback : Callback} (hfits : callback.Fits shutdown active)
    (hshutdown : shutdown = true → shutdown' = true) (hactive : active' ⊆ active) :
    callback.Fits shutdown' active' := by
  cases callback with
  | stop =>
      refine ⟨hshutdown hfits.1, ?_⟩
      rw [hfits.2] at hactive
      exact List.subset_nil.mp hactive
  | _ => trivial

theorem Chore.Fits.mono {chore : Chore} (hfits : chore.Fits shutdown active completed)
    (hshutdown : shutdown = true → shutdown' = true) (hactive : active' ⊆ active)
    (hcompleted : completed ⊆ completed') : chore.Fits shutdown' active' completed' := by
  cases chore with
  | stopLoop =>
      refine ⟨hshutdown hfits.1, ?_⟩
      rw [hfits.2] at hactive
      exact List.subset_nil.mp hactive
  | setDone => exact hcompleted hfits
  | put => trivial

/-- Before the shutdown no call relies on the active handles. -/
theorem PendingCall.Fits.open {call : PendingCall} (hfits : call.Fits false active) :
    call.Fits false active' := by
  cases call with
  | failing => exact hfits
  | awaiting => exact absurd hfits.1 Bool.false_ne_true
  | stopping => exact absurd hfits.1 Bool.false_ne_true
  | joining => exact absurd hfits Bool.false_ne_true
  | sweeping => exact absurd hfits Bool.false_ne_true
  | scheduling => trivial
  | requesting handle others =>
      cases others with
      | none => trivial
      | some => exact absurd hfits Bool.false_ne_true
  | acknowledging ticket others =>
      cases others with
      | none => trivial
      | some => exact absurd hfits Bool.false_ne_true

theorem Callback.Fits.open {callback : Callback} (hfits : callback.Fits false active) :
    callback.Fits false active' := by
  cases callback with
  | stop => exact absurd hfits.1 Bool.false_ne_true
  | _ => trivial

theorem Chore.Fits.open {chore : Chore} (hfits : chore.Fits false active completed) :
    chore.Fits false active' completed := by
  cases chore with
  | stopLoop => exact absurd hfits.1 Bool.false_ne_true
  | setDone => exact hfits
  | put => trivial

end Fits

namespace EventLoop

/-- The callbacks that wait for the loop, in order. -/
def callbacks (loop : EventLoop) : List Callback := loop.batch ++ loop.ready

def live (loop : EventLoop) : List ExecutionHandle := loop.callbacks.flatMap Callback.live

/-- What the loop relies on. -/
structure Fits (loop : EventLoop) (shutdown : Bool) (active : List ExecutionHandle)
    (completed : List Text) : Prop where
  callbacks : ∀ callback ∈ loop.callbacks, callback.Fits shutdown active
  chores : ∀ chore ∈ loop.chores, chore.Fits shutdown active completed
  stopping : loop.stopping = true → shutdown = true ∧ active = []
  closed : loop.closed = true → shutdown = true ∧ active = []
  ended : loop.closed = true → loop.batch = [] ∧ loop.chores = []

theorem Fits.mono {loop : EventLoop} {shutdown shutdown' : Bool}
    {active active' : List ExecutionHandle} {completed completed' : List Text}
    (hfits : loop.Fits shutdown active completed)
    (hshutdown : shutdown = true → shutdown' = true) (hactive : active' ⊆ active)
    (hcompleted : completed ⊆ completed') : loop.Fits shutdown' active' completed' := by
  have hnone : active = [] → active' = [] := by
    rintro rfl
    exact List.subset_nil.mp hactive
  constructor
  · exact fun callback hmem => (hfits.callbacks callback hmem).mono hshutdown hactive
  · exact fun chore hmem => (hfits.chores chore hmem).mono hshutdown hactive hcompleted
  · exact fun hstopping => (hfits.stopping hstopping).imp hshutdown hnone
  · exact fun hclosed => (hfits.closed hclosed).imp hshutdown hnone
  · exact hfits.ended

theorem Fits.open {loop : EventLoop} {active active' : List ExecutionHandle}
    {completed : List Text} (hfits : loop.Fits false active completed) :
    loop.Fits false active' completed := by
  constructor
  · exact fun callback hmem => (hfits.callbacks callback hmem).open
  · exact fun chore hmem => (hfits.chores chore hmem).open
  · exact fun hstopping => absurd (hfits.stopping hstopping).1 Bool.false_ne_true
  · exact fun hclosed => absurd (hfits.closed hclosed).1 Bool.false_ne_true
  · exact hfits.ended

/-- A callback is scheduled. -/
theorem Fits.callSoon {loop : EventLoop} {shutdown : Bool} {active : List ExecutionHandle}
    {completed : List Text} {callback : Callback} (hfits : loop.Fits shutdown active completed)
    (hcallback : callback.Fits shutdown active) :
    Fits { loop with ready := loop.ready ++ [callback] } shutdown active completed := by
  constructor
  · intro other hother
    rw [EventLoop.callbacks, ← List.append_assoc] at hother
    rcases List.mem_append.mp hother with hold | hnew
    · exact hfits.callbacks other hold
    · rw [List.mem_singleton.mp hnew]
      exact hcallback
  · exact hfits.chores
  · exact hfits.stopping
  · exact hfits.closed
  · exact hfits.ended

end EventLoop

namespace AsyncExecutor

/-- The handles that are on the way to their completion. -/
def live (executor : AsyncExecutor) : List ExecutionHandle :=
  executor.calls.flatMap PendingCall.live ++ executor.loop.live ++
    executor.asyncTasks.rows.flatMap AsyncTask.live

/-- The handles whose completion is about to be put into the queue. -/
def putting (executor : AsyncExecutor) : List ExecutionHandle :=
  executor.loop.chores.flatMap Chore.putting

/-- The completions put into the queue so far, in order. -/
def published (executor : AsyncExecutor) : List AttemptCompletion :=
  executor.received ++ executor.completionQueue

def delivered (executor : AsyncExecutor) : List ExecutionHandle :=
  executor.published.map AttemptCompletion.handle

/-- What every run of the executor keeps. -/
structure Sane (maxConcurrency : Nat) (executor : AsyncExecutor) : Prop where
  live : ∀ handle, executor.activeHandles.rows.count handle = executor.live.count handle
  registered : ∀ handle, executor.handles.rows.count handle =
    executor.activeHandles.rows.count handle + executor.putting.count handle +
      executor.delivered.count handle
  watched : ∀ task ∈ executor.asyncTasks.rows, task.handle ∈ executor.handles.rows
  completed : ∀ handleId, handleId ∈ executor.completedHandleIds ↔
    ∃ handle ∈ executor.handles.rows, handle.handleId = handleId ∧
      handle ∉ executor.activeHandles.rows
  events : ∀ handle ∈ executor.activeHandles.rows,
    executor.doneEvents.find? handle.handleId = some ⟨handle.handleId, false⟩
  identities : executor.handles.rows = executor.submittedAttemptIds.map (handleFor key)
  capacity : executor.maxConcurrency = maxConcurrency
  bounded : executor.activeHandles.rows.length ≤ maxConcurrency
  calls : ∀ call ∈ executor.calls,
    call.Fits executor.shutdown executor.activeHandles.rows
  loop : executor.loop.Fits executor.shutdown executor.activeHandles.rows
    executor.completedHandleIds
  idle : executor.stopWhenIdle = true → executor.shutdown = true

/-- A cancellation is answered at once or asks the loop. -/
theorem cancel_cases (executor : AsyncExecutor) (handle : ExecutionHandle)
    (others : Option (List ExecutionHandle)) :
    (∃ reply, executor.cancel handle others = .inl reply) ∨
      executor.cancel handle others = .inr (.requesting handle others) := by
  rw [cancel]
  split
  · exact Or.inl ⟨_, rfl⟩
  · split
    · exact Or.inl ⟨_, rfl⟩
    · exact Or.inr rfl

namespace Sane

variable {maxConcurrency : Nat} {executor : AsyncExecutor}

theorem active_subset (hsane : executor.Sane maxConcurrency) :
    executor.activeHandles.rows ⊆ executor.handles.rows := by
  intro handle hmem
  have hcount := hsane.registered handle
  have hactive := List.count_pos_iff.mpr hmem
  exact List.count_pos_iff.mp (by omega)

theorem active_of_live (hsane : executor.Sane maxConcurrency) {handle : ExecutionHandle}
    (hlive : handle ∈ executor.live) : handle ∈ executor.activeHandles.rows := by
  have hcount := hsane.live handle
  have hpos := List.count_pos_iff.mpr hlive
  exact List.count_pos_iff.mp (by omega)

/-- No handle is on two ways to its completion. -/
theorem live_le_one (hsane : executor.Sane maxConcurrency) (handle : ExecutionHandle) :
    executor.live.count handle ≤ 1 := by
  rw [← hsane.live]
  exact List.nodup_iff_count_le_one.mp executor.activeHandles.nodup.of_map handle

/-- A handle that ended is not active. -/
theorem notMem_of_completed (hsane : executor.Sane maxConcurrency) {handle : ExecutionHandle}
    (hhandle : handle ∈ executor.handles.rows)
    (hended : handle.handleId ∈ executor.completedHandleIds) :
    handle ∉ executor.activeHandles.rows := by
  obtain ⟨other, hother, hid, hidle⟩ := (hsane.completed _).mp hended
  rwa [executor.handles.eq_of_mem hother hhandle hid] at hidle

/-- The handle of an attempt that was never submitted is new. -/
theorem fresh (hsane : executor.Sane maxConcurrency) {attemptId : TaskAttemptId}
    (hnew : attemptId ∉ executor.submittedAttemptIds) :
    ∀ other ∈ executor.handles.rows,
      other.handleId ≠ (handleFor key attemptId).handleId := by
  intro other hother hid
  rw [hsane.identities] at hother
  obtain ⟨submitted, hsubmitted, rfl⟩ := List.mem_map.mp hother
  exact hnew (handleFor_injective hid ▸ hsubmitted)

/-- What the invariant does not look at. -/
theorem unchanged (hsane : executor.Sane maxConcurrency) (pendingCancellations : List Text)
    (acknowledged : List (Nat × Bool)) (tickets : Nat) (answers : List Answer) :
    Sane maxConcurrency { executor with
      pendingCancellations := pendingCancellations
      acknowledged := acknowledged
      tickets := tickets
      answers := answers } :=
  ⟨hsane.live, hsane.registered, hsane.watched, hsane.completed, hsane.events,
    hsane.identities, hsane.capacity, hsane.bounded, hsane.calls, hsane.loop, hsane.idle⟩

/-- Other pending calls and another state of the loop. -/
theorem rearranged (hsane : executor.Sane maxConcurrency) {calls : List PendingCall}
    {loop : EventLoop}
    (hlive : ∀ handle, (calls.flatMap PendingCall.live).count handle + loop.live.count handle =
      (executor.calls.flatMap PendingCall.live).count handle +
        executor.loop.live.count handle)
    (hputting : loop.chores.flatMap Chore.putting = executor.putting)
    (hcalls : ∀ call ∈ calls, call.Fits executor.shutdown executor.activeHandles.rows)
    (hloop : loop.Fits executor.shutdown executor.activeHandles.rows
      executor.completedHandleIds) :
    Sane maxConcurrency { executor with calls := calls, loop := loop } := by
  constructor
  · intro handle
    rw [hsane.live handle]
    have hsame := hlive handle
    simp only [AsyncExecutor.live, List.count_append]
    omega
  · intro handle
    rw [hsane.registered handle]
    simp only [AsyncExecutor.putting, hputting]
    rfl
  · exact hsane.watched
  · exact hsane.completed
  · exact hsane.events
  · exact hsane.identities
  · exact hsane.capacity
  · exact hsane.bounded
  · exact hcalls
  · exact hloop
  · exact hsane.idle

theorem enter (hsane : executor.Sane maxConcurrency) {call : PendingCall}
    (hlive : call.live = [])
    (hfits : call.Fits executor.shutdown executor.activeHandles.rows) :
    (executor.enter call).Sane maxConcurrency := by
  apply hsane.rearranged _ rfl _ hsane.loop
  · intro handle
    simp [List.flatMap_append, hlive]
  · intro other hother
    rcases List.mem_append.mp hother with hold | hnew
    · exact hsane.calls other hold
    · rw [List.mem_singleton.mp hnew]
      exact hfits

/-- A call goes on as others that answer for the same handles. -/
theorem goOn (hsane : executor.Sane maxConcurrency) {index : Nat} {call : PendingCall}
    (hcall : executor.calls[index]? = some call) (hlive : call.live = [])
    {others : List PendingCall} (hothers : others.flatMap PendingCall.live = [])
    (hfits : ∀ other ∈ others,
      other.Fits executor.shutdown executor.activeHandles.rows) :
    (executor.goOn index others).Sane maxConcurrency := by
  apply hsane.rearranged _ rfl _ hsane.loop
  · intro handle
    have hcount := count_splice PendingCall.live hcall others handle
    rw [hlive, hothers] at hcount
    simp only [List.count_nil, Nat.add_zero] at hcount
    rw [hcount]
  · intro other hother
    rcases mem_splice hother with hold | hnew
    · exact hsane.calls other hold
    · exact hfits other hnew

theorem callSoon (hsane : executor.Sane maxConcurrency) {callback : Callback}
    (hlive : callback.live = [])
    (hfits : callback.Fits executor.shutdown executor.activeHandles.rows) :
    (executor.callSoon callback).Sane maxConcurrency := by
  apply hsane.rearranged _ _ hsane.calls
  · exact hsane.loop.callSoon hfits
  · intro handle
    simp [EventLoop.live, EventLoop.callbacks, List.flatMap_append, hlive]
  · rfl

/-- An accepted attempt is new, active, and answered for by the call that schedules it. -/
theorem submit (hsane : executor.Sane maxConcurrency) (task : TaskDefinition)
    (context : RunContext) (unfit : Option String) :
    (executor.submit task context unfit).Sane maxConcurrency := by
  cases unfit with
  | some reason => exact hsane.unchanged _ _ _ _
  | none =>
      rw [AsyncExecutor.submit]
      split
      · exact hsane.unchanged _ _ _ _
      split
      · exact hsane.unchanged _ _ _ _
      next hshutdown =>
      split
      · exact hsane.unchanged _ _ _ _
      next hnew =>
      split
      · exact hsane.unchanged _ _ _ _
      next hcapacity =>
      have hopen : executor.shutdown = false := Bool.eq_false_of_not_eq_true hshutdown
      have hcalls := hsane.calls
      have hloop := hsane.loop
      rw [hopen] at hcalls hloop
      have hfresh := hsane.fresh hnew
      have hhandles := executor.handles.rows_set_of_absent
        ((executor.handles.find?_eq_none_iff _).mpr hfresh)
      have hactive := executor.activeHandles.rows_set_of_absent
        ((executor.activeHandles.find?_eq_none_iff _).mpr
          fun other hother => hfresh other (hsane.active_subset hother))
      constructor
      · intro handle
        have hlive := hsane.live handle
        simp only [AsyncExecutor.live, List.count_append, List.flatMap_append, hactive,
          List.flatMap_cons, List.flatMap_nil, PendingCall.live, List.append_nil] at hlive ⊢
        omega
      · intro handle
        have hregistered := hsane.registered handle
        simp only [hactive, hhandles, List.count_append]
        simp only [AsyncExecutor.putting, AsyncExecutor.delivered,
          AsyncExecutor.published] at hregistered ⊢
        omega
      · intro row hrow
        rw [hhandles]
        exact List.mem_append_left _ (hsane.watched row hrow)
      · intro handleId
        simp only [hactive, hhandles]
        rw [hsane.completed]
        constructor
        · rintro ⟨handle, hhandle, hid, hidle⟩
          refine ⟨handle, List.mem_append_left _ hhandle, hid, ?_⟩
          rw [List.mem_append, List.mem_singleton, not_or]
          refine ⟨hidle, ?_⟩
          rintro rfl
          exact hfresh _ hhandle rfl
        · rintro ⟨handle, hhandle, hid, hidle⟩
          rw [List.mem_append, not_or] at hidle
          exact ⟨handle, (List.mem_append.mp hhandle).resolve_right hidle.2, hid, hidle.1⟩
      · intro handle hhandle
        simp only [hactive] at hhandle
        rcases List.mem_append.mp hhandle with hold | hlast
        · have hne := hfresh handle (hsane.active_subset hold)
          exact (executor.doneEvents.find?_set_of_ne _ hne.symm).trans
            (hsane.events handle hold)
        · rw [List.mem_singleton.mp hlast]
          exact executor.doneEvents.find?_set_self _
      · rw [hhandles, hsane.identities, List.map_append, List.map_singleton]
      · exact hsane.capacity
      · have hlimit := hsane.capacity
        simp only [hactive, List.length_append, List.length_singleton]
        omega
      · intro call hcall
        rw [hopen]
        rcases List.mem_append.mp hcall with hold | hlast
        · exact (hcalls call hold).open
        · rw [List.mem_singleton.mp hlast]
          trivial
      · rw [hopen]
        exact hloop.open
      · exact hsane.idle

/-- The task of an attempt that is not on the way through it has ended. -/
theorem count_others (hsane : executor.Sane maxConcurrency) {handle : ExecutionHandle}
    (hlive : handle ∈ executor.calls.flatMap PendingCall.live ++ executor.loop.live)
    (wanted : ExecutionHandle) :
    ((executor.asyncTasks.rows.filter fun row => row.handleId ≠ handle.handleId).flatMap
      AsyncTask.live).count wanted =
        (executor.asyncTasks.rows.flatMap AsyncTask.live).count wanted := by
  have hperm := (executor.asyncTasks.perm_find?_filter handle.handleId).flatMap_right
    AsyncTask.live
  have hnone : (executor.asyncTasks.find? handle.handleId).toList.flatMap AsyncTask.live = [] := by
    cases hfound : executor.asyncTasks.find? handle.handleId with
    | none => rfl
    | some task =>
        obtain ⟨htask, hid⟩ := (executor.asyncTasks.find?_eq_some_iff _ _).mp hfound
        have hmem : handle ∈ executor.live := List.mem_append_left _ hlive
        have hsame : task.handle = handle := executor.handles.eq_of_mem
          (hsane.watched task htask) (hsane.active_subset (hsane.active_of_live hmem)) hid
        have hdone : task.done = true := by
          by_contra hrunning
          have hwatched : handle ∈ executor.asyncTasks.rows.flatMap AsyncTask.live := by
            apply List.mem_flatMap.mpr ⟨task, htask, _⟩
            rw [AsyncTask.live, if_neg hrunning, hsame]
            exact List.mem_singleton_self handle
          have honce := hsane.live_le_one handle
          rw [AsyncExecutor.live, List.count_append] at honce
          have hfirst := List.count_pos_iff.mpr hlive
          have hsecond := List.count_pos_iff.mpr hwatched
          omega
        simp [AsyncTask.live, hdone]
  rw [hperm.count_eq, List.flatMap_append, hnone, List.nil_append]

/-- The loop goes on with what is left of its current iteration. -/
theorem popped (hsane : executor.Sane maxConcurrency) {callback : Callback}
    {rest : List Callback} (hbatch : executor.loop.batch = callback :: rest)
    {chores : List Chore} {active : List ExecutionHandle} {completed : List Text}
    (hactive : active ⊆ executor.activeHandles.rows)
    (hcompleted : executor.completedHandleIds ⊆ completed)
    (hchores : ∀ chore ∈ chores, chore.Fits executor.shutdown active completed) :
    EventLoop.Fits { executor.loop with batch := rest, chores := chores } executor.shutdown
      active completed := by
  have hfits := hsane.loop.mono (fun hshutdown => hshutdown) hactive hcompleted
  constructor
  · intro other hother
    apply hfits.callbacks
    rw [EventLoop.callbacks, hbatch]
    exact List.mem_cons_of_mem _ hother
  · exact hchores
  · exact hfits.stopping
  · exact hfits.closed
  · intro hclosed
    have hempty := (hfits.ended hclosed).1
    rw [hbatch] at hempty
    cases hempty

/-- `_finish_handle` on the loop thread: the attempt goes from the active ones to those whose
completion is about to be put. -/
theorem finishHandle (hsane : executor.Sane maxConcurrency) {callback : Callback}
    {rest : List Callback} {handle : ExecutionHandle} {completion : AttemptCompletion}
    (hbatch : executor.loop.batch = callback :: rest) (hchores : executor.loop.chores = [])
    (hlive : callback.live = [handle]) (hcompletion : completion.handle = handle) :
    (onLoop ({ executor with loop := { executor.loop with batch := rest } }.finishHandle handle
      completion)).Sane maxConcurrency := by
  have hloop : ∀ wanted, executor.loop.live.count wanted =
      [handle].count wanted + ((rest ++ executor.loop.ready).flatMap Callback.live).count wanted := by
    intro wanted
    rw [EventLoop.live, EventLoop.callbacks, hbatch, List.cons_append, List.flatMap_cons, hlive,
      List.count_append]
  have hpassing : handle ∈ executor.calls.flatMap PendingCall.live ++ executor.loop.live := by
    apply List.mem_append_right
    apply List.count_pos_iff.mp
    rw [hloop, List.count_singleton_self]
    omega
  have hmem : handle ∈ executor.activeHandles.rows :=
    hsane.active_of_live (List.mem_append_left _ hpassing)
  have hremove := count_remove executor.activeHandles hmem
  have hsubset : (executor.activeHandles.filter fun row =>
      row.handleId ≠ handle.handleId).rows ⊆ executor.activeHandles.rows :=
    fun other hother => List.mem_of_mem_filter hother
  constructor
  · intro wanted
    have hold := hsane.live wanted
    have hactive := hremove wanted
    have hothers := hsane.count_others hpassing wanted
    have hloop := hloop wanted
    simp only [AsyncExecutor.live, List.count_append, onLoop, AsyncExecutor.finishHandle,
      EventLoop.live, EventLoop.callbacks, Table.rows_filter] at *
    omega
  · intro wanted
    have hregistered := hsane.registered wanted
    have hactive := hremove wanted
    have hputting : (onLoop ({ executor with loop := { executor.loop with batch := rest } }
        |>.finishHandle handle completion)).putting = [handle] := by
      simp only [AsyncExecutor.putting, onLoop, AsyncExecutor.finishHandle,
        List.flatMap_append, List.flatMap_singleton, Chore.putting, hcompletion]
      cases executor.doneEvents.find? handle.handleId <;> split <;> rfl
    have hnone : executor.putting = [] := by
      rw [AsyncExecutor.putting, hchores]
      rfl
    rw [hputting]
    rw [hnone] at hregistered
    simp only [onLoop, AsyncExecutor.finishHandle, AsyncExecutor.delivered,
      AsyncExecutor.published, List.count_nil] at *
    omega
  · intro task htask
    exact hsane.watched task (List.mem_of_mem_filter htask)
  · intro handleId
    have hcompleted := hsane.completed handleId
    simp only [onLoop, AsyncExecutor.finishHandle, List.mem_append, List.mem_singleton,
      Table.rows_filter, List.mem_filter, decide_eq_true_eq]
    rw [hcompleted]
    constructor
    · rintro (⟨other, hother, hid, hidle⟩ | rfl)
      · exact ⟨other, hother, hid, fun hactive => hidle hactive.1⟩
      · exact ⟨handle, hsane.active_subset hmem, rfl, fun hactive => hactive.2 rfl⟩
    · rintro ⟨other, hother, rfl, hidle⟩
      by_cases hsame : other.handleId = handle.handleId
      · exact Or.inr hsame
      · exact Or.inl ⟨other, hother, rfl, fun hactive => hidle ⟨hactive, hsame⟩⟩
  · exact fun other hother => hsane.events other (hsubset hother)
  · exact hsane.identities
  · exact hsane.capacity
  · exact Nat.le_trans (List.length_filter_le _ _) hsane.bounded
  · exact fun call hcall => (hsane.calls call hcall).mono (fun hshutdown => hshutdown) hsubset
  · apply hsane.popped hbatch hsubset (List.subset_append_left _ _)
    intro chore hchore
    simp only [AsyncExecutor.finishHandle, List.mem_append, List.mem_map, Option.mem_toList,
      List.mem_singleton] at hchore
    rcases hchore with (⟨event, hevent, rfl⟩ | rfl) | hstop
    · apply List.mem_append_right
      rw [Table.key_of_find? hevent]
      exact List.mem_singleton_self _
    · trivial
    · split at hstop
      · next hidle =>
        rw [List.mem_singleton.mp hstop]
        exact ⟨hsane.idle hidle.1, hidle.2⟩
      · cases hstop
  · exact hsane.idle

omit maxConcurrency executor in
theorem count_set_task (tasks : Table AsyncTask.handleId) (handle : ExecutionHandle)
    (done : Bool) (wanted : ExecutionHandle) :
    ((tasks.set ⟨handle, done⟩).rows.flatMap AsyncTask.live).count wanted =
      (AsyncTask.live ⟨handle, done⟩).count wanted +
        ((tasks.rows.filter fun row => row.handleId ≠ handle.handleId).flatMap
          AsyncTask.live).count wanted := by
  rw [((tasks.perm_set ⟨handle, done⟩).flatMap_right AsyncTask.live).count_eq wanted,
    List.flatMap_cons, List.count_append]
  rfl

/-- `_schedule_task`: the loop takes the attempt from the callback to a task. -/
theorem scheduleTask (hsane : executor.Sane maxConcurrency) {rest : List Callback}
    {handle : ExecutionHandle} (hbatch : executor.loop.batch = .scheduleTask handle :: rest)
    (hchores : executor.loop.chores = []) (failure : Option Raised) :
    ({ executor with loop := { executor.loop with batch := rest } }.scheduleTask handle
      failure).Sane maxConcurrency := by
  cases failure with
  | some raised => exact hsane.finishHandle hbatch hchores rfl rfl
  | none =>
      have hloop : ∀ wanted, executor.loop.live.count wanted = [handle].count wanted +
          ((rest ++ executor.loop.ready).flatMap Callback.live).count wanted := by
        intro wanted
        rw [EventLoop.live, EventLoop.callbacks, hbatch, List.cons_append, List.flatMap_cons,
          List.count_append]
        rfl
      have hpassing : handle ∈ executor.calls.flatMap PendingCall.live ++ executor.loop.live := by
        apply List.mem_append_right
        apply List.count_pos_iff.mp
        rw [hloop, List.count_singleton_self]
        omega
      have hmem : handle ∈ executor.activeHandles.rows :=
        hsane.active_of_live (List.mem_append_left _ hpassing)
      have hcontains : executor.activeHandles.contains handle.handleId = true :=
        (executor.activeHandles.contains_iff _).mpr ⟨handle, hmem, rfl⟩
      rw [AsyncExecutor.scheduleTask, if_pos hcontains]
      constructor
      · intro wanted
        have hold := hsane.live wanted
        have hothers := hsane.count_others hpassing wanted
        have hset := count_set_task executor.asyncTasks handle false wanted
        have hnew : (AsyncTask.live ⟨handle, false⟩).count wanted = [handle].count wanted := rfl
        have hloop := hloop wanted
        simp only [AsyncExecutor.live, List.count_append, EventLoop.live,
          EventLoop.callbacks] at hold hloop ⊢
        omega
      · intro wanted
        have hregistered := hsane.registered wanted
        exact hregistered
      · intro task htask
        rcases (Table.mem_set _ _ _).mp htask with rfl | ⟨hold, -⟩
        · exact hsane.active_subset hmem
        · exact hsane.watched task hold
      · exact hsane.completed
      · exact hsane.events
      · exact hsane.identities
      · exact hsane.capacity
      · exact hsane.bounded
      · exact hsane.calls
      · apply hsane.popped hbatch (List.Subset.refl _) (List.Subset.refl _)
        rw [hchores]
        exact fun chore hchore => absurd hchore (List.not_mem_nil)
      · exact hsane.idle

/-- A task ends: the callback that publishes its completion takes the attempt over. -/
theorem settle (hsane : executor.Sane maxConcurrency) {next : AsyncExecutor}
    {handle : ExecutionHandle} {settled : Settled}
    (hsettle : executor.settle handle settled = some next) : next.Sane maxConcurrency := by
  rw [AsyncExecutor.settle] at hsettle
  split at hsettle
  · next hrunning =>
    cases hsettle
    obtain ⟨htask, hid⟩ := (executor.asyncTasks.find?_eq_some_iff _ _).mp hrunning.1
    constructor
    · intro wanted
      have hold := hsane.live wanted
      have hset := count_set_task executor.asyncTasks handle true wanted
      have hsame := count_set_task executor.asyncTasks handle false wanted
      rw [executor.asyncTasks.set_of_mem htask] at hsame
      have hnew : (AsyncTask.live ⟨handle, true⟩).count wanted = 0 := rfl
      have hrun : (AsyncTask.live ⟨handle, false⟩).count wanted = [handle].count wanted := rfl
      have hcallback : ((executor.loop.batch ++ (executor.loop.ready ++
          [Callback.publishCompletion handle settled])).flatMap Callback.live).count wanted =
          executor.loop.live.count wanted + [handle].count wanted := by
        rw [← List.append_assoc, List.flatMap_append, List.count_append]
        rfl
      simp only [AsyncExecutor.live, List.count_append, AsyncExecutor.callSoon, EventLoop.live,
        EventLoop.callbacks] at hold hcallback ⊢
      omega
    · exact hsane.registered
    · intro task hmem
      rcases (Table.mem_set _ _ _).mp hmem with rfl | ⟨hold, -⟩
      · exact hsane.watched ⟨handle, false⟩ htask
      · exact hsane.watched task hold
    · exact hsane.completed
    · exact hsane.events
    · exact hsane.identities
    · exact hsane.capacity
    · exact hsane.bounded
    · exact hsane.calls
    · exact hsane.loop.callSoon trivial
    · exact hsane.idle
  · cases hsettle

/-- What is left of a callback is done step by step. -/
theorem perform (hsane : executor.Sane maxConcurrency) {chore : Chore} {rest : List Chore}
    (hchores : executor.loop.chores = chore :: rest) :
    ({ executor with loop := { executor.loop with chores := rest } }.perform chore).Sane
      maxConcurrency := by
  have hchore := hsane.loop.chores chore (hchores ▸ List.mem_cons_self)
  have hopen : executor.loop.closed = true → False := by
    intro hclosed
    have hnone := (hsane.loop.ended hclosed).2
    rw [hchores] at hnone
    cases hnone
  have hrest : EventLoop.Fits { executor.loop with chores := rest } executor.shutdown
      executor.activeHandles.rows executor.completedHandleIds := by
    constructor
    · exact hsane.loop.callbacks
    · exact fun other hother => hsane.loop.chores other (hchores ▸ List.mem_cons_of_mem _ hother)
    · exact hsane.loop.stopping
    · exact hsane.loop.closed
    · exact fun hclosed => (hopen hclosed).elim
  have hputting : executor.putting = chore.putting ++ rest.flatMap Chore.putting := by
    rw [AsyncExecutor.putting, hchores, List.flatMap_cons]
  cases chore with
  | setDone handleId =>
      constructor
      · exact hsane.live
      · intro handle
        have hregistered := hsane.registered handle
        rw [hputting] at hregistered
        exact hregistered
      · exact hsane.watched
      · exact hsane.completed
      · intro handle hactive
        have hne : handleId ≠ handle.handleId := by
          rintro rfl
          exact hsane.notMem_of_completed (hsane.active_subset hactive) hchore hactive
        exact (executor.doneEvents.find?_set_of_ne ⟨handleId, true⟩ hne).trans
          (hsane.events handle hactive)
      · exact hsane.identities
      · exact hsane.capacity
      · exact hsane.bounded
      · exact hsane.calls
      · exact hrest
      · exact hsane.idle
  | put completion =>
      constructor
      · exact hsane.live
      · intro handle
        have hregistered := hsane.registered handle
        rw [hputting] at hregistered
        simp only [AsyncExecutor.perform, AsyncExecutor.putting, AsyncExecutor.delivered,
          AsyncExecutor.published, Chore.putting, List.map_append, List.count_append,
          List.map_singleton] at hregistered ⊢
        omega
      · exact hsane.watched
      · exact hsane.completed
      · exact hsane.events
      · exact hsane.identities
      · exact hsane.capacity
      · exact hsane.bounded
      · exact hsane.calls
      · exact hrest
      · exact hsane.idle
  | stopLoop =>
      apply hsane.rearranged _ _ hsane.calls
      · constructor
        · exact hrest.callbacks
        · exact hrest.chores
        · exact fun _ => hchore
        · exact hrest.closed
        · exact hrest.ended
      · exact fun _ => rfl
      · exact hputting.symm

theorem runCallback (hsane : executor.Sane maxConcurrency) {callback : Callback}
    {rest : List Callback} (hbatch : executor.loop.batch = callback :: rest)
    (hchores : executor.loop.chores = []) (failure : Option Raised) :
    ({ executor with loop := { executor.loop with batch := rest } }.runCallback failure
      callback).Sane maxConcurrency := by
  have hcallbacks : executor.loop.callbacks = callback :: (rest ++ executor.loop.ready) := by
    rw [EventLoop.callbacks, hbatch, List.cons_append]
  have hpopped (hlive : callback.live = []) :
      Sane maxConcurrency { executor with loop := { executor.loop with batch := rest } } := by
    apply hsane.rearranged _ _ hsane.calls
    · have hchore := hsane.loop.chores
      exact hsane.popped hbatch (List.Subset.refl _) (List.Subset.refl _) hchore
    · intro handle
      simp only [EventLoop.live, hcallbacks, List.flatMap_cons, hlive, List.nil_append]
      rfl
    · rfl
  cases callback with
  | scheduleTask handle => exact hsane.scheduleTask hbatch hchores failure
  | publishCompletion handle settled =>
      apply hsane.finishHandle hbatch hchores rfl
      cases settled <;> rfl
  | requestCancellation handle ticket => exact (hpopped rfl).unchanged _ _ _ _
  | stop =>
      have hstop := hsane.loop.callbacks .stop (hcallbacks ▸ List.mem_cons_self)
      have hrest := (hpopped rfl).loop
      apply (hpopped rfl).rearranged _ _ hsane.calls
      · exact ⟨hrest.callbacks, hrest.chores, fun _ => hstop, hrest.closed, hrest.ended⟩
      · exact fun _ => rfl
      · rfl

theorem turn (hsane : executor.Sane maxConcurrency) {next : AsyncExecutor}
    {failure : Option Raised} (hturn : executor.turn failure = some next) :
    next.Sane maxConcurrency := by
  rw [AsyncExecutor.turn] at hturn
  split at hturn
  · cases hturn
  · next hopen =>
    split at hturn
    · next hchores =>
      cases hturn
      exact hsane.perform hchores
    · next hchores hbatch =>
      cases hturn
      exact hsane.runCallback hbatch hchores failure
    · next hchores hbatch =>
      split at hturn
      · next hstopping =>
        cases hturn
        apply hsane.rearranged _ _ hsane.calls
        · exact ⟨hsane.loop.callbacks, hsane.loop.chores, hsane.loop.stopping,
            fun _ => hsane.loop.stopping hstopping, fun _ => ⟨hbatch, hchores⟩⟩
        · exact fun _ => rfl
        · rfl
      · split at hturn
        · cases hturn
        · cases hturn
          have hcallbacks : executor.loop.callbacks = executor.loop.ready ++ [] := by
            rw [EventLoop.callbacks, hbatch, List.nil_append, List.append_nil]
          apply hsane.rearranged _ _ hsane.calls
          · constructor
            · intro callback hcallback
              exact hsane.loop.callbacks callback (hcallbacks ▸ hcallback)
            · exact hsane.loop.chores
            · exact hsane.loop.stopping
            · exact hsane.loop.closed
            · exact fun hclosed => absurd hclosed hopen
          · intro handle
            rw [EventLoop.live, EventLoop.live, hcallbacks]
            rfl
          · rfl

theorem get (hsane : executor.Sane maxConcurrency) {next : AsyncExecutor}
    (hget : executor.get = some next) : next.Sane maxConcurrency := by
  rw [AsyncExecutor.get] at hget
  split at hget
  · cases hget
  · next completion rest hqueue =>
    cases hget
    have hpublished : executor.published = executor.received ++ [completion] ++ rest := by
      rw [published, hqueue, List.append_assoc, List.singleton_append]
    constructor
    · exact hsane.live
    · intro handle
      have hregistered := hsane.registered handle
      rw [delivered, hpublished] at hregistered
      exact hregistered
    · exact hsane.watched
    · exact hsane.completed
    · exact hsane.events
    · exact hsane.identities
    · exact hsane.capacity
    · exact hsane.bounded
    · exact hsane.calls
    · exact hsane.loop
    · exact hsane.idle

theorem beginShutdown (hsane : executor.Sane maxConcurrency) (wait : Bool) :
    (executor.beginShutdown wait).Sane maxConcurrency := by
  have hmarked : Sane maxConcurrency { executor with shutdown := true } := by
    constructor
    · exact hsane.live
    · exact hsane.registered
    · exact hsane.watched
    · exact hsane.completed
    · exact hsane.events
    · exact hsane.identities
    · exact hsane.capacity
    · exact hsane.bounded
    · exact fun call hcall => (hsane.calls call hcall).mono (fun _ => rfl) (List.Subset.refl _)
    · exact hsane.loop.mono (fun _ => rfl) (List.Subset.refl _) (List.Subset.refl _)
    · exact fun _ => rfl
  apply hmarked.enter
  · cases wait <;> rfl
  · cases wait
    · exact rfl
    · exact ⟨rfl, List.Subset.refl _⟩

theorem endCancel (hsane : executor.Sane maxConcurrency) {index : Nat} {call : PendingCall}
    (hcall : executor.calls[index]? = some call) (hlive : call.live = []) (reply : Answer)
    {others : Option (List ExecutionHandle)}
    (hothers : others.isSome = true → executor.shutdown = true) :
    (executor.endCancel index reply others).Sane maxConcurrency := by
  cases others with
  | none =>
      have hgone : (executor.goOn index []).Sane maxConcurrency := by
        apply hsane.goOn hcall hlive rfl
        exact fun other hother => absurd hother (List.not_mem_nil)
      exact hgone.unchanged _ _ _ _
  | some handles =>
      apply hsane.goOn hcall hlive rfl
      intro other hother
      rw [List.mem_singleton.mp hother]
      exact hothers rfl

/-- A call that answers for no handle ends or goes on as one other. -/
theorem goOnAs (hsane : executor.Sane maxConcurrency) {index : Nat} {call : PendingCall}
    (hcall : executor.calls[index]? = some call) (hlive : call.live = []) {other : PendingCall}
    (hother : other.live = [])
    (hfits : other.Fits executor.shutdown executor.activeHandles.rows) :
    (executor.goOn index [other]).Sane maxConcurrency := by
  apply hsane.goOn hcall hlive
  · rw [List.flatMap_singleton, hother]
  · intro call hmem
    rw [List.mem_singleton.mp hmem]
    exact hfits

theorem goAway (hsane : executor.Sane maxConcurrency) {index : Nat} {call : PendingCall}
    (hcall : executor.calls[index]? = some call) (hlive : call.live = []) :
    (executor.goOn index []).Sane maxConcurrency := by
  apply hsane.goOn hcall hlive rfl
  exact fun other hother => absurd hother (List.not_mem_nil)

/-- The loop that a submission meets is open, and the callback takes the attempt over. -/
theorem scheduling (hsane : executor.Sane maxConcurrency) {index : Nat}
    {handle : ExecutionHandle} (hcall : executor.calls[index]? = some (.scheduling handle)) :
    executor.loop.closed = false ∧
      ((executor.callSoon (.scheduleTask handle)).goOn index []).Sane maxConcurrency := by
  have hmem : handle ∈ executor.calls.flatMap PendingCall.live :=
    List.mem_flatMap.mpr ⟨_, List.mem_of_getElem? hcall, List.mem_singleton_self handle⟩
  have hactive : handle ∈ executor.activeHandles.rows :=
    hsane.active_of_live (List.mem_append_left _ (List.mem_append_left _ hmem))
  constructor
  · apply Bool.eq_false_of_not_eq_true
    intro hclosed
    rw [(hsane.loop.closed hclosed).2] at hactive
    cases hactive
  · apply hsane.rearranged _ _ _ _
    · intro wanted
      have hcount := count_splice PendingCall.live hcall [] wanted
      simp only [AsyncExecutor.callSoon, EventLoop.live, EventLoop.callbacks,
        ← List.append_assoc, List.flatMap_append, List.count_append, List.flatMap_singleton,
        List.flatMap_nil, List.count_nil, Nat.add_zero] at hcount ⊢
      have hsame : (Callback.scheduleTask handle).live = (PendingCall.scheduling handle).live := rfl
      rw [hsame]
      omega
    · rfl
    · intro call hmem
      exact hsane.calls call ((mem_splice hmem).resolve_right (List.not_mem_nil))
    · exact hsane.loop.callSoon trivial

/-- An answered `shutdown(wait=False)` has asked the loop to stop when it is idle. -/
theorem marked (hsane : executor.Sane maxConcurrency) (hshutdown : executor.shutdown = true) :
    Sane maxConcurrency { executor with stopWhenIdle := true } :=
  ⟨hsane.live, hsane.registered, hsane.watched, hsane.completed, hsane.events,
    hsane.identities, hsane.capacity, hsane.bounded, hsane.calls, hsane.loop,
    fun _ => hshutdown⟩

theorem proceed (hsane : executor.Sane maxConcurrency) {next : AsyncExecutor} {index : Nat}
    {call : PendingCall} (hcall : executor.calls[index]? = some call)
    (hproceed : executor.proceed index call = some next) : next.Sane maxConcurrency := by
  have hfits := hsane.calls call (List.mem_of_getElem? hcall)
  cases call with
  | scheduling handle =>
      obtain ⟨hopen, hscheduled⟩ := hsane.scheduling hcall
      simp only [AsyncExecutor.proceed, hopen, Bool.false_eq_true, if_false] at hproceed
      cases hproceed
      exact hscheduled.unchanged _ _ _ _
  | failing handle chores => exact hfits.elim
  | requesting handle others =>
      have hothers : others.isSome = true → executor.shutdown = true := by
        intro hsome
        cases others with
        | none => cases hsome
        | some => exact hfits
      rw [AsyncExecutor.proceed] at hproceed
      split at hproceed
      · cases hproceed
        exact hsane.endCancel hcall rfl _ hothers
      · cases hproceed
        have hticket := hsane.unchanged executor.pendingCancellations executor.acknowledged
          (executor.tickets + 1) executor.answers
        have hasked : Sane maxConcurrency ({ executor with tickets := executor.tickets + 1 }.callSoon
            (.requestCancellation handle executor.tickets)) := hticket.callSoon rfl trivial
        apply hasked.goOnAs hcall rfl rfl
        cases others with
        | none => trivial
        | some => exact hfits
  | acknowledging ticket others =>
      obtain ⟨outcome, -, rfl⟩ := Option.map_eq_some_iff.mp hproceed
      apply hsane.endCancel hcall rfl
      intro hsome
      cases others with
      | none => cases hsome
      | some => exact hfits
  | awaiting handles =>
      cases handles with
      | nil =>
          cases hproceed
          exact hsane.goOnAs hcall rfl rfl ⟨hfits.1, List.subset_nil.mp hfits.2⟩
      | cons handle others =>
          rw [AsyncExecutor.proceed] at hproceed
          split at hproceed
          · next hset =>
            cases hproceed
            apply hsane.goOnAs hcall rfl rfl
            refine ⟨hfits.1, ?_⟩
            intro active hactive
            apply (List.mem_cons.mp (hfits.2 hactive)).resolve_left
            rintro rfl
            rw [hsane.events active hactive] at hset
            cases hset
          · cases hproceed
  | stopping joins =>
      have hasked : Sane maxConcurrency
          (if executor.loop.closed = true then executor else executor.callSoon .stop) := by
        split
        · exact hsane
        · exact hsane.callSoon rfl hfits
      have hcalls : (if executor.loop.closed = true then executor
          else executor.callSoon .stop).calls[index]? = some (.stopping joins) := by
        split
        · exact hcall
        · exact hcall
      have hshutdown : (if executor.loop.closed = true then executor
          else executor.callSoon .stop).shutdown = true := by
        split
        · exact hfits.1
        · exact hfits.1
      cases joins with
      | true =>
          cases hproceed
          exact hasked.goOnAs hcalls rfl rfl hshutdown
      | false =>
          cases hproceed
          exact (hasked.goAway hcalls rfl).unchanged _ _ _ _
  | joining =>
      rw [AsyncExecutor.proceed] at hproceed
      split at hproceed
      · cases hproceed
        exact (hsane.goAway hcall rfl).unchanged _ _ _ _
      · cases hproceed
  | sweeping handles =>
      cases handles with
      | nil =>
          rw [AsyncExecutor.proceed] at hproceed
          have hmarked := hsane.marked hfits
          split at hproceed
          · next hidle =>
            cases hproceed
            exact hmarked.goOnAs hcall rfl rfl ⟨hfits, hidle⟩
          · cases hproceed
            exact (hmarked.goAway hcall rfl).unchanged _ _ _ _
      | cons handle others =>
          cases hproceed
          rcases executor.cancel_cases handle (some others) with ⟨reply, hanswer⟩ | hasks
          · rw [hanswer]
            exact hsane.goOnAs hcall rfl rfl hfits
          · rw [hasks]
            exact hsane.goOnAs hcall rfl rfl hfits

/-- Whatever happens next keeps the invariant. -/
theorem step (hsane : executor.Sane maxConcurrency) {next : AsyncExecutor} {event : AsyncEvent}
    (hstep : executor.step event = some next) : next.Sane maxConcurrency := by
  cases event with
  | submit task context unfit =>
      cases hstep
      exact hsane.submit task context unfit
  | cancel handle =>
      cases hstep
      rcases executor.cancel_cases handle none with ⟨reply, hanswer⟩ | hasks
      · rw [hanswer]
        exact hsane.unchanged _ _ _ _
      · rw [hasks]
        exact hsane.enter rfl trivial
  | shutdown wait =>
      cases hstep
      exact hsane.beginShutdown wait
  | proceed index =>
      obtain ⟨call, hcall, hproceed⟩ := Option.bind_eq_some_iff.mp hstep
      exact hsane.proceed hcall hproceed
  | turn failure => exact hsane.turn hstep
  | settle handle settled => exact hsane.settle hstep
  | get => exact hsane.get hstep

theorem start (maxConcurrency : Nat) : (AsyncExecutor.new maxConcurrency).Sane maxConcurrency := by
  constructor
  · exact fun handle => rfl
  · exact fun handle => rfl
  · exact fun task htask => absurd htask (List.not_mem_nil)
  · intro handleId
    constructor
    · exact fun hcompleted => absurd hcompleted (List.not_mem_nil)
    · rintro ⟨handle, hhandle, -⟩
      cases hhandle
  · exact fun handle hactive => absurd hactive (List.not_mem_nil)
  · rfl
  · rfl
  · exact Nat.zero_le _
  · exact fun call hcall => absurd hcall (List.not_mem_nil)
  · constructor
    · exact fun callback hcallback => absurd hcallback (List.not_mem_nil)
    · exact fun chore hchore => absurd hchore (List.not_mem_nil)
    · exact fun hstopping => absurd hstopping Bool.false_ne_true
    · exact fun hclosed => absurd hclosed Bool.false_ne_true
    · exact fun hclosed => absurd hclosed Bool.false_ne_true
  · exact fun hidle => absurd hidle Bool.false_ne_true

theorem of_reaches (hreaches : (AsyncExecutor.system maxConcurrency).Reaches executor) :
    executor.Sane maxConcurrency := by
  apply System.Reaches.invariant (start maxConcurrency) _ hreaches
  exact fun state event next hsane hstep => hsane.step hstep

/-- A completion that is about to be put belongs to an accepted attempt without one. -/
theorem waits_of_putting (hsane : executor.Sane maxConcurrency) {handle : ExecutionHandle}
    (hputting : handle ∈ executor.putting) :
    handle ∈ executor.handles.rows ∧ handle ∉ executor.delivered := by
  have hcount := hsane.registered handle
  have hone : executor.handles.rows.count handle ≤ 1 :=
    List.nodup_iff_count_le_one.mp executor.handles.nodup.of_map handle
  have hpos := List.count_pos_iff.mpr hputting
  constructor
  · exact List.count_pos_iff.mp (by omega)
  · intro hdelivered
    have hagain := List.count_pos_iff.mpr hdelivered
    omega

/-- An attempt that has ended has its completion, or is about to. -/
theorem delivered_or_putting (hsane : executor.Sane maxConcurrency) {handle : ExecutionHandle}
    (hhandle : handle ∈ executor.handles.rows)
    (hidle : handle ∉ executor.activeHandles.rows) :
    handle ∈ executor.delivered ∨ handle ∈ executor.putting := by
  have hcount := hsane.registered handle
  have hpos := List.count_pos_iff.mpr hhandle
  rw [List.count_eq_zero.mpr hidle] at hcount
  by_cases hputting : handle ∈ executor.putting
  · exact Or.inr hputting
  · rw [List.count_eq_zero.mpr hputting] at hcount
    exact Or.inl (List.count_pos_iff.mp (by omega))

/-- `wait` is right about the attempts that have ended. -/
theorem of_wait (hsane : executor.Sane maxConcurrency) {handle : ExecutionHandle}
    (hwait : executor.wait handle = .ok true) :
    handle ∈ executor.delivered ∨ handle ∈ executor.putting := by
  rw [AsyncExecutor.wait] at hwait
  split at hwait
  · cases hwait
  · next hknown =>
    have hhandle := Table.mem_of_find? (not_not.mp hknown)
    apply hsane.delivered_or_putting hhandle
    have hended := Except.ok.inj hwait
    rcases Bool.or_eq_true_iff.mp hended with hcompleted | hset
    · exact hsane.notMem_of_completed hhandle (of_decide_eq_true hcompleted)
    · intro hactive
      rw [hsane.events handle hactive] at hset
      cases hset

/-- A closed loop leaves nothing to complete. -/
theorem of_closed (hsane : executor.Sane maxConcurrency)
    (hclosed : executor.loop.closed = true) :
    executor.live = [] ∧ List.Perm executor.handles.rows executor.delivered := by
  have hnone := (hsane.loop.closed hclosed).2
  have hputting : executor.putting = [] := by
    rw [AsyncExecutor.putting, (hsane.loop.ended hclosed).2]
    rfl
  constructor
  · apply List.eq_nil_iff_forall_not_mem.mpr
    intro handle hlive
    have hactive := hsane.active_of_live hlive
    rw [hnone] at hactive
    cases hactive
  · apply List.perm_iff_count.mpr
    intro handle
    have hcount := hsane.registered handle
    rw [hnone, hputting, List.count_nil] at hcount
    omega

end Sane

section Desk

variable {maxConcurrency : Nat} {executor : AsyncExecutor}

/-- What the clients see: the attempts accepted, the completions put, the shutdown. -/
def desk (executor : AsyncExecutor) :
    Desk ExecutionHandle (Except ExecutorError TaskResult) where
  accepted := executor.handles.rows
  delivered := executor.published.map fun completion => (completion.handle, completion.outcome)
  closed := executor.shutdown

theorem settled_desk (executor : AsyncExecutor) : executor.desk.settled = executor.delivered := by
  rw [Desk.settled, desk, List.map_map]
  rfl

/-- What an event comes to at the desk. -/
def shown (executor : AsyncExecutor) :
    AsyncEvent → Option (Deal ExecutionHandle (Except ExecutorError TaskResult))
  | .submit task context unfit =>
      if unfit = none ∧ task.executorKey = key ∧ executor.shutdown = false ∧
          context.attemptId ∉ executor.submittedAttemptIds ∧
          executor.activeHandles.rows.length < executor.maxConcurrency then
        some (.accept (handleFor key context.attemptId))
      else none
  | .shutdown _ => some .close
  | .turn _ =>
      match executor.loop.chores with
      | .put completion :: _ => some (.deliver completion.handle completion.outcome)
      | _ => none
  | _ => none

/-- A submission is accepted, or only answered. -/
theorem submit_cases (executor : AsyncExecutor) (task : TaskDefinition) (context : RunContext)
    (unfit : Option String) :
    (executor.shown (.submit task context unfit) = none ∧
        (executor.submit task context unfit).desk = executor.desk) ∨
      (executor.shown (.submit task context unfit) =
          some (.accept (handleFor key context.attemptId)) ∧
        executor.shutdown = false ∧ context.attemptId ∉ executor.submittedAttemptIds ∧
        (executor.submit task context unfit).desk = { executor.desk with
          accepted := (executor.handles.set (handleFor key context.attemptId)).rows }) := by
  cases unfit with
  | some reason =>
      refine Or.inl ⟨?_, rfl⟩
      rw [shown, if_neg]
      exact fun hfits => Option.some_ne_none _ hfits.1
  | none =>
      rw [submit]
      split
      · next hkey => exact Or.inl ⟨if_neg fun hfits => hkey hfits.2.1, rfl⟩
      · next hkey =>
        split
        · next hshutdown =>
          refine Or.inl ⟨if_neg fun hfits => ?_, rfl⟩
          rw [hshutdown] at hfits
          exact Bool.noConfusion hfits.2.2.1
        · next hopen =>
          split
          · next hagain => exact Or.inl ⟨if_neg fun hfits => hfits.2.2.2.1 hagain, rfl⟩
          · next hnew =>
            split
            · next hfull =>
              exact Or.inl ⟨if_neg fun hfits => absurd hfits.2.2.2.2 (Nat.not_lt.mpr hfull), rfl⟩
            · next hroom =>
              have hfalse := Bool.eq_false_of_not_eq_true hopen
              exact Or.inr ⟨if_pos ⟨rfl, not_not.mp hkey, hfalse, hnew, Nat.lt_of_not_le hroom⟩,
                hfalse, hnew, rfl⟩

theorem desk_scheduleTask (executor : AsyncExecutor) (handle : ExecutionHandle)
    (failure : Option Raised) : (executor.scheduleTask handle failure).desk = executor.desk := by
  cases failure with
  | some raised => rfl
  | none =>
      rw [scheduleTask]
      split
      · rfl
      · rfl

theorem desk_runCallback (executor : AsyncExecutor) (failure : Option Raised)
    (callback : Callback) : (executor.runCallback failure callback).desk = executor.desk := by
  cases callback with
  | scheduleTask handle => exact executor.desk_scheduleTask handle failure
  | publishCompletion => rfl
  | requestCancellation => rfl
  | stop => rfl

/-- The loop thread delivers a completion, or changes nothing at the desk. -/
theorem desk_turn {next : AsyncExecutor} {failure : Option Raised}
    (hturn : executor.turn failure = some next) :
    (∃ completion rest, executor.loop.chores = .put completion :: rest ∧
        next.desk = { executor.desk with
          delivered := executor.desk.delivered ++ [(completion.handle, completion.outcome)] }) ∨
      (executor.shown (.turn failure) = none ∧ next.desk = executor.desk) := by
  rw [turn] at hturn
  split at hturn
  · cases hturn
  · split at hturn
    · next _ chore rest hchores =>
      cases hturn
      cases chore with
      | put completion =>
          refine Or.inl ⟨completion, rest, hchores, ?_⟩
          simp only [desk, perform, published, List.map_append, List.append_assoc,
            List.map_singleton]
      | setDone => exact Or.inr ⟨by simp only [shown, hchores], rfl⟩
      | stopLoop => exact Or.inr ⟨by simp only [shown, hchores], rfl⟩
    · next callback rest hchores hbatch =>
      cases hturn
      exact Or.inr ⟨by simp only [shown, hchores], desk_runCallback _ failure callback⟩
    · next hchores hbatch =>
      have hsilent : executor.shown (.turn failure) = none := by simp only [shown, hchores]
      split at hturn
      · cases hturn
        exact Or.inr ⟨hsilent, rfl⟩
      · split at hturn
        · cases hturn
        · cases hturn
          exact Or.inr ⟨hsilent, rfl⟩

theorem desk_endCancel (executor : AsyncExecutor) (index : Nat) (reply : Answer)
    (others : Option (List ExecutionHandle)) :
    (executor.endCancel index reply others).desk = executor.desk := by
  cases others with
  | none => rfl
  | some => rfl

/-- A call of a client changes nothing at the desk after its first critical section. -/
theorem desk_proceed (hsane : executor.Sane maxConcurrency) {next : AsyncExecutor} {index : Nat}
    {call : PendingCall} (hcall : executor.calls[index]? = some call)
    (hproceed : executor.proceed index call = some next) : next.desk = executor.desk := by
  cases call with
  | scheduling handle =>
      simp only [proceed, (hsane.scheduling hcall).1, Bool.false_eq_true, if_false] at hproceed
      cases hproceed
      rfl
  | failing => exact (hsane.calls _ (List.mem_of_getElem? hcall)).elim
  | requesting handle others =>
      rw [proceed] at hproceed
      split at hproceed
      · cases hproceed
        exact executor.desk_endCancel index _ others
      · cases hproceed
        rfl
  | acknowledging ticket others =>
      obtain ⟨outcome, -, rfl⟩ := Option.map_eq_some_iff.mp hproceed
      exact executor.desk_endCancel index _ others
  | awaiting handles =>
      cases handles with
      | nil =>
          cases hproceed
          rfl
      | cons handle others =>
          rw [proceed] at hproceed
          split at hproceed
          · cases hproceed
            rfl
          · cases hproceed
  | stopping joins =>
      have hasked : (if executor.loop.closed = true then executor
          else executor.callSoon .stop).desk = executor.desk := by
        split
        · rfl
        · rfl
      cases joins with
      | true =>
          cases hproceed
          exact hasked
      | false =>
          cases hproceed
          exact hasked
  | joining =>
      rw [proceed] at hproceed
      split at hproceed
      · cases hproceed
        rfl
      · cases hproceed
  | sweeping handles =>
      cases handles with
      | nil =>
          rw [proceed] at hproceed
          split at hproceed
          · cases hproceed
            rfl
          · cases hproceed
            rfl
      | cons handle others =>
          cases hproceed
          rcases executor.cancel_cases handle (some others) with ⟨reply, hanswer⟩ | hasks
          · rw [hanswer]
            rfl
          · rw [hasks]
            rfl

/-- The executor is a desk that accepts attempts and delivers their completions. -/
theorem refines_desk (maxConcurrency : Nat) :
    Refines (system maxConcurrency) (Desk.system _ _) (Sane maxConcurrency) desk shown := by
  have hevery : ∀ (executor : AsyncExecutor) (event : AsyncEvent) (next : AsyncExecutor),
      executor.Sane maxConcurrency →
      executor.step event = some next →
        (executor.shown event = none ∧ next.desk = executor.desk) ∨
          ∃ deal, executor.shown event = some deal ∧
            executor.desk.move deal = some next.desk := by
    intro executor event next hsane hstep
    cases event with
    | submit task context unfit =>
        cases hstep
        rcases executor.submit_cases task context unfit with hsilent | ⟨hshown, hopen, hnew, hdesk⟩
        · exact Or.inl hsilent
        · have hfresh : ∀ other ∈ executor.handles.rows,
              other.handleId ≠ (handleFor key context.attemptId).handleId :=
            hsane.fresh hnew
          refine Or.inr ⟨_, hshown, ?_⟩
          rw [hdesk, Desk.move, if_neg]
          · rw [executor.handles.rows_set_of_absent
              ((executor.handles.find?_eq_none_iff _).mpr hfresh)]
            rfl
          · rintro (hclosed | hagain)
            · rw [desk, hopen] at hclosed
              cases hclosed
            · exact hfresh _ hagain rfl
    | cancel handle =>
        cases hstep
        rcases executor.cancel_cases handle none with ⟨reply, hanswer⟩ | hasks
        · rw [hanswer]
          exact Or.inl ⟨rfl, rfl⟩
        · rw [hasks]
          exact Or.inl ⟨rfl, rfl⟩
    | shutdown wait =>
        cases hstep
        exact Or.inr ⟨.close, rfl, rfl⟩
    | proceed index =>
        obtain ⟨call, hcall, hproceed⟩ := Option.bind_eq_some_iff.mp hstep
        exact Or.inl ⟨rfl, desk_proceed hsane hcall hproceed⟩
    | turn failure =>
        rcases desk_turn hstep with ⟨completion, rest, hchores, hdesk⟩ | hsilent
        · have hputting : completion.handle ∈ executor.putting := by
            rw [putting, hchores]
            exact List.mem_cons_self
          obtain ⟨haccepted, hwaits⟩ := hsane.waits_of_putting hputting
          have hshown : executor.shown (.turn failure) =
              some (.deliver completion.handle completion.outcome) := by
            simp only [shown, hchores]
          refine Or.inr ⟨_, hshown, ?_⟩
          rw [Desk.move, if_pos, hdesk]
          rw [settled_desk]
          exact ⟨haccepted, hwaits⟩
        · exact Or.inl hsilent
    | settle handle settled =>
        have hsettle : executor.settle handle settled = some next := hstep
        rw [settle] at hsettle
        split at hsettle
        · cases hsettle
          exact Or.inl ⟨rfl, rfl⟩
        · cases hsettle
    | get =>
        have hget : executor.get = some next := hstep
        rw [get] at hget
        split at hget
        · cases hget
        · next completion rest hqueue =>
          cases hget
          refine Or.inl ⟨rfl, ?_⟩
          rw [desk, desk, published, published, hqueue, List.append_assoc,
            List.singleton_append]
  constructor
  · rfl
  · intro executor event next hsane hstep deal hshown
    rcases hevery executor event next hsane hstep with ⟨hsilent, -⟩ | ⟨other, hother, hmove⟩
    · rw [hsilent] at hshown
      cases hshown
    · rw [hother] at hshown
      cases hshown
      exact hmove
  · intro executor event next hsane hstep hsilent
    rcases hevery executor event next hsane hstep with ⟨-, hdesk⟩ | ⟨other, hother, -⟩
    · exact hdesk
    · rw [hother] at hsilent
      cases hsilent

/-- An attempt runs, the executor is shut down, and its loop closes. -/
def closingEvents : List AsyncEvent :=
  [.submit (extracting key) extractContext none, .proceed 0, .turn none, .turn none,
    .settle (handleFor key extractContext.attemptId) (.returned extracted), .turn none,
    .turn none, .turn none, .turn none, .get, .shutdown true, .proceed 0, .proceed 0, .turn none,
    .turn none, .turn none]

theorem closingEvents_run : ((system 1).run (new 1) closingEvents).isSome = true := by
  decide +kernel

def closedExecutor : AsyncExecutor :=
  ((system 1).run (new 1) closingEvents).get closingEvents_run

end Desk

end AsyncExecutor

end PyWorkflowKit.V1.Executors
