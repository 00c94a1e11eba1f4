import PyWorkflowKit.V1.Executors.AsyncioDelivery

/-!
# Progress of the asyncio executor

A call that has to wait waits for the loop, for a running handler or for a submission that can
go on; only a cancellation that the loop dropped when it stopped waits for nothing.
-/

namespace PyWorkflowKit.V1.Executors

open PyWorkflowKit.Core PyWorkflowKit.Domain

/-- What ends the wait of a pending call. -/
def PendingCall.Wakes (executor : AsyncExecutor) : PendingCall → Prop
  | .acknowledging ticket _ => (executor.acknowledged.lookup ticket).isSome = true ∨
      ∃ handle, Callback.requestCancellation handle ticket ∈ executor.loop.callbacks
  | .joining => executor.loop.closed = true ∨ executor.loop.stopping = true ∨
      Callback.stop ∈ executor.loop.callbacks
  | .awaiting handles => handles ⊆ executor.handles.rows
  | _ => True

/-- A callback that has run has left its trace. -/
def Callback.Ran (executor : AsyncExecutor) : Callback → Prop
  | .requestCancellation _ ticket => (executor.acknowledged.lookup ticket).isSome = true
  | .stop => executor.loop.stopping = true
  | _ => True

namespace AsyncExecutor

/-- No reason to wake up is lost on the way from one state to another. -/
structure Onward (executor next : AsyncExecutor) : Prop where
  handles : executor.handles.rows ⊆ next.handles.rows
  acknowledged : ∀ ticket, (executor.acknowledged.lookup ticket).isSome = true →
    (next.acknowledged.lookup ticket).isSome = true
  closed : executor.loop.closed = true → next.loop.closed = true
  stopping : executor.loop.stopping = true → next.loop.stopping = true
  callbacks : ∀ callback ∈ executor.loop.callbacks,
    callback ∈ next.loop.callbacks ∨ callback.Ran next

/-- An attempt is active, or its event is set, or about to be set. -/
def Ends (executor : AsyncExecutor) (handle : ExecutionHandle) : Prop :=
  handle ∈ executor.activeHandles.rows ∨ Chore.setDone handle.handleId ∈ executor.loop.chores ∨
    (executor.doneEvents.find? handle.handleId).any DoneEvent.isSet = true

/-- Every pending call will be woken. -/
structure Awake (executor : AsyncExecutor) : Prop where
  calls : ∀ call ∈ executor.calls, call.Wakes executor
  ends : ∀ handle ∈ executor.handles.rows, executor.Ends handle

variable {maxConcurrency : Nat} {executor next : AsyncExecutor}

theorem Onward.wakes (honward : Onward executor next) {call : PendingCall}
    (hwakes : call.Wakes executor) : call.Wakes next := by
  cases call with
  | acknowledging ticket others =>
      rcases hwakes with hanswered | ⟨handle, hwaits⟩
      · exact Or.inl (honward.acknowledged ticket hanswered)
      · rcases honward.callbacks _ hwaits with hstill | hran
        · exact Or.inr ⟨handle, hstill⟩
        · exact Or.inl hran
  | joining =>
      rcases hwakes with hclosed | hstopping | hwaits
      · exact Or.inl (honward.closed hclosed)
      · exact Or.inr (Or.inl (honward.stopping hstopping))
      · rcases honward.callbacks _ hwaits with hstill | hran
        · exact Or.inr (Or.inr hstill)
        · exact Or.inr (Or.inl hran)
  | awaiting handles => exact List.Subset.trans hwakes honward.handles
  | _ => trivial

/-- The calls that were pending are woken, and so are the new ones. -/
theorem Awake.onward (hawake : executor.Awake) (honward : Onward executor next)
    (hcalls : ∀ call ∈ next.calls, call ∈ executor.calls ∨ call.Wakes next)
    (hends : ∀ handle ∈ next.handles.rows, next.Ends handle) : next.Awake := by
  constructor
  · intro call hcall
    rcases hcalls call hcall with hold | hnew
    · exact honward.wakes (hawake.calls call hold)
    · exact hnew
  · exact hends

/-- Nothing that wakes a call has changed. -/
theorem Onward.same (hhandles : next.handles = executor.handles)
    (hacknowledged : next.acknowledged = executor.acknowledged)
    (hloop : next.loop = executor.loop) : Onward executor next := by
  constructor
  · rw [hhandles]
    exact List.Subset.refl _
  · rw [hacknowledged]
    exact fun ticket hanswered => hanswered
  · rw [hloop]
    exact fun hclosed => hclosed
  · rw [hloop]
    exact fun hstopping => hstopping
  · rw [hloop]
    exact fun callback hcallback => Or.inl hcallback

theorem Onward.callSoon (executor : AsyncExecutor) (callback : Callback) :
    Onward executor (executor.callSoon callback) := by
  constructor
  · exact List.Subset.refl _
  · exact fun ticket hanswered => hanswered
  · exact fun hclosed => hclosed
  · exact fun hstopping => hstopping
  · intro other hother
    apply Or.inl
    simp only [AsyncExecutor.callSoon, EventLoop.callbacks, ← List.append_assoc]
    exact List.mem_append_left _ hother

theorem mem_callSoon (executor : AsyncExecutor) (callback : Callback) :
    callback ∈ (executor.callSoon callback).loop.callbacks := by
  simp [AsyncExecutor.callSoon, EventLoop.callbacks]

/-- A pending call goes on, and nothing else changes. -/
theorem Awake.goOn (hawake : executor.Awake) {index : Nat} {others : List PendingCall}
    (hothers : ∀ call ∈ others, call.Wakes executor) :
    (executor.goOn index others).Awake := by
  have honward : Onward executor (executor.goOn index others) := .same rfl rfl rfl
  apply hawake.onward honward
  · intro call hcall
    rcases mem_splice hcall with hold | hnew
    · exact Or.inl hold
    · exact Or.inr (honward.wakes (hothers call hnew))
  · exact hawake.ends

theorem Awake.goOnAs (hawake : executor.Awake) {index : Nat} {call : PendingCall}
    (hcall : call.Wakes executor) : (executor.goOn index [call]).Awake := by
  apply hawake.goOn
  intro other hother
  rw [List.mem_singleton.mp hother]
  exact hcall

theorem Awake.goAway (hawake : executor.Awake) (index : Nat) :
    (executor.goOn index []).Awake :=
  hawake.goOn fun _ hcall => absurd hcall (List.not_mem_nil)

theorem Awake.enter (hawake : executor.Awake) {call : PendingCall}
    (hcall : call.Wakes executor) : (executor.enter call).Awake := by
  have honward : Onward executor (executor.enter call) := .same rfl rfl rfl
  apply hawake.onward honward
  · intro other hother
    rcases List.mem_append.mp hother with hold | hnew
    · exact Or.inl hold
    · rw [List.mem_singleton.mp hnew]
      exact Or.inr (honward.wakes hcall)
  · exact hawake.ends

theorem Awake.callSoon (hawake : executor.Awake) (callback : Callback) :
    (executor.callSoon callback).Awake :=
  hawake.onward (.callSoon executor callback) (fun _ hcall => Or.inl hcall) hawake.ends

/-- What no pending call waits for. -/
theorem Awake.unchanged (hawake : executor.Awake) (shutdown stopWhenIdle : Bool)
    (tickets : Nat) (answers : List Answer) :
    Awake { executor with
      shutdown := shutdown
      stopWhenIdle := stopWhenIdle
      tickets := tickets
      answers := answers } :=
  hawake.onward (.same rfl rfl rfl) (fun _ hcall => Or.inl hcall) hawake.ends

theorem Awake.endCancel (hawake : executor.Awake) (index : Nat) (reply : Answer)
    (others : Option (List ExecutionHandle)) : (executor.endCancel index reply others).Awake := by
  cases others with
  | none => exact (hawake.goAway index).unchanged _ _ _ _
  | some handles => exact hawake.goOnAs trivial

theorem Awake.submit (hawake : executor.Awake) (hsane : executor.Sane maxConcurrency)
    (task : TaskDefinition) (context : RunContext) (unfit : Option String) :
    (executor.submit task context unfit).Awake := by
  cases unfit with
  | some reason => exact hawake.unchanged _ _ _ _
  | none =>
      rw [AsyncExecutor.submit]
      split
      · exact hawake.unchanged _ _ _ _
      split
      · exact hawake.unchanged _ _ _ _
      split
      · exact hawake.unchanged _ _ _ _
      next hnew =>
      split
      · exact hawake.unchanged _ _ _ _
      have hfresh := hsane.fresh hnew
      apply hawake.onward
      · constructor
        · intro handle hhandle
          exact (Table.mem_set _ _ _).mpr (Or.inr ⟨hhandle, hfresh handle hhandle⟩)
        · exact fun ticket hanswered => hanswered
        · exact fun hclosed => hclosed
        · exact fun hstopping => hstopping
        · exact fun callback hcallback => Or.inl hcallback
      · intro call hcall
        rcases List.mem_append.mp hcall with hold | hlast
        · exact Or.inl hold
        · rw [List.mem_singleton.mp hlast]
          exact Or.inr trivial
      · intro handle hhandle
        rcases (Table.mem_set _ _ _).mp hhandle with rfl | ⟨hold, hne⟩
        · exact Or.inl ((Table.mem_set _ _ _).mpr (Or.inl rfl))
        · rcases hawake.ends handle hold with hactive | hsetting | hset
          · exact Or.inl ((Table.mem_set _ _ _).mpr (Or.inr ⟨hactive, hne⟩))
          · exact Or.inr (Or.inl hsetting)
          · refine Or.inr (Or.inr ?_)
            simp only
            rwa [executor.doneEvents.find?_set_of_ne _ hne.symm]

/-- What is left of a callback may go on. -/
theorem Awake.perform (hawake : executor.Awake) {chore : Chore} {rest : List Chore}
    (hchores : executor.loop.chores = chore :: rest) :
    ({ executor with loop := { executor.loop with chores := rest } }.perform chore).Awake := by
  have hends : ∀ handle ∈ executor.handles.rows,
      handle ∈ executor.activeHandles.rows ∨ chore = .setDone handle.handleId ∨
        Chore.setDone handle.handleId ∈ rest ∨
          (executor.doneEvents.find? handle.handleId).any DoneEvent.isSet = true := by
    intro handle hhandle
    rcases hawake.ends handle hhandle with hactive | hsetting | hset
    · exact Or.inl hactive
    · rw [hchores] at hsetting
      rcases List.mem_cons.mp hsetting with hfirst | hlater
      · exact Or.inr (Or.inl hfirst.symm)
      · exact Or.inr (Or.inr (Or.inl hlater))
    · exact Or.inr (Or.inr (Or.inr hset))
  cases chore with
  | setDone handleId =>
      apply hawake.onward
      · exact ⟨List.Subset.refl _, fun _ hanswered => hanswered, fun hclosed => hclosed,
          fun hstopping => hstopping, fun _ hcallback => Or.inl hcallback⟩
      · exact fun _ hcall => Or.inl hcall
      · intro handle hhandle
        by_cases hsame : handleId = handle.handleId
        · refine Or.inr (Or.inr ?_)
          have hfound := executor.doneEvents.find?_set_self ⟨handleId, true⟩
          simp only [AsyncExecutor.perform, ← hsame]
          rw [hfound]
          rfl
        · rcases hends handle hhandle with hactive | hfirst | hlater | hset
          · exact Or.inl hactive
          · exact absurd (Chore.setDone.inj hfirst) hsame
          · exact Or.inr (Or.inl hlater)
          · refine Or.inr (Or.inr ?_)
            have hfound := executor.doneEvents.find?_set_of_ne ⟨handleId, true⟩ hsame
            simp only [AsyncExecutor.perform]
            rwa [hfound]
  | put completion =>
      apply hawake.onward
      · exact ⟨List.Subset.refl _, fun _ hanswered => hanswered, fun hclosed => hclosed,
          fun hstopping => hstopping, fun _ hcallback => Or.inl hcallback⟩
      · exact fun _ hcall => Or.inl hcall
      · intro handle hhandle
        rcases hends handle hhandle with hactive | hfirst | hlater | hset
        · exact Or.inl hactive
        · cases hfirst
        · exact Or.inr (Or.inl hlater)
        · exact Or.inr (Or.inr hset)
  | stopLoop =>
      apply hawake.onward
      · exact ⟨List.Subset.refl _, fun _ hanswered => hanswered, fun hclosed => hclosed,
          fun _ => rfl, fun _ hcallback => Or.inl hcallback⟩
      · exact fun _ hcall => Or.inl hcall
      · intro handle hhandle
        rcases hends handle hhandle with hactive | hfirst | hlater | hset
        · exact Or.inl hactive
        · cases hfirst
        · exact Or.inr (Or.inl hlater)
        · exact Or.inr (Or.inr hset)

/-- `_finish_handle` on the loop thread leaves the event of the attempt to be set. -/
theorem Awake.finishHandle (hawake : executor.Awake) (hsane : executor.Sane maxConcurrency)
    {callback : Callback} {rest : List Callback} {handle : ExecutionHandle}
    (hbatch : executor.loop.batch = callback :: rest) (hchores : executor.loop.chores = [])
    (hlive : callback.live = [handle]) (completion : AttemptCompletion) :
    (onLoop ({ executor with loop := { executor.loop with batch := rest } }.finishHandle handle
      completion)).Awake := by
  have hmem : handle ∈ executor.loop.live := by
    rw [EventLoop.live, EventLoop.callbacks, hbatch, List.cons_append, List.flatMap_cons, hlive]
    exact List.mem_cons_self
  have hactive : handle ∈ executor.activeHandles.rows :=
    hsane.active_of_live (List.mem_append_left _ (List.mem_append_right _ hmem))
  apply hawake.onward
  · constructor
    · exact List.Subset.refl _
    · exact fun _ hanswered => hanswered
    · exact fun hclosed => hclosed
    · exact fun hstopping => hstopping
    · intro other hother
      rw [EventLoop.callbacks, hbatch, List.cons_append] at hother
      rcases List.mem_cons.mp hother with rfl | hlater
      · refine Or.inr ?_
        cases other with
        | requestCancellation => cases hlive
        | stop => cases hlive
        | _ => trivial
      · exact Or.inl hlater
  · exact fun _ hcall => Or.inl hcall
  · intro other hhandle
    by_cases hsame : other.handleId = handle.handleId
    · refine Or.inr (Or.inl ?_)
      simp only [onLoop, AsyncExecutor.finishHandle, hsane.events handle hactive,
        Option.toList_some, List.map_singleton, hsame]
      exact List.mem_cons_self
    · rcases hawake.ends other hhandle with hstill | hsetting | hset
      · exact Or.inl (List.mem_filter.mpr ⟨hstill, decide_eq_true hsame⟩)
      · rw [hchores] at hsetting
        cases hsetting
      · exact Or.inr (Or.inr hset)

/-- The first callback of the current iteration has run. -/
theorem Onward.popped {callback : Callback} {rest : List Callback}
    (hbatch : executor.loop.batch = callback :: rest) (hran : callback.Ran next)
    (hhandles : next.handles = executor.handles)
    (hacknowledged : ∀ ticket, (executor.acknowledged.lookup ticket).isSome = true →
      (next.acknowledged.lookup ticket).isSome = true)
    (hclosed : next.loop.closed = executor.loop.closed)
    (hstopping : executor.loop.stopping = true → next.loop.stopping = true)
    (hrest : next.loop.callbacks = rest ++ executor.loop.ready) : Onward executor next := by
  constructor
  · rw [hhandles]
    exact List.Subset.refl _
  · exact hacknowledged
  · rw [hclosed]
    exact fun hended => hended
  · exact hstopping
  · intro other hother
    rw [EventLoop.callbacks, hbatch, List.cons_append] at hother
    rcases List.mem_cons.mp hother with rfl | hlater
    · exact Or.inr hran
    · exact Or.inl (hrest ▸ hlater)

theorem Awake.runCallback (hawake : executor.Awake) (hsane : executor.Sane maxConcurrency)
    {callback : Callback} {rest : List Callback}
    (hbatch : executor.loop.batch = callback :: rest) (hchores : executor.loop.chores = [])
    (failure : Option Raised) :
    ({ executor with loop := { executor.loop with batch := rest } }.runCallback failure
      callback).Awake := by
  cases callback with
  | scheduleTask handle =>
      cases failure with
      | some raised => exact hawake.finishHandle hsane hbatch hchores rfl _
      | none =>
          simp only [AsyncExecutor.runCallback, AsyncExecutor.scheduleTask]
          split
          · apply hawake.onward
            · exact .popped hbatch trivial rfl (fun _ hanswered => hanswered) rfl
                (fun hstopping => hstopping) rfl
            · exact fun _ hcall => Or.inl hcall
            · exact hawake.ends
          · apply hawake.onward
            · exact .popped hbatch trivial rfl (fun _ hanswered => hanswered) rfl
                (fun hstopping => hstopping) rfl
            · exact fun _ hcall => Or.inl hcall
            · exact hawake.ends
  | publishCompletion handle settled => exact hawake.finishHandle hsane hbatch hchores rfl _
  | requestCancellation handle ticket =>
      apply hawake.onward
      · apply Onward.popped hbatch
        · simp [Callback.Ran, AsyncExecutor.runCallback, AsyncExecutor.requestCancellation,
            List.lookup_append]
        · rfl
        · intro other hanswered
          simp [AsyncExecutor.runCallback, AsyncExecutor.requestCancellation,
            List.lookup_append, hanswered]
        · rfl
        · exact fun hstopping => hstopping
        · rfl
      · exact fun _ hcall => Or.inl hcall
      · exact hawake.ends
  | stop =>
      apply hawake.onward
      · exact .popped hbatch rfl rfl (fun _ hanswered => hanswered) rfl (fun _ => rfl) rfl
      · exact fun _ hcall => Or.inl hcall
      · exact hawake.ends

theorem Awake.turn (hawake : executor.Awake) (hsane : executor.Sane maxConcurrency)
    {failure : Option Raised} (hturn : executor.turn failure = some next) : next.Awake := by
  rw [AsyncExecutor.turn] at hturn
  split at hturn
  · cases hturn
  · split at hturn
    · next hchores =>
      cases hturn
      exact hawake.perform hchores
    · next hchores hbatch =>
      cases hturn
      exact hawake.runCallback hsane hbatch hchores failure
    · next hchores hbatch =>
      split at hturn
      · cases hturn
        apply hawake.onward
        · exact ⟨List.Subset.refl _, fun _ hanswered => hanswered, fun _ => rfl,
            fun hstopping => hstopping, fun _ hcallback => Or.inl hcallback⟩
        · exact fun _ hcall => Or.inl hcall
        · exact hawake.ends
      · split at hturn
        · cases hturn
        · cases hturn
          apply hawake.onward
          · refine ⟨List.Subset.refl _, fun _ hanswered => hanswered, fun hclosed => hclosed,
              fun hstopping => hstopping, ?_⟩
            intro callback hcallback
            rw [EventLoop.callbacks, hbatch, List.nil_append] at hcallback
            apply Or.inl
            rw [EventLoop.callbacks, List.append_nil]
            exact hcallback
          · exact fun _ hcall => Or.inl hcall
          · exact hawake.ends

theorem Awake.settle (hawake : executor.Awake) {handle : ExecutionHandle} {settled : Settled}
    (hsettle : executor.settle handle settled = some next) : next.Awake := by
  rw [AsyncExecutor.settle] at hsettle
  split at hsettle
  · cases hsettle
    apply Awake.callSoon
    exact hawake.onward (.same rfl rfl rfl) (fun _ hcall => Or.inl hcall) hawake.ends
  · cases hsettle

theorem Awake.proceed (hawake : executor.Awake) (hsane : executor.Sane maxConcurrency)
    {index : Nat} {call : PendingCall} (hcall : executor.calls[index]? = some call)
    (hproceed : executor.proceed index call = some next) : next.Awake := by
  have hwakes := hawake.calls call (List.mem_of_getElem? hcall)
  cases call with
  | scheduling handle =>
      simp only [AsyncExecutor.proceed, (hsane.scheduling hcall).1, Bool.false_eq_true,
        if_false] at hproceed
      cases hproceed
      exact ((hawake.callSoon _).goAway index).unchanged _ _ _ _
  | failing => exact (hsane.calls _ (List.mem_of_getElem? hcall)).elim
  | requesting handle others =>
      rw [AsyncExecutor.proceed] at hproceed
      split at hproceed
      · cases hproceed
        exact hawake.endCancel index _ others
      · cases hproceed
        have hticket := hawake.unchanged executor.shutdown executor.stopWhenIdle
          (executor.tickets + 1) executor.answers
        apply (hticket.callSoon _).goOnAs
        exact Or.inr ⟨handle, mem_callSoon _ _⟩
  | acknowledging ticket others =>
      obtain ⟨outcome, -, rfl⟩ := Option.map_eq_some_iff.mp hproceed
      exact hawake.endCancel index _ others
  | awaiting handles =>
      cases handles with
      | nil =>
          cases hproceed
          exact hawake.goOnAs trivial
      | cons handle others =>
          rw [AsyncExecutor.proceed] at hproceed
          split at hproceed
          · cases hproceed
            apply hawake.goOnAs
            exact fun other hother => hwakes (List.mem_cons_of_mem _ hother)
          · cases hproceed
  | stopping joins =>
      have hasked : (if executor.loop.closed = true then executor
          else executor.callSoon .stop).Awake := by
        split
        · exact hawake
        · exact hawake.callSoon .stop
      cases joins with
      | true =>
          cases hproceed
          apply hasked.goOnAs
          by_cases hclosed : executor.loop.closed = true
          · rw [if_pos hclosed]
            exact Or.inl hclosed
          · rw [if_neg hclosed]
            exact Or.inr (Or.inr (mem_callSoon _ _))
      | false =>
          cases hproceed
          exact (hasked.goAway index).unchanged _ _ _ _
  | joining =>
      rw [AsyncExecutor.proceed] at hproceed
      split at hproceed
      · cases hproceed
        exact (hawake.goAway index).unchanged _ _ _ _
      · cases hproceed
  | sweeping handles =>
      cases handles with
      | nil =>
          rw [AsyncExecutor.proceed] at hproceed
          have hmarked := hawake.unchanged executor.shutdown true executor.tickets
            executor.answers
          split at hproceed
          · cases hproceed
            exact hmarked.goOnAs trivial
          · cases hproceed
            exact (hmarked.goAway index).unchanged _ _ _ _
      | cons handle others =>
          cases hproceed
          rcases executor.cancel_cases handle (some others) with ⟨reply, hanswer⟩ | hasks
          · rw [hanswer]
            exact hawake.goOnAs trivial
          · rw [hasks]
            exact hawake.goOnAs trivial

theorem Awake.step (hawake : executor.Awake) (hsane : executor.Sane maxConcurrency)
    {event : AsyncEvent} (hstep : executor.step event = some next) : next.Awake := by
  cases event with
  | submit task context unfit =>
      cases hstep
      exact hawake.submit hsane task context unfit
  | cancel handle =>
      cases hstep
      rcases executor.cancel_cases handle none with ⟨reply, hanswer⟩ | hasks
      · rw [hanswer]
        exact hawake.unchanged _ _ _ _
      · rw [hasks]
        exact hawake.enter trivial
  | shutdown wait =>
      cases hstep
      have hmarked := hawake.unchanged true executor.stopWhenIdle executor.tickets
        executor.answers
      apply hmarked.enter
      cases wait
      · trivial
      · exact hsane.active_subset
  | proceed index =>
      obtain ⟨call, hcall, hproceed⟩ := Option.bind_eq_some_iff.mp hstep
      exact hawake.proceed hsane hcall hproceed
  | turn failure => exact hawake.turn hsane hstep
  | settle handle settled => exact hawake.settle hstep
  | get =>
      have hget : executor.get = some next := hstep
      rw [AsyncExecutor.get] at hget
      split at hget
      · cases hget
      · cases hget
        exact hawake.onward (.same rfl rfl rfl) (fun _ hcall => Or.inl hcall) hawake.ends

theorem Awake.of_reaches (hreaches : (system maxConcurrency).Reaches executor) :
    executor.Awake := by
  have hboth : executor.Sane maxConcurrency ∧ executor.Awake := by
    apply System.Reaches.invariant _ _ hreaches
    · refine ⟨Sane.start maxConcurrency, ?_, ?_⟩
      · exact fun call hcall => absurd hcall (List.not_mem_nil)
      · exact fun handle hhandle => absurd hhandle (List.not_mem_nil)
    · exact fun state event next hkept hstep =>
        ⟨hkept.1.step hstep, hkept.2.step hkept.1 hstep⟩
  exact hboth.2

/-- The loop thread goes on while anything waits for it. -/
theorem turn_isSome (hopen : executor.loop.closed = false)
    (hwork : executor.loop.chores ≠ [] ∨ executor.loop.callbacks ≠ [] ∨
      executor.loop.stopping = true) (failure : Option Raised) :
    (executor.turn failure).isSome = true := by
  simp only [AsyncExecutor.turn, hopen, Bool.false_eq_true, if_false]
  split
  · rfl
  · rfl
  · next hchores hbatch =>
    split
    · rfl
    · next hrunning =>
      rw [if_neg]
      · rfl
      · intro hready
        rw [EventLoop.callbacks, hbatch, hready, List.append_nil] at hwork
        rcases hwork with hleft | hwaiting | hstopping
        · exact hleft hchores
        · exact hwaiting rfl
        · exact hrunning hstopping

/-- What an attempt that has not ended waits for: a submission that goes on, the loop, or its
handler. -/
def Moving (executor : AsyncExecutor) (handle : ExecutionHandle) : Prop :=
  (∃ index : Nat, executor.calls[index]? = some (.scheduling handle) ∧
      (executor.step (.proceed index)).isSome = true) ∨
    (∀ failure, (executor.step (.turn failure)).isSome = true) ∨
      ∀ settled, (executor.step (.settle handle settled)).isSome = true

/-- The request of a pending cancellation that the loop dropped when it closed. -/
def Dropped (executor : AsyncExecutor) (ticket : Nat) : Prop :=
  executor.loop.closed = true ∧ executor.acknowledged.lookup ticket = none ∧
    ∃ handle, Callback.requestCancellation handle ticket ∈ executor.loop.ready

theorem moving_of_active (hsane : executor.Sane maxConcurrency) {handle : ExecutionHandle}
    (hactive : handle ∈ executor.activeHandles.rows) : executor.Moving handle := by
  have hopen : executor.loop.closed = false := by
    apply Bool.eq_false_of_not_eq_true
    intro hclosed
    rw [(hsane.loop.closed hclosed).2] at hactive
    cases hactive
  have hlive : handle ∈ executor.live := by
    have hcount := hsane.live handle
    have hpos := List.count_pos_iff.mpr hactive
    exact List.count_pos_iff.mp (by omega)
  rcases List.mem_append.mp hlive with hbefore | htask
  · rcases List.mem_append.mp hbefore with hcall | hcallback
    · obtain ⟨call, hmem, hholds⟩ := List.mem_flatMap.mp hcall
      obtain ⟨index, hindex⟩ := List.getElem?_of_mem hmem
      cases call with
      | scheduling other =>
          rw [List.mem_singleton.mp hholds]
          refine Or.inl ⟨index, hindex, ?_⟩
          simp only [AsyncExecutor.step, hindex, Option.bind_some, AsyncExecutor.proceed,
            hopen, Bool.false_eq_true, if_false, Option.isSome_some]
      | _ => cases hholds
    · refine Or.inr (Or.inl (turn_isSome hopen (Or.inr (Or.inl ?_))))
      intro hnone
      rw [EventLoop.live, hnone] at hcallback
      cases hcallback
  · obtain ⟨task, hmem, hholds⟩ := List.mem_flatMap.mp htask
    rw [AsyncTask.live] at hholds
    split at hholds
    · cases hholds
    · next hrunning =>
      have hsame := List.mem_singleton.mp hholds
      have hdone := Bool.eq_false_of_not_eq_true hrunning
      have hfound := executor.asyncTasks.find?_of_mem hmem
      obtain ⟨other, done⟩ := task
      cases hdone
      cases hsame
      refine Or.inr (Or.inr fun settled => ?_)
      have henabled : executor.asyncTasks.find? other.handleId = some ⟨other, false⟩ ∧
          executor.loop.closed = false := ⟨hfound, hopen⟩
      rw [AsyncExecutor.step, AsyncExecutor.settle, if_pos henabled]
      rfl

/-- Once the loop is closed no cancellation is answered any more. -/
theorem acknowledged_of_closed {event : AsyncEvent} (hclosed : executor.loop.closed = true)
    (hsane : executor.Sane maxConcurrency) (hstep : executor.step event = some next) :
    next.acknowledged = executor.acknowledged ∧ next.loop = executor.loop := by
  cases event with
  | submit task context unfit =>
      cases hstep
      have hshutdown := (hsane.loop.closed hclosed).1
      cases unfit with
      | some reason => exact ⟨rfl, rfl⟩
      | none =>
          rw [AsyncExecutor.submit]
          split
          · exact ⟨rfl, rfl⟩
          · exact ⟨rfl, rfl⟩
  | cancel handle =>
      cases hstep
      rcases executor.cancel_cases handle none with ⟨reply, hanswer⟩ | hasks
      · rw [hanswer]
        exact ⟨rfl, rfl⟩
      · rw [hasks]
        exact ⟨rfl, rfl⟩
  | shutdown wait =>
      cases hstep
      exact ⟨rfl, rfl⟩
  | proceed index =>
      obtain ⟨call, hcall, hproceed⟩ := Option.bind_eq_some_iff.mp hstep
      have hend (reply : Answer) (others : Option (List ExecutionHandle)) :
          (executor.endCancel index reply others).acknowledged = executor.acknowledged ∧
            (executor.endCancel index reply others).loop = executor.loop := by
        cases others with
        | none => exact ⟨rfl, rfl⟩
        | some => exact ⟨rfl, rfl⟩
      cases call with
      | scheduling handle =>
          rw [(hsane.scheduling hcall).1] at hclosed
          cases hclosed
      | failing => exact (hsane.calls _ (List.mem_of_getElem? hcall)).elim
      | requesting handle others =>
          rw [AsyncExecutor.proceed, if_pos hclosed] at hproceed
          cases hproceed
          exact hend _ others
      | acknowledging ticket others =>
          obtain ⟨outcome, -, rfl⟩ := Option.map_eq_some_iff.mp hproceed
          exact hend _ others
      | awaiting handles =>
          cases handles with
          | nil =>
              cases hproceed
              exact ⟨rfl, rfl⟩
          | cons handle others =>
              rw [AsyncExecutor.proceed] at hproceed
              split at hproceed
              · cases hproceed
                exact ⟨rfl, rfl⟩
              · cases hproceed
      | stopping joins =>
          rw [AsyncExecutor.proceed, if_pos hclosed] at hproceed
          cases joins with
          | true =>
              cases hproceed
              exact ⟨rfl, rfl⟩
          | false =>
              cases hproceed
              exact ⟨rfl, rfl⟩
      | joining =>
          rw [AsyncExecutor.proceed, if_pos hclosed] at hproceed
          cases hproceed
          exact ⟨rfl, rfl⟩
      | sweeping handles =>
          cases handles with
          | nil =>
              rw [AsyncExecutor.proceed] at hproceed
              split at hproceed
              · cases hproceed
                exact ⟨rfl, rfl⟩
              · cases hproceed
                exact ⟨rfl, rfl⟩
          | cons handle others =>
              cases hproceed
              rcases executor.cancel_cases handle (some others) with ⟨reply, hanswer⟩ | hasks
              · rw [hanswer]
                exact ⟨rfl, rfl⟩
              · rw [hasks]
                exact ⟨rfl, rfl⟩
  | turn failure =>
      have hturn : executor.turn failure = some next := hstep
      rw [AsyncExecutor.turn, if_pos hclosed] at hturn
      cases hturn
  | settle handle settled =>
      have hsettle : executor.settle handle settled = some next := hstep
      rw [AsyncExecutor.settle, hclosed, if_neg] at hsettle
      · cases hsettle
      · exact fun henabled => Bool.noConfusion henabled.2
  | get =>
      have hget : executor.get = some next := hstep
      rw [AsyncExecutor.get] at hget
      split at hget
      · cases hget
      · cases hget
        exact ⟨rfl, rfl⟩

/-- A dropped request stays dropped. -/
theorem Dropped.run {ticket : Nat} (hdropped : executor.Dropped ticket)
    (hsane : executor.Sane maxConcurrency) {events : List AsyncEvent}
    (hrun : (system maxConcurrency).run executor events = some next) : next.Dropped ticket := by
  have hkept : next.Sane maxConcurrency ∧ next.Dropped ticket := by
    apply System.run_keeps _ hrun ⟨hsane, hdropped⟩
    rintro state event after ⟨hstate, hclosed, hnone, handle, hready⟩ hstep
    obtain ⟨hsame, hloop⟩ := acknowledged_of_closed hclosed hstate hstep
    refine ⟨hstate.step hstep, ?_, ?_, handle, ?_⟩
    · rw [hloop]
      exact hclosed
    · rw [hsame]
      exact hnone
    · rw [hloop]
      exact hready
  exact hkept.2

/-- A cancellation asks the loop after it was told to stop. -/
def droppingEvents : List AsyncEvent :=
  [.submit (extracting key) extractContext none, .proceed 0, .turn none, .turn none,
    .cancel (handleFor key extractContext.attemptId), .shutdown true,
    .settle (handleFor key extractContext.attemptId) (.returned extracted), .turn none,
    .turn none, .turn none, .turn none, .proceed 1, .proceed 1, .proceed 1, .turn none,
    .turn none, .proceed 0, .turn none]

theorem droppingEvents_run : ((system 1).run (new 1) droppingEvents).isSome = true := by
  decide +kernel

def droppingExecutor : AsyncExecutor :=
  ((system 1).run (new 1) droppingEvents).get droppingEvents_run

end AsyncExecutor

end PyWorkflowKit.V1.Executors
