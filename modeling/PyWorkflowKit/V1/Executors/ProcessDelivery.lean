import PyWorkflowKit.V1.Executors.Process

/-!
# Delivery by the process executor

Whatever the threads and the child processes do, every attempt that the executor accepts comes
to one completion; a shutdown returns after the completions of the attempts that it found
active.
-/

namespace PyWorkflowKit.V1.Executors

open PyWorkflowKit.Core PyWorkflowKit.Domain

/-- Whether the critical section of the watcher is still to come. -/
def Watcher.opened : Watcher → Bool
  | .receiving => true
  | .joining _ => true
  | _ => false

def Watcher.hasEnded : Watcher → Bool
  | .ended => true
  | _ => false

def Watcher.completion? : Watcher → Option AttemptCompletion
  | .joining completion => some completion
  | .putting completion => some completion
  | _ => none

/-- What a watcher tells about its attempt. -/
def watching : Progress ChildProcess where
  handle := ChildProcess.handle
  opened child := child.watcher.opened
  delivered child := child.watcher.hasEnded
  completion? child := child.watcher.completion?

/-- The steps of the child processes and of their watchers. -/
def ProcessEvent.isWork : ProcessEvent → Bool
  | .send _ _ _ => true
  | .close _ => true
  | .exit _ => true
  | .receive _ none _ => true
  | .join _ => true
  | .put _ => true
  | _ => false

/-- What a pending shutdown still waits for. -/
structure PendingShutdown.Fits (call : PendingShutdown) (books : Books) : Prop where
  shutdown : books.shutdown = true
  known : call.active ⊆ books.handles.rows
  waits : ∀ handle ∈ call.active, handle ∈ call.watchers ∨ handle ∈ books.delivered

namespace ProcessExecutor

/-- What every run of the executor keeps. -/
structure Sane (maxWorkers : Nat) (executor : ProcessExecutor) : Prop where
  agrees : executor.books.Agrees watching key executor.children.rows
  exited : ∀ child ∈ executor.children.rows, child.watcher.opened = false →
    child.isAlive = false
  capacity : executor.maxWorkers = maxWorkers
  bounded : executor.books.activeHandles.rows.length ≤ maxWorkers
  shutdowns : ∀ call ∈ executor.shutdowns, call.Fits executor.books

variable {maxWorkers : Nat} {executor next : ProcessExecutor}

namespace Sane

theorem answer (hsane : executor.Sane maxWorkers) (reply : Answer) :
    (executor.answer reply).Sane maxWorkers :=
  ⟨hsane.agrees, hsane.exited, hsane.capacity, hsane.bounded, hsane.shutdowns⟩

/-- The child process of an accepted attempt. -/
theorem find? (hsane : executor.Sane maxWorkers) {handle : ExecutionHandle}
    (hhandle : handle ∈ executor.books.handles.rows) :
    ∃ child ∈ executor.children.rows, child.handle = handle ∧
      executor.children.find? handle.handleId = some child := by
  obtain ⟨child, hchild, rfl⟩ := hsane.agrees.exists_row hhandle
  exact ⟨child, hchild, rfl, executor.children.find?_of_mem hchild⟩

/-- One child process or its watcher goes on, and the books differ at most about its attempt. -/
theorem moved (hsane : executor.Sane maxWorkers) {old : ChildProcess}
    (hold : old ∈ executor.children.rows) (child : ChildProcess)
    (hhandle : child.handle = old.handle) (books : Books) (hshutdown : books.shutdown = executor.books.shutdown)
    (hapart : Books.Apart executor.books books child.handle)
    (hfits : books.Fits watching child)
    (hexited : child.watcher.opened = false → child.isAlive = false)
    (hkept : executor.books.delivered ⊆ books.delivered) :
    Sane maxWorkers { executor.setChild child with books := books } := by
  have hid : old.handleId = child.handleId :=
    congrArg ExecutionHandle.handleId hhandle.symm
  constructor
  · apply hsane.agrees.moved child _ _ _ hapart hfits
    · have hmem : old.handle ∈ executor.books.handles.rows := hsane.agrees.mem_handles hold
      rw [← hhandle] at hmem
      exact hmem
    · exact executor.children.map_rows_set ChildProcess.handle hold hid hhandle
    · intro other hother
      exact (Table.mem_set _ _ _).mp hother
  · intro other hother hclosed
    rcases (Table.mem_set _ _ _).mp hother with rfl | ⟨hmem, -⟩
    · exact hexited hclosed
    · exact hsane.exited other hmem hclosed
  · exact hsane.capacity
  · have hlength : books.activeHandles.rows.length ≤
        executor.books.activeHandles.rows.length := by
      apply List.Subperm.length_le
      exact List.subperm_of_subset books.activeHandles.nodup.of_map hapart.kept
    exact Nat.le_trans hlength hsane.bounded
  · intro call hcall
    have hwaits := hsane.shutdowns call hcall
    constructor
    · rw [hshutdown]
      exact hwaits.shutdown
    · rw [hapart.handles]
      exact hwaits.known
    · exact fun handle hactive =>
        (hwaits.waits handle hactive).imp_right fun hdelivered => hkept hdelivered

/-- A child process goes on beside its watcher. -/
theorem setChild (hsane : executor.Sane maxWorkers) {old child : ChildProcess}
    (hold : old ∈ executor.children.rows) (hhandle : child.handle = old.handle)
    (hwatcher : child.watcher = old.watcher)
    (halive : child.isAlive = true → old.isAlive = true) :
    (executor.setChild child).Sane maxWorkers := by
  apply hsane.moved hold child hhandle executor.books rfl (Books.Apart.refl _ _) _ _
    (List.Subset.refl _)
  · have hfits := hsane.agrees.fits old hold
    apply hfits.onward child hhandle
    · exact congrArg Watcher.opened hwatcher
    · exact congrArg Watcher.hasEnded hwatcher
    · intro completion hcompletion
      apply hfits.completion completion
      change completion ∈ old.watcher.completion?
      rw [← hwatcher]
      exact hcompletion
  · intro hclosed
    rw [hwatcher] at hclosed
    apply Bool.eq_false_of_not_eq_true
    intro hliving
    rw [hsane.exited old hold hclosed] at halive
    exact Bool.noConfusion (halive hliving)

theorem terminateProcess (hsane : executor.Sane maxWorkers) (handle : ExecutionHandle) :
    (executor.terminateProcess handle).Sane maxWorkers := by
  rw [ProcessExecutor.terminateProcess]
  split
  · next child hfound =>
    exact hsane.setChild (Table.mem_of_find? hfound) rfl rfl fun halive => nomatch halive
  · exact hsane

end Sane

theorem books_terminateProcess (executor : ProcessExecutor) (handle : ExecutionHandle) :
    (executor.terminateProcess handle).books = executor.books ∧
      (executor.terminateProcess handle).shutdowns = executor.shutdowns := by
  rw [terminateProcess]
  split
  · exact ⟨rfl, rfl⟩
  · exact ⟨rfl, rfl⟩

theorem Sane.terminateAll (handles : List ExecutionHandle) (hsane : executor.Sane maxWorkers) :
    (handles.foldl (fun executor handle => executor.terminateProcess handle) executor).Sane
        maxWorkers ∧
      (handles.foldl (fun executor handle => executor.terminateProcess handle) executor).books =
        executor.books := by
  induction handles generalizing executor with
  | nil => exact ⟨hsane, rfl⟩
  | cons handle rest ih =>
      obtain ⟨hkept, hbooks⟩ := ih (hsane.terminateProcess handle)
      exact ⟨hkept, hbooks.trans (executor.books_terminateProcess handle).1⟩

namespace Sane

theorem submit (hsane : executor.Sane maxWorkers) (context : RunContext)
    (unfit : Option ExecutorError) : (executor.submit context unfit).Sane maxWorkers := by
  cases unfit with
  | some error => exact hsane.answer _
  | none =>
      rw [ProcessExecutor.submit]
      split
      · exact hsane.answer _
      next hshutdown =>
      split
      · exact hsane.answer _
      next hnew =>
      split
      · exact hsane.answer _
      next hroom =>
      have hopen := Bool.eq_false_of_not_eq_true hshutdown
      have hfresh := hsane.agrees.fresh hnew
      have habsent : executor.children.find? (ChildProcess.handleId
          ⟨handleFor key context.attemptId, .working, none, .receiving⟩) = none :=
        (executor.children.find?_eq_none_iff _).mpr
          fun child hchild => hfresh _ (hsane.agrees.mem_handles hchild)
      have hrows := executor.children.rows_set_of_absent habsent
      have hactive := executor.books.activeHandles.rows_set_of_absent
        ((executor.books.activeHandles.find?_eq_none_iff _).mpr
          fun other hother => hfresh other (hsane.agrees.active hother))
      apply Sane.answer
      constructor
      · simp only [hrows]
        exact hsane.agrees.enter hnew rfl rfl rfl rfl
      · intro child hchild hclosed
        simp only [hrows] at hchild
        rcases List.mem_append.mp hchild with hold | hlast
        · exact hsane.exited child hold hclosed
        · rw [List.mem_singleton.mp hlast] at hclosed
          cases hclosed
      · exact hsane.capacity
      · have hlimit := hsane.capacity
        simp only [Books.enter, hactive, List.length_append, List.length_singleton]
        omega
      · intro call hcall
        have hstarted := (hsane.shutdowns call hcall).shutdown
        rw [hopen] at hstarted
        cases hstarted

theorem send (hsane : executor.Sane maxWorkers) {handle : ExecutionHandle} {settled : Settled}
    {unpicklable : Option Raised} (hsend : executor.send handle settled unpicklable = some next) :
    next.Sane maxWorkers := by
  rw [ProcessExecutor.send] at hsend
  split at hsend
  · next hfound =>
    cases hsend
    exact hsane.setChild (Table.mem_of_find? hfound) rfl rfl fun halive => halive
  · cases hsend

theorem close (hsane : executor.Sane maxWorkers) {handle : ExecutionHandle}
    (hclose : executor.close handle = some next) : next.Sane maxWorkers := by
  rw [ProcessExecutor.close] at hclose
  split at hclose
  · next hfound =>
    cases hclose
    exact hsane.setChild (Table.mem_of_find? hfound) rfl rfl fun _ => rfl
  · cases hclose

theorem exit (hsane : executor.Sane maxWorkers) {handle : ExecutionHandle}
    (hexit : executor.exit handle = some next) : next.Sane maxWorkers := by
  rw [ProcessExecutor.exit] at hexit
  split at hexit
  · cases hexit
  · next hfound =>
    cases hexit
    exact hsane.setChild (Table.mem_of_find? hfound) rfl rfl fun halive => nomatch halive
  · cases hexit

end Sane

theorem handle_received {handle : ExecutionHandle} {state : ChildState}
    {sent : Option WorkerMessage} {failure : Option Raised} {exitCode : String}
    {completion : AttemptCompletion}
    (hreceived : received handle state sent failure exitCode = some completion) :
    completion.handle = handle := by
  simp only [received] at hreceived
  split at hreceived
  · cases hreceived
    rfl
  · next message =>
    cases hreceived
    cases message with
    | result => rfl
    | error kind => cases kind <;> rfl
  · cases hreceived
  · cases hreceived
    rfl

namespace Sane

theorem receive (hsane : executor.Sane maxWorkers) {handle : ExecutionHandle}
    {failure : Option Raised} {exitCode : String}
    (hreceive : executor.receive handle failure exitCode = some next) :
    next.Sane maxWorkers := by
  rw [ProcessExecutor.receive] at hreceive
  split at hreceive
  · next found state sent hfound =>
    obtain ⟨completion, hcompletion, rfl⟩ := Option.map_eq_some_iff.mp hreceive
    have hold := Table.mem_of_find? hfound
    have hfits := hsane.agrees.fits _ hold
    apply hsane.moved hold ⟨found, state, sent, .joining completion⟩ rfl executor.books rfl
      (Books.Apart.refl _ _) _ _ (List.Subset.refl _)
    · refine hfits.onward _ rfl rfl rfl ?_
      intro other hother
      cases hother
      exact handle_received hcompletion
    · exact fun hclosed => nomatch hclosed
  · cases hreceive

theorem join (hsane : executor.Sane maxWorkers) {handle : ExecutionHandle}
    (hjoin : executor.join handle = some next) : next.Sane maxWorkers := by
  rw [ProcessExecutor.join] at hjoin
  split at hjoin
  · next found sent completion hfound =>
    cases hjoin
    have hold := Table.mem_of_find? hfound
    have hfits := hsane.agrees.fits _ hold
    apply hsane.moved hold ⟨found, .exited, sent, .putting completion⟩ rfl
      (executor.books.complete found) rfl (Books.Apart.complete _ _) _ _ (List.Subset.refl _)
    · exact hfits.closed _ rfl rfl rfl hfits.completion
    · exact fun _ => rfl
  · cases hjoin

theorem put (hsane : executor.Sane maxWorkers) {handle : ExecutionHandle}
    (hput : executor.put handle = some next) : next.Sane maxWorkers := by
  rw [ProcessExecutor.put] at hput
  split at hput
  · next found state sent completion hfound =>
    cases hput
    have hold := Table.mem_of_find? hfound
    have hfits := hsane.agrees.fits _ hold
    have hhandle := hfits.completion completion rfl
    apply hsane.moved hold ⟨found, state, sent, .ended⟩ rfl (executor.books.put completion) rfl
      (Books.Apart.put _ hhandle)
    · exact hfits.put ⟨found, state, sent, .ended⟩ rfl rfl rfl rfl rfl hhandle
    · exact fun _ => hsane.exited ⟨found, state, sent, .putting completion⟩ hold rfl
    · rw [Books.delivered_put]
      exact List.subset_append_left _ _
  · cases hput

theorem terminate (hsane : executor.Sane maxWorkers) (handle : ExecutionHandle) :
    (executor.terminate handle).Sane maxWorkers := by
  rw [ProcessExecutor.terminate]
  split
  · exact hsane.answer _
  · exact hsane.answer _
  · split
    · exact (hsane.terminateProcess _).answer _
    · exact hsane.answer _

theorem beginShutdown (hsane : executor.Sane maxWorkers) (wait : Bool) :
    (executor.beginShutdown wait).Sane maxWorkers := by
  have hstopped : ∀ stopped : ProcessExecutor, stopped.Sane maxWorkers →
      stopped.books = executor.books → Sane maxWorkers { stopped with
        books := { stopped.books with shutdown := true }
        shutdowns := stopped.shutdowns ++ [⟨executor.books.activeHandles.rows,
          executor.books.activeHandles.rows, executor.books.activeHandles.rows⟩] } := by
    intro stopped hstopped hbooks
    refine ⟨hstopped.agrees.marked true, hstopped.exited, hstopped.capacity,
      hstopped.bounded, ?_⟩
    intro call hcall
    rcases List.mem_append.mp hcall with hold | hlast
    · have hfits := hstopped.shutdowns call hold
      exact ⟨rfl, hfits.known, hfits.waits⟩
    · rw [List.mem_singleton.mp hlast]
      refine ⟨rfl, ?_, fun handle hactive => Or.inl hactive⟩
      have hactive := hstopped.agrees.active
      rw [hbooks] at hactive
      exact hbooks ▸ hactive
  rw [ProcessExecutor.beginShutdown]
  cases wait with
  | true => exact hstopped executor hsane rfl
  | false =>
      obtain ⟨hkept, hbooks⟩ := hsane.terminateAll executor.books.activeHandles.rows
      exact hstopped _ hkept hbooks

/-- A pending shutdown goes on, or is gone. -/
theorem shutdownsKept (hsane : executor.Sane maxWorkers) {index : Nat}
    {others : List PendingShutdown} (hothers : ∀ call ∈ others, call.Fits executor.books) :
    Sane maxWorkers { executor with
      shutdowns := splice executor.shutdowns index others } := by
  refine ⟨hsane.agrees, hsane.exited, hsane.capacity, hsane.bounded, ?_⟩
  intro call hcall
  rcases mem_splice hcall with hold | hnew
  · exact hsane.shutdowns call hold
  · exact hothers call hnew

theorem proceed (hsane : executor.Sane maxWorkers) {index : Nat} {call : PendingShutdown}
    (hcall : executor.shutdowns[index]? = some call)
    (hproceed : executor.proceed index call = some next) : next.Sane maxWorkers := by
  have hfits := hsane.shutdowns call (List.mem_of_getElem? hcall)
  obtain ⟨active, processes, watchers⟩ := call
  cases processes with
  | cons handle others =>
      rw [ProcessExecutor.proceed] at hproceed
      split at hproceed
      · cases hproceed
        apply hsane.shutdownsKept
        intro other hother
        rw [List.mem_singleton.mp hother]
        exact ⟨hfits.shutdown, hfits.known, hfits.waits⟩
      · cases hproceed
  | nil =>
      cases watchers with
      | cons handle others =>
          rw [ProcessExecutor.proceed] at hproceed
          split at hproceed
          · next hended =>
            cases hproceed
            apply hsane.shutdownsKept
            intro other hother
            rw [List.mem_singleton.mp hother]
            refine ⟨hfits.shutdown, hfits.known, ?_⟩
            intro waited hactive
            rcases hfits.waits waited hactive with hwatched | hdelivered
            · rcases List.mem_cons.mp hwatched with rfl | hlater
              · obtain ⟨child, hchild, hhandle, hfound⟩ := hsane.find? (hfits.known hactive)
                rw [hfound] at hended
                refine Or.inr ?_
                rw [← hhandle]
                apply (hsane.agrees.delivered_iff hchild).mpr
                have hunwatched : child.watched = false := by simpa using hended
                rw [ChildProcess.watched] at hunwatched
                cases hwatcher : child.watcher with
                | ended => simp only [watching, hwatcher, Watcher.hasEnded]
                | _ =>
                    rw [hwatcher] at hunwatched
                    cases hunwatched
              · exact Or.inl hlater
            · exact Or.inr hdelivered
          · cases hproceed
      | nil =>
          cases hproceed
          apply Sane.answer
          apply hsane.shutdownsKept
          exact fun other hother => absurd hother (List.not_mem_nil)

theorem get (hsane : executor.Sane maxWorkers) {books : Books}
    (hget : executor.books.get = some books) :
    Sane maxWorkers { executor with books := books } := by
  obtain ⟨hsame, hnext⟩ := executor.books.published_get hget
  have hagrees := hsane.agrees.get hget
  have hdelivered : books.delivered = executor.books.delivered := congrArg (List.map _) hsame
  refine ⟨hagrees, hsane.exited, hsane.capacity, ?_, ?_⟩
  · rw [hnext]
    exact hsane.bounded
  · intro call hcall
    have hfits := hsane.shutdowns call hcall
    refine ⟨?_, ?_, ?_⟩
    · rw [hnext]
      exact hfits.shutdown
    · rw [hnext]
      exact hfits.known
    · simp only [hdelivered]
      exact hfits.waits

/-- Whatever happens next keeps the invariant. -/
theorem step (hsane : executor.Sane maxWorkers) {event : ProcessEvent}
    (hstep : executor.step event = some next) : next.Sane maxWorkers := by
  cases event with
  | submit context unfit =>
      cases hstep
      exact hsane.submit context unfit
  | send handle settled unpicklable => exact hsane.send hstep
  | close handle => exact hsane.close hstep
  | exit handle => exact hsane.exit hstep
  | receive handle failure exitCode => exact hsane.receive hstep
  | join handle => exact hsane.join hstep
  | put handle => exact hsane.put hstep
  | terminate handle =>
      cases hstep
      exact hsane.terminate handle
  | shutdown wait =>
      cases hstep
      exact hsane.beginShutdown wait
  | proceed index =>
      obtain ⟨call, hcall, hproceed⟩ := Option.bind_eq_some_iff.mp hstep
      exact hsane.proceed hcall hproceed
  | get =>
      obtain ⟨books, hget, rfl⟩ := Option.map_eq_some_iff.mp hstep
      exact hsane.get hget

theorem start (maxWorkers : Nat) : (ProcessExecutor.new maxWorkers).Sane maxWorkers := by
  refine ⟨⟨rfl, rfl, ?_, List.nil_subset _, ?_, List.nil_subset _⟩, ?_, rfl, Nat.zero_le _, ?_⟩
  · exact fun child hchild => absurd hchild (List.not_mem_nil)
  · exact fun handleId hended => absurd hended (List.not_mem_nil)
  · exact fun child hchild => absurd hchild (List.not_mem_nil)
  · exact fun call hcall => absurd hcall (List.not_mem_nil)

theorem of_reaches (hreaches : (ProcessExecutor.system maxWorkers).Reaches executor) :
    executor.Sane maxWorkers := by
  apply System.Reaches.invariant (start maxWorkers) _ hreaches
  exact fun state event next hsane hstep => hsane.step hstep

end Sane

/-- What an event comes to at the desk. -/
def shown (executor : ProcessExecutor) :
    ProcessEvent → Option (Deal ExecutionHandle (Except ExecutorError TaskResult))
  | .submit context unfit =>
      if unfit = none ∧ executor.books.shutdown = false ∧
          context.attemptId ∉ executor.books.submittedAttemptIds ∧
          executor.books.activeHandles.rows.length < executor.maxWorkers then
        some (.accept (handleFor key context.attemptId))
      else none
  | .put handle =>
      (executor.children.find? handle.handleId).bind fun child =>
        match child.watcher with
        | .putting completion => some (.deliver completion.handle completion.outcome)
        | _ => none
  | .shutdown _ => some .close
  | _ => none

theorem Sane.shows_submit (hsane : executor.Sane maxWorkers) (context : RunContext)
    (unfit : Option ExecutorError) :
    (executor.shown (.submit context unfit) = none ∧
        (executor.submit context unfit).books.desk = executor.books.desk) ∨
      ∃ deal, executor.shown (.submit context unfit) = some deal ∧
        executor.books.desk.move deal = some (executor.submit context unfit).books.desk := by
  cases unfit with
  | some error =>
      refine Or.inl ⟨?_, rfl⟩
      rw [shown, if_neg]
      exact fun hfits => Option.some_ne_none _ hfits.1
  | none =>
      rw [ProcessExecutor.submit]
      split
      · next hshutdown =>
        refine Or.inl ⟨if_neg fun hfits => ?_, rfl⟩
        rw [hshutdown] at hfits
        exact Bool.noConfusion hfits.2.1
      · next hopen =>
        split
        · next hagain => exact Or.inl ⟨if_neg fun hfits => hfits.2.2.1 hagain, rfl⟩
        · next hnew =>
          split
          · next hfull =>
            exact Or.inl ⟨if_neg fun hfits => absurd hfits.2.2.2 (Nat.not_lt.mpr hfull), rfl⟩
          · next hroom =>
            have hfalse := Bool.eq_false_of_not_eq_true hopen
            exact Or.inr ⟨_, if_pos ⟨rfl, hfalse, hnew, Nat.lt_of_not_le hroom⟩,
              hsane.agrees.move_enter hnew hfalse⟩

/-- Every step is a step of the desk, or changes nothing there. -/
theorem Sane.shows (hsane : executor.Sane maxWorkers) {event : ProcessEvent}
    (hstep : executor.step event = some next) :
    (executor.shown event = none ∧ next.books.desk = executor.books.desk) ∨
      ∃ deal, executor.shown event = some deal ∧
        executor.books.desk.move deal = some next.books.desk := by
  cases event with
  | submit context unfit =>
      cases hstep
      exact hsane.shows_submit context unfit
  | send handle settled unpicklable =>
      have hsend : executor.send handle settled unpicklable = some next := hstep
      rw [ProcessExecutor.send] at hsend
      split at hsend
      · cases hsend
        exact Or.inl ⟨rfl, rfl⟩
      · cases hsend
  | close handle =>
      have hclose : executor.close handle = some next := hstep
      rw [ProcessExecutor.close] at hclose
      split at hclose
      · cases hclose
        exact Or.inl ⟨rfl, rfl⟩
      · cases hclose
  | exit handle =>
      have hexit : executor.exit handle = some next := hstep
      rw [ProcessExecutor.exit] at hexit
      split at hexit
      · cases hexit
      · cases hexit
        exact Or.inl ⟨rfl, rfl⟩
      · cases hexit
  | receive handle failure exitCode =>
      have hreceive : executor.receive handle failure exitCode = some next := hstep
      rw [ProcessExecutor.receive] at hreceive
      split at hreceive
      · obtain ⟨completion, -, rfl⟩ := Option.map_eq_some_iff.mp hreceive
        exact Or.inl ⟨rfl, rfl⟩
      · cases hreceive
  | join handle =>
      have hjoin : executor.join handle = some next := hstep
      rw [ProcessExecutor.join] at hjoin
      split at hjoin
      · cases hjoin
        exact Or.inl ⟨rfl, rfl⟩
      · cases hjoin
  | put handle =>
      have hput : executor.put handle = some next := hstep
      rw [ProcessExecutor.put] at hput
      split at hput
      · next found state sent completion hfound =>
        cases hput
        have hmem := Table.mem_of_find? hfound
        have hhandle := (hsane.agrees.fits _ hmem).completion completion rfl
        refine Or.inr ⟨.deliver completion.handle completion.outcome, ?_, ?_⟩
        · rw [shown, hfound]
          rfl
        · exact hsane.agrees.move_put hmem rfl hhandle
      · cases hput
  | terminate handle =>
      cases hstep
      refine Or.inl ⟨rfl, ?_⟩
      rw [ProcessExecutor.terminate]
      split
      · rfl
      · rfl
      · split
        · exact congrArg Books.desk (executor.books_terminateProcess _).1
        · rfl
  | shutdown wait =>
      cases hstep
      refine Or.inr ⟨.close, rfl, ?_⟩
      cases wait with
      | true => rfl
      | false =>
          obtain ⟨-, hbooks⟩ := hsane.terminateAll executor.books.activeHandles.rows
          simp only [ProcessExecutor.beginShutdown, Bool.false_eq_true, if_false, hbooks]
          rfl
  | proceed index =>
      obtain ⟨call, hcall, hproceed⟩ := Option.bind_eq_some_iff.mp hstep
      refine Or.inl ⟨rfl, ?_⟩
      obtain ⟨active, processes, watchers⟩ := call
      cases processes with
      | cons handle others =>
          rw [ProcessExecutor.proceed] at hproceed
          split at hproceed
          · cases hproceed
            rfl
          · cases hproceed
      | nil =>
          cases watchers with
          | cons handle others =>
              rw [ProcessExecutor.proceed] at hproceed
              split at hproceed
              · cases hproceed
                rfl
              · cases hproceed
          | nil =>
              cases hproceed
              rfl
  | get =>
      obtain ⟨books, hget, rfl⟩ := Option.map_eq_some_iff.mp hstep
      exact Or.inl ⟨rfl, executor.books.desk_get hget⟩

/-- The executor is a desk that accepts attempts and delivers their completions. -/
theorem refines_desk (maxWorkers : Nat) :
    Refines (system maxWorkers) (Desk.system _ _) (Sane maxWorkers)
      (fun executor => executor.books.desk) shown := by
  constructor
  · rfl
  · intro executor event next hsane hstep deal hshown
    rcases Sane.shows hsane hstep with ⟨hsilent, -⟩ | ⟨other, hother, hmove⟩
    · rw [hsilent] at hshown
      cases hshown
    · rw [hother] at hshown
      cases hshown
      exact hmove
  · intro executor event next hsane hstep hsilent
    rcases Sane.shows hsane hstep with ⟨-, hdesk⟩ | ⟨other, hother, -⟩
    · exact hdesk
    · rw [hother] at hsilent
      cases hsilent

/-- The children that are alive. -/
def living (executor : ProcessExecutor) : List ChildProcess :=
  executor.children.rows.filter ChildProcess.isAlive

/-- The process of every attempt that is not active has ended. -/
theorem Sane.living_le (hsane : executor.Sane maxWorkers) :
    executor.living.length ≤ maxWorkers := by
  have hsubset : executor.living.map ChildProcess.handle ⊆ executor.books.activeHandles.rows := by
    intro handle hmem
    obtain ⟨child, hchild, rfl⟩ := List.mem_map.mp hmem
    obtain ⟨hrow, halive⟩ := List.mem_filter.mp hchild
    apply (hsane.agrees.fits child hrow).active.mpr
    apply Bool.eq_true_of_not_eq_false
    intro hclosed
    rw [hsane.exited child hrow hclosed] at halive
    cases halive
  have hnodup : (executor.living.map ChildProcess.handle).Nodup := by
    have hknown : executor.children.rows.map ChildProcess.handle =
        executor.books.handles.rows := hsane.agrees.known
    apply List.Nodup.sublist (List.filter_sublist.map _)
    rw [hknown]
    exact executor.books.handles.nodup.of_map
  have hlength := (List.subperm_of_subset hnodup hsubset).length_le
  rw [List.length_map] at hlength
  exact Nat.le_trans hlength hsane.bounded

/-- `wait` knows every accepted attempt, and tells whether its process has ended. -/
theorem Sane.wait (hsane : executor.Sane maxWorkers) {child : ChildProcess}
    (hchild : child ∈ executor.children.rows) :
    executor.wait child.handle = .ok (!child.isAlive) := by
  have hfits := hsane.agrees.fits child hchild
  have hknown : executor.books.handles.find? child.handle.handleId = some child.handle :=
    executor.books.handles.find?_of_mem (hsane.agrees.mem_handles hchild)
  have hfound : executor.children.find? child.handle.handleId = some child :=
    executor.children.find?_of_mem hchild
  rw [ProcessExecutor.wait, processForWait, if_neg (not_not.mpr hknown)]
  split
  · next hended =>
    rw [hsane.exited child hchild (hfits.completed.mp hended)]
    rfl
  · next hopen =>
    have hactive : child.handle ∈ executor.books.activeHandles.rows := by
      apply hfits.active.mpr
      apply Bool.eq_true_of_not_eq_false
      exact fun hclosed => hopen (hfits.completed.mpr hclosed)
    rw [if_pos ((executor.books.activeHandles.contains_iff _).mpr ⟨_, hactive, rfl⟩), hfound]
    rfl

/-- While an attempt has no completion, its child process or its watcher can go on. -/
theorem works {child : ChildProcess} (hchild : child ∈ executor.children.rows)
    (hwaits : child.watcher ≠ .ended) :
    ∃ event : ProcessEvent, event.isWork = true ∧ (executor.step event).isSome = true := by
  obtain ⟨handle, state, sent, watcher⟩ := child
  have hfound : executor.children.find? handle.handleId = some ⟨handle, state, sent, watcher⟩ :=
    executor.children.find?_of_mem hchild
  -- A process that holds its pipe open keeps its watcher waiting, and can close it.
  have hworking : state = .working →
      ∃ event : ProcessEvent, event.isWork = true ∧ (executor.step event).isSome = true := by
    rintro rfl
    exact ⟨.close handle, rfl, by simp only [step, close, hfound, Option.isSome_some]⟩
  have hreceives : watcher = .receiving →
      (received handle state sent none "").isSome = true →
        (executor.step (.receive handle none "")).isSome = true := by
    rintro rfl hsome
    simp only [step, receive, hfound, Option.isSome_map, hsome]
  cases watcher with
  | receiving =>
      cases state with
      | working => exact hworking rfl
      | closed => cases sent <;> exact ⟨.receive handle none "", rfl, hreceives rfl rfl⟩
      | exited => cases sent <;> exact ⟨.receive handle none "", rfl, hreceives rfl rfl⟩
  | joining completion =>
      cases state with
      | working => exact hworking rfl
      | closed => exact ⟨.exit handle, rfl, by simp only [step, exit, hfound, Option.isSome_some]⟩
      | exited => exact ⟨.join handle, rfl, by simp only [step, join, hfound, Option.isSome_some]⟩
  | putting completion =>
      exact ⟨.put handle, rfl, by simp only [step, put, hfound, Option.isSome_some]⟩
  | ended => exact absurd rfl hwaits

/-- An accepted attempt is active, or has its completion, or its watcher is about to put it. -/
theorem Sane.awaited (hsane : executor.Sane maxWorkers) {child : ChildProcess}
    (hchild : child ∈ executor.children.rows) :
    child.handle ∈ executor.books.activeHandles.rows ∨
      child.handle ∈ executor.books.delivered ∨
        ∃ completion, child.watcher = .putting completion := by
  have hactive := (hsane.agrees.fits child hchild).active
  have hdelivered := hsane.agrees.delivered_iff hchild
  simp only [watching] at hactive hdelivered
  cases hwatcher : child.watcher with
  | receiving => exact Or.inl (hactive.mpr (by rw [hwatcher]; rfl))
  | joining completion => exact Or.inl (hactive.mpr (by rw [hwatcher]; rfl))
  | putting completion => exact Or.inr (Or.inr ⟨completion, rfl⟩)
  | ended => exact Or.inr (Or.inl (hdelivered.mpr (by rw [hwatcher]; rfl)))

/-- An attempt whose watcher is about to put its completion while a shutdown returns. -/
def lateEvents : List ProcessEvent :=
  let handle := handleFor key extractContext.attemptId
  [.submit extractContext none, .send handle (.returned extracted) none, .close handle,
    .exit handle, .receive handle none "0", .join handle, .shutdown true, .proceed 0]

theorem lateEvents_run : ((system 1).run (new 1) lateEvents).isSome = true := by
  decide +kernel

def lateExecutor : ProcessExecutor :=
  ((system 1).run (new 1) lateEvents).get lateEvents_run

end ProcessExecutor

end PyWorkflowKit.V1.Executors
