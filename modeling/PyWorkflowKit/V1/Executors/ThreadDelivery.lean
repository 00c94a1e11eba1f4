import PyWorkflowKit.V1.Executors.Thread

/-!
# Delivery by the thread executor

Whatever the threads do, every attempt that the executor accepts comes to one completion, and
a shutdown that waits returns only after all of them.
-/

namespace PyWorkflowKit.V1.Executors

open PyWorkflowKit.Core PyWorkflowKit.Domain

/-- Whether the critical section of `_publish_completion` is still to come. -/
def Stage.opened : Stage → Bool
  | .putting _ => false
  | .delivered => false
  | _ => true

/-- Whether the callback of the future may still have to be added. -/
def Stage.early : Stage → Bool
  | .pending => true
  | .running => true
  | .finished _ => true
  | _ => false

def Stage.hasEnded : Stage → Bool
  | .delivered => true
  | _ => false

def Stage.completion? : Stage → Option AttemptCompletion
  | .finished completion => some completion
  | .publishing completion => some completion
  | .putting completion => some completion
  | _ => none

/-- What a future tells about its attempt. -/
def pooling : Progress PoolFuture where
  handle := PoolFuture.handle
  opened future := future.stage.opened
  delivered future := future.stage.hasEnded
  completion? future := future.stage.completion?

/-- The steps of the submission that holds the lock and of the workers. -/
def ThreadEvent.isWork : ThreadEvent → Bool
  | .register => true
  | .take => true
  | .finish _ _ => true
  | .publish _ => true
  | .put _ => true
  | _ => false

/-- A future and the submission that holds the lock: it is done without its callback only
while that submission is its own. -/
structure Placed (registering : Option ExecutionHandle) (future : PoolFuture) : Prop where
  held : registering = some future.handle → future.stage.early = true
  finished : future.stage.early = true → future.stage.done = true →
    registering = some future.handle

/-- While nothing holds the lock, a future is not done without its callback. -/
theorem Placed.free {future : PoolFuture}
    (hplaced : future.stage.early = true → future.stage.done = false) : Placed none future := by
  constructor
  · intro hheld
    cases hheld
  · intro hearly hdone
    rw [hplaced hearly] at hdone
    cases hdone

namespace ThreadExecutor

/-- What every run of the executor keeps. -/
structure Sane (maxWorkers : Nat) (executor : ThreadExecutor) : Prop where
  agrees : executor.books.Agrees pooling key executor.pool.rows
  placed : ∀ future ∈ executor.pool.rows, Placed executor.registering future
  capacity : executor.maxWorkers = maxWorkers
  workers : executor.busyWorkers ≤ maxWorkers
  held : ∀ handle ∈ executor.registering,
    executor.books.shutdown = false ∧ handle ∈ executor.books.handles.rows
  ending : 0 < executor.joining → executor.books.shutdown = true

variable {maxWorkers : Nat} {executor next : ThreadExecutor}

/-- The number of busy workers when an attempt moves on. -/
theorem busyWorkers_setStage {old : PoolFuture} (hold : old ∈ executor.pool.rows)
    (stage : Stage) :
    (executor.setStage old.handle stage).busyWorkers + (if old.stage.busy then 1 else 0) =
      executor.busyWorkers + (if stage.busy then 1 else 0) := by
  have hset : (executor.setStage old.handle stage).busyWorkers =
      (executor.pool.rows.filter fun other => other.handleId ≠ old.handleId).countP
        (fun future => future.stage.busy) + if stage.busy then 1 else 0 := by
    rw [busyWorkers, setStage, (executor.pool.perm_set ⟨old.handle, stage⟩).countP_eq,
      List.countP_cons]
    rfl
  rw [hset, busyWorkers, (executor.pool.perm_cons_filter hold).countP_eq, List.countP_cons]
  omega

namespace Sane

/-- What the invariant does not look at. -/
theorem unchanged (hsane : executor.Sane maxWorkers) {joining : Nat}
    (hjoining : 0 < joining → executor.books.shutdown = true) (answers : List Answer) :
    Sane maxWorkers { executor with joining := joining, answers := answers } :=
  ⟨hsane.agrees, hsane.placed, hsane.capacity, hsane.workers, hsane.held, hjoining⟩

theorem answer (hsane : executor.Sane maxWorkers) (reply : Answer) :
    (executor.answer reply).Sane maxWorkers :=
  hsane.unchanged hsane.ending _

/-- The future of an accepted attempt. -/
theorem find? (hsane : executor.Sane maxWorkers) {handle : ExecutionHandle}
    (hhandle : handle ∈ executor.books.handles.rows) :
    ∃ stage, executor.pool.find? handle.handleId = some ⟨handle, stage⟩ := by
  obtain ⟨⟨found, stage⟩, hfuture, rfl⟩ := hsane.agrees.exists_row hhandle
  exact ⟨stage, executor.pool.find?_of_mem hfuture⟩

/-- One attempt moves on, and the books and the lock differ at most about it. -/
theorem moved (hsane : executor.Sane maxWorkers) {handle : ExecutionHandle} {old : Stage}
    (hold : ⟨handle, old⟩ ∈ executor.pool.rows) (stage : Stage) (books : Books)
    (registering : Option ExecutionHandle)
    (hshutdown : books.shutdown = executor.books.shutdown)
    (hapart : Books.Apart executor.books books handle)
    (hfits : books.Fits pooling ⟨handle, stage⟩) (hplaced : Placed registering ⟨handle, stage⟩)
    (hregistering : registering = executor.registering ∨
      registering = none ∧ executor.registering = some handle)
    (hworkers : (executor.setStage handle stage).busyWorkers ≤ maxWorkers) :
    Sane maxWorkers
      { executor.setStage handle stage with books := books, registering := registering } := by
  constructor
  · have hmem : handle ∈ executor.books.handles.rows := hsane.agrees.mem_handles hold
    apply hsane.agrees.moved ⟨handle, stage⟩ hmem _ _ hapart hfits
    · exact executor.pool.map_rows_set PoolFuture.handle hold rfl rfl
    · exact fun other hother => (Table.mem_set _ _ _).mp hother
  · intro other hother
    rcases (Table.mem_set _ _ _).mp hother with rfl | ⟨hmem, hne⟩
    · exact hplaced
    · have hbefore := hsane.placed other hmem
      rcases hregistering with rfl | ⟨rfl, hheld⟩
      · exact hbefore
      · apply Placed.free
        intro hearly
        apply Bool.eq_false_of_not_eq_true
        intro hdone
        have hother := hbefore.finished hearly hdone
        rw [hheld] at hother
        cases hother
        exact absurd rfl hne
  · exact hsane.capacity
  · exact hworkers
  · intro waiting hwaiting
    rw [hshutdown, hapart.handles]
    rcases hregistering with rfl | ⟨rfl, -⟩
    · exact hsane.held waiting hwaiting
    · cases hwaiting
  · intro hjoining
    rw [hshutdown]
    exact hsane.ending hjoining

theorem start (maxWorkers : Nat) : (new maxWorkers).Sane maxWorkers := by
  refine ⟨⟨rfl, rfl, ?_, List.nil_subset _, ?_, List.nil_subset _⟩, ?_, rfl, Nat.zero_le _, ?_, ?_⟩
  · exact fun future hfuture => absurd hfuture (List.not_mem_nil)
  · exact fun handleId hended => absurd hended (List.not_mem_nil)
  · exact fun future hfuture => absurd hfuture (List.not_mem_nil)
  · intro handle hheld
    cases hheld
  · exact fun hwaits => absurd hwaits (Nat.lt_irrefl 0)

theorem submit (hsane : executor.Sane maxWorkers) {context : RunContext}
    (hsubmit : executor.submit context = some next) : next.Sane maxWorkers := by
  rw [ThreadExecutor.submit] at hsubmit
  split at hsubmit
  · cases hsubmit
  next hfree =>
  split at hsubmit
  · cases hsubmit
    exact hsane.answer _
  next hshutdown =>
  split at hsubmit
  · cases hsubmit
    exact hsane.answer _
  next hnew =>
  cases hsubmit
  have hnone := Option.not_isSome_iff_eq_none.mp hfree
  have hopen := Bool.eq_false_of_not_eq_true hshutdown
  have hfresh := hsane.agrees.fresh hnew
  have habsent : executor.pool.find?
      (PoolFuture.handleId ⟨handleFor key context.attemptId, .pending⟩) = none :=
    (executor.pool.find?_eq_none_iff _).mpr
      fun future hfuture => hfresh _ (hsane.agrees.mem_handles hfuture)
  have hpool := executor.pool.rows_set_of_absent habsent
  have hhandles := hsane.agrees.handles_enter hnew
  constructor
  · simp only [hpool]
    exact hsane.agrees.enter hnew rfl rfl rfl rfl
  · intro future hfuture
    simp only [hpool] at hfuture
    rcases List.mem_append.mp hfuture with hold | hlast
    · have hbefore := hsane.placed future hold
      constructor
      · intro hheld
        have hsame := congrArg ExecutionHandle.handleId (Option.some.inj hheld)
        exact absurd hsame.symm (hfresh _ (hsane.agrees.mem_handles hold))
      · intro hearly hdone
        have hother := hbefore.finished hearly hdone
        rw [hnone] at hother
        cases hother
    · rw [List.mem_singleton.mp hlast]
      exact ⟨fun _ => rfl, fun _ _ => rfl⟩
  · exact hsane.capacity
  · simp only [busyWorkers, hpool, List.countP_append]
    exact hsane.workers
  · intro handle hheld
    cases hheld
    refine ⟨hopen, ?_⟩
    rw [hhandles]
    exact List.mem_append_right _ (List.mem_singleton_self _)
  · exact hsane.ending

theorem take (hsane : executor.Sane maxWorkers) (htake : executor.take = some next) :
    next.Sane maxWorkers := by
  rw [ThreadExecutor.take] at htake
  split at htake
  · next hidle =>
    obtain ⟨⟨handle, stage⟩, hfound, rfl⟩ := Option.map_eq_some_iff.mp htake
    have hold := List.mem_of_find?_eq_some hfound
    have hstage : stage = .pending := by
      have hpending := List.find?_some hfound
      cases stage <;> first | rfl | cases hpending
    subst hstage
    have hfits := hsane.agrees.fits _ hold
    have hcount := busyWorkers_setStage hold .running
    apply hsane.moved hold .running executor.books executor.registering rfl
      (Books.Apart.refl _ _)
    · exact hfits.onward ⟨handle, .running⟩ rfl rfl rfl hfits.completion
    · exact ⟨fun _ => rfl, fun _ hdone => Bool.noConfusion hdone⟩
    · exact Or.inl rfl
    · have hlimit := hsane.capacity
      simp only [Stage.busy, Bool.false_eq_true, if_false, if_true, Nat.add_zero] at hcount ⊢
      omega
  · cases htake

theorem finish (hsane : executor.Sane maxWorkers) {handle : ExecutionHandle}
    {settled : Settled} (hfinish : executor.finish handle settled = some next) :
    next.Sane maxWorkers := by
  rw [ThreadExecutor.finish] at hfinish
  split at hfinish
  · next wanted found hfound =>
    cases hfinish
    have hold := Table.mem_of_find? hfound
    have hfits := hsane.agrees.fits _ hold
    have hhandle : (completionOf found settled).handle = found := by cases settled <;> rfl
    have hlimit := hsane.workers
    split
    · next hheld =>
      have hcount := busyWorkers_setStage hold (.finished (completionOf found settled))
      apply hsane.moved hold (.finished (completionOf found settled)) executor.books
        executor.registering rfl (Books.Apart.refl _ _)
      · apply hfits.onward ⟨found, .finished (completionOf found settled)⟩ rfl rfl rfl
        intro completion hcompletion
        cases hcompletion
        exact hhandle
      · exact ⟨fun _ => rfl, fun _ _ => hheld⟩
      · exact Or.inl rfl
      · simp only [Stage.busy, Bool.false_eq_true, if_false, if_true, Nat.add_zero] at hcount
        omega
    · next hfree =>
      have hcount := busyWorkers_setStage hold (.publishing (completionOf found settled))
      apply hsane.moved hold (.publishing (completionOf found settled)) executor.books
        executor.registering rfl (Books.Apart.refl _ _)
      · apply hfits.onward ⟨found, .publishing (completionOf found settled)⟩ rfl rfl rfl
        intro completion hcompletion
        cases hcompletion
        exact hhandle
      · exact ⟨fun hheld => absurd hheld hfree, fun hearly => Bool.noConfusion hearly⟩
      · exact Or.inl rfl
      · simp only [Stage.busy, if_true] at hcount
        omega
  · cases hfinish

theorem publish (hsane : executor.Sane maxWorkers) {handle : ExecutionHandle}
    (hpublish : executor.publish handle = some next) : next.Sane maxWorkers := by
  rw [ThreadExecutor.publish] at hpublish
  split at hpublish
  · cases hpublish
  next hfree =>
  split at hpublish
  · next wanted found completion hfound =>
    cases hpublish
    have hold := Table.mem_of_find? hfound
    have hfits := hsane.agrees.fits _ hold
    have hcount := busyWorkers_setStage hold (.putting completion)
    apply hsane.moved hold (.putting completion) (executor.books.complete found)
      executor.registering rfl (Books.Apart.complete _ _)
    · exact hfits.closed ⟨found, .putting completion⟩ rfl rfl rfl hfits.completion
    · refine ⟨fun hheld => ?_, fun hearly => Bool.noConfusion hearly⟩
      exact absurd (Option.isSome_of_eq_some hheld) hfree
    · exact Or.inl rfl
    · have hlimit := hsane.workers
      simp only [Stage.busy, if_true] at hcount
      omega
  · cases hpublish

theorem put (hsane : executor.Sane maxWorkers) {handle : ExecutionHandle}
    (hput : executor.put handle = some next) : next.Sane maxWorkers := by
  rw [ThreadExecutor.put] at hput
  split at hput
  · next wanted found completion hfound =>
    cases hput
    have hold := Table.mem_of_find? hfound
    have hfits := hsane.agrees.fits _ hold
    have hhandle := hfits.completion completion rfl
    have hcount := busyWorkers_setStage hold .delivered
    apply hsane.moved hold .delivered (executor.books.put completion) executor.registering rfl
      (Books.Apart.put _ hhandle)
    · exact hfits.put ⟨found, .delivered⟩ rfl rfl rfl rfl rfl hhandle
    · refine ⟨fun hheld => ?_, fun hearly => Bool.noConfusion hearly⟩
      exact Bool.noConfusion ((hsane.placed _ hold).held hheld)
    · exact Or.inl rfl
    · have hlimit := hsane.workers
      simp only [Stage.busy, Bool.false_eq_true, if_false, if_true, Nat.add_zero] at hcount
      omega
  · cases hput

end Sane

/-- The submission that holds the lock goes on: its future is not done, or its completion is put
at once. -/
theorem register_cases (hsane : executor.Sane maxWorkers)
    (hregister : executor.register = some next) :
    ∃ handle stage, executor.registering = some handle ∧
      ⟨handle, stage⟩ ∈ executor.pool.rows ∧
      ((stage.done = false ∧
          next = answer { executor with registering := none } (.submitted handle)) ∨
        ∃ completion, stage = .finished completion ∧ completion.handle = handle ∧
          next = answer { executor.setStage handle .delivered with
            registering := none
            books := (executor.books.complete handle).put completion } (.submitted handle)) := by
  obtain ⟨handle, hheld, hmap⟩ := Option.bind_eq_some_iff.mp hregister
  obtain ⟨future, hfound, hnext⟩ := Option.map_eq_some_iff.mp hmap
  obtain ⟨stage, hfuture⟩ := hsane.find? (hsane.held handle hheld).2
  rw [hfuture] at hfound
  cases hfound
  have hmem := Table.mem_of_find? hfuture
  have hearly := (hsane.placed _ hmem).held hheld
  refine ⟨handle, stage, hheld, hmem, ?_⟩
  cases stage with
  | pending => exact Or.inl ⟨rfl, hnext.symm⟩
  | running => exact Or.inl ⟨rfl, hnext.symm⟩
  | finished completion =>
      have hhandle := (hsane.agrees.fits _ hmem).completion completion rfl
      exact Or.inr ⟨completion, rfl, hhandle, hnext.symm⟩
  | publishing => cases hearly
  | putting => cases hearly
  | delivered => cases hearly

namespace Sane

theorem register (hsane : executor.Sane maxWorkers)
    (hregister : executor.register = some next) : next.Sane maxWorkers := by
  obtain ⟨handle, stage, hheld, hmem, hcases⟩ := register_cases hsane hregister
  have hfits := hsane.agrees.fits _ hmem
  have hlimit := hsane.workers
  have hcount := busyWorkers_setStage hmem
  rcases hcases with ⟨hrunning, rfl⟩ | ⟨completion, rfl, hhandle, rfl⟩
  · apply Sane.answer
    have hsame : executor.setStage handle stage = executor := by
      rw [setStage, executor.pool.set_of_mem hmem]
    have hmoved := hsane.moved hmem stage executor.books none rfl (Books.Apart.refl _ _) hfits
      (Placed.free fun _ => hrunning) (Or.inr ⟨rfl, hheld⟩)
    rw [hsame] at hmoved
    exact hmoved hlimit
  · apply Sane.answer
    have hclosed := hfits.closed ⟨handle, .putting completion⟩ rfl rfl rfl hfits.completion
    apply hsane.moved hmem .delivered ((executor.books.complete handle).put completion) none rfl
      ((Books.Apart.complete _ _).trans (Books.Apart.put _ hhandle))
    · exact hclosed.put ⟨handle, .delivered⟩ rfl rfl rfl rfl rfl hhandle
    · exact Placed.free fun hearly => Bool.noConfusion hearly
    · exact Or.inr ⟨rfl, hheld⟩
    · have hdone := hcount .delivered
      simp only [Stage.busy, Bool.false_eq_true, if_false, Nat.add_zero] at hdone
      omega

theorem beginShutdown (hsane : executor.Sane maxWorkers) {wait : Bool}
    (hshutdown : executor.beginShutdown wait = some next) : next.Sane maxWorkers := by
  rw [ThreadExecutor.beginShutdown] at hshutdown
  split at hshutdown
  · cases hshutdown
  next hfree =>
  have hmarked : Sane maxWorkers
      { executor with books := { executor.books with shutdown := true } } := by
    refine ⟨hsane.agrees.marked true, hsane.placed, hsane.capacity, hsane.workers, ?_,
      fun _ => rfl⟩
    intro handle hheld
    exact absurd (Option.isSome_of_eq_some hheld) hfree
  split at hshutdown
  · cases hshutdown
    exact hmarked.unchanged (fun _ => rfl) _
  · cases hshutdown
    exact hmarked.unchanged (fun _ => rfl) _

theorem get (hsane : executor.Sane maxWorkers) {books : Books}
    (hget : executor.books.get = some books) :
    Sane maxWorkers { executor with books := books } := by
  obtain ⟨-, hnext⟩ := executor.books.published_get hget
  refine ⟨hsane.agrees.get hget, hsane.placed, hsane.capacity, hsane.workers, ?_, ?_⟩
  · rw [hnext]
    exact hsane.held
  · rw [hnext]
    exact hsane.ending

theorem joined (hsane : executor.Sane maxWorkers) (hjoined : executor.joined = some next) :
    next.Sane maxWorkers := by
  rw [ThreadExecutor.joined] at hjoined
  split at hjoined
  · next hend =>
    cases hjoined
    exact hsane.unchanged (fun _ => hsane.ending hend.1) _
  · cases hjoined

/-- Whatever happens next keeps the invariant. -/
theorem step (hsane : executor.Sane maxWorkers) {event : ThreadEvent}
    (hstep : executor.step event = some next) : next.Sane maxWorkers := by
  cases event with
  | submit context => exact hsane.submit hstep
  | register => exact hsane.register hstep
  | take => exact hsane.take hstep
  | finish handle settled => exact hsane.finish hstep
  | publish handle => exact hsane.publish hstep
  | put handle => exact hsane.put hstep
  | shutdown wait => exact hsane.beginShutdown hstep
  | joined => exact hsane.joined hstep
  | get =>
      obtain ⟨books, hget, rfl⟩ := Option.map_eq_some_iff.mp hstep
      exact hsane.get hget

theorem of_reaches (hreaches : (system maxWorkers).Reaches executor) :
    executor.Sane maxWorkers := by
  apply System.Reaches.invariant (start maxWorkers) _ hreaches
  exact fun state event next hsane hstep => hsane.step hstep

end Sane

end ThreadExecutor

/-- The completion that a submission puts when it adds the callback. -/
def Stage.answered : Stage → Option (Deal ExecutionHandle (Except ExecutorError TaskResult))
  | .finished completion => some (.deliver completion.handle completion.outcome)
  | _ => none

/-- The completion that a worker puts. -/
def Stage.handed : Stage → Option (Deal ExecutionHandle (Except ExecutorError TaskResult))
  | .putting completion => some (.deliver completion.handle completion.outcome)
  | _ => none

namespace ThreadExecutor

variable {maxWorkers : Nat} {executor next : ThreadExecutor}

/-- What an event comes to at the desk. -/
def shown (executor : ThreadExecutor) :
    ThreadEvent → Option (Deal ExecutionHandle (Except ExecutorError TaskResult))
  | .submit context =>
      if executor.books.shutdown = false ∧
          context.attemptId ∉ executor.books.submittedAttemptIds then
        some (.accept (handleFor key context.attemptId))
      else none
  | .register =>
      executor.registering.bind fun handle =>
        (executor.pool.find? handle.handleId).bind fun future => future.stage.answered
  | .put handle =>
      (executor.pool.find? handle.handleId).bind fun future => future.stage.handed
  | .shutdown _ => some .close
  | _ => none

/-- Every step is a step of the desk, or changes nothing there. -/
theorem Sane.shows (hsane : executor.Sane maxWorkers) {event : ThreadEvent}
    (hstep : executor.step event = some next) :
    (executor.shown event = none ∧ next.books.desk = executor.books.desk) ∨
      ∃ deal, executor.shown event = some deal ∧
        executor.books.desk.move deal = some next.books.desk := by
  cases event with
  | submit context =>
      have hsubmit : executor.submit context = some next := hstep
      rw [ThreadExecutor.submit] at hsubmit
      split at hsubmit
      · cases hsubmit
      · split at hsubmit
        · next hshutdown =>
          cases hsubmit
          refine Or.inl ⟨if_neg fun hopen => ?_, rfl⟩
          rw [hshutdown] at hopen
          exact Bool.noConfusion hopen.1
        · next hopen =>
          split at hsubmit
          · next hagain =>
            cases hsubmit
            exact Or.inl ⟨if_neg fun hnew => hnew.2 hagain, rfl⟩
          · next hnew =>
            cases hsubmit
            have hfalse := Bool.eq_false_of_not_eq_true hopen
            exact Or.inr ⟨_, if_pos ⟨hfalse, hnew⟩, hsane.agrees.move_enter hnew hfalse⟩
  | register =>
      obtain ⟨handle, stage, hheld, hmem, hcases⟩ := register_cases hsane hstep
      have hfound := executor.pool.find?_of_mem hmem
      have hshown : executor.shown .register = stage.answered := by
        rw [shown, hheld, Option.bind_some]
        exact congrArg (Option.bind · _) hfound
      rcases hcases with ⟨hrunning, rfl⟩ | ⟨completion, rfl, hhandle, rfl⟩
      · refine Or.inl ⟨?_, rfl⟩
        rw [hshown]
        cases stage <;> first | rfl | cases hrunning
      · exact Or.inr ⟨_, hshown, hsane.agrees.move_put hmem rfl hhandle⟩
  | take =>
      have htake : executor.take = some next := hstep
      rw [ThreadExecutor.take] at htake
      split at htake
      · obtain ⟨future, -, rfl⟩ := Option.map_eq_some_iff.mp htake
        exact Or.inl ⟨rfl, rfl⟩
      · cases htake
  | finish handle settled =>
      have hfinish : executor.finish handle settled = some next := hstep
      rw [ThreadExecutor.finish] at hfinish
      split at hfinish
      · cases hfinish
        exact Or.inl ⟨rfl, rfl⟩
      · cases hfinish
  | publish handle =>
      have hpublish : executor.publish handle = some next := hstep
      rw [ThreadExecutor.publish] at hpublish
      split at hpublish
      · cases hpublish
      · split at hpublish
        · cases hpublish
          exact Or.inl ⟨rfl, rfl⟩
        · cases hpublish
  | put handle =>
      have hput : executor.put handle = some next := hstep
      rw [ThreadExecutor.put] at hput
      split at hput
      · next wanted found completion hfound =>
        cases hput
        have hmem := Table.mem_of_find? hfound
        have hhandle := (hsane.agrees.fits _ hmem).completion completion rfl
        refine Or.inr ⟨.deliver completion.handle completion.outcome, ?_, ?_⟩
        · rw [shown, hfound]
          rfl
        · exact hsane.agrees.move_put hmem rfl hhandle
      · cases hput
  | shutdown wait =>
      have hshutdown : executor.beginShutdown wait = some next := hstep
      rw [ThreadExecutor.beginShutdown] at hshutdown
      refine Or.inr ⟨.close, rfl, ?_⟩
      split at hshutdown
      · cases hshutdown
      · split at hshutdown
        · cases hshutdown
          rfl
        · cases hshutdown
          rfl
  | joined =>
      have hjoined : executor.joined = some next := hstep
      rw [ThreadExecutor.joined] at hjoined
      split at hjoined
      · cases hjoined
        exact Or.inl ⟨rfl, rfl⟩
      · cases hjoined
  | get =>
      obtain ⟨books, hget, rfl⟩ := Option.map_eq_some_iff.mp hstep
      exact Or.inl ⟨rfl, executor.books.desk_get hget⟩

/-- The executor is a desk that accepts attempts and delivers their completions. -/
theorem refines_desk (maxWorkers : Nat) :
    Refines (system maxWorkers) (Desk.system _ _) (Sane maxWorkers)
      (fun executor => executor.books.desk) shown := by
  constructor
  · rfl
  · intro executor event next hsane hstep deal hshown
    rcases Sane.shows hsane hstep with ⟨hsilent, -⟩ | ⟨other, hother, hmove⟩
    · rw [hsilent] at hshown
      cases hshown
    · rw [hother] at hshown
      cases hshown
      exact hmove
  · intro executor event next hsane hstep hsilent
    rcases Sane.shows hsane hstep with ⟨-, hdesk⟩ | ⟨other, hother, -⟩
    · exact hdesk
    · rw [hother] at hsilent
      cases hsilent

/-- `wait` knows every accepted attempt, and tells whether its handler has ended. -/
theorem Sane.wait (hsane : executor.Sane maxWorkers) {future : PoolFuture}
    (hfuture : future ∈ executor.pool.rows) :
    executor.wait future.handle = .ok future.stage.done := by
  have hfits := hsane.agrees.fits future hfuture
  have hknown : executor.books.handles.find? future.handle.handleId = some future.handle :=
    executor.books.handles.find?_of_mem (hsane.agrees.mem_handles hfuture)
  have hfound : executor.pool.find? future.handle.handleId = some future :=
    executor.pool.find?_of_mem hfuture
  rw [ThreadExecutor.wait, if_neg (not_not.mpr hknown)]
  split
  · next hended =>
    have hclosed : future.stage.opened = false := hfits.completed.mp hended
    cases hstage : future.stage <;> rw [hstage] at hclosed <;> first | rfl | cases hclosed
  · next hopen =>
    have hactive : future.handle ∈ executor.books.activeHandles.rows := by
      apply hfits.active.mpr
      apply Bool.eq_true_of_not_eq_false
      exact fun hclosed => hopen (hfits.completed.mpr hclosed)
    rw [if_pos ((executor.books.activeHandles.contains_iff _).mpr ⟨_, hactive, rfl⟩), hfound]
    rfl

/-- While an attempt has no completion, some thread can go on. -/
theorem Sane.works (hsane : executor.Sane maxWorkers) (hworkers : 0 < maxWorkers)
    {future : PoolFuture} (hfuture : future ∈ executor.pool.rows)
    (hwaits : future.stage ≠ .delivered) :
    ∃ event, event.isWork = true ∧ (executor.step event).isSome = true := by
  have hregister : ∀ handle ∈ executor.registering, (executor.step .register).isSome = true := by
    intro handle hheld
    obtain ⟨stage, hfound⟩ := hsane.find? (hsane.held handle hheld).2
    simp only [ThreadExecutor.step, ThreadExecutor.register, Option.mem_def.mp hheld, Option.bind_some, hfound,
      Option.map_some, Option.isSome_some]
  cases hfree : executor.registering with
  | some handle => exact ⟨.register, rfl, hregister handle hfree⟩
  | none =>
      have hbusy : ∀ other ∈ executor.pool.rows, other.stage.busy = true →
          ∃ event, event.isWork = true ∧ (executor.step event).isSome = true := by
        rintro ⟨handle, stage⟩ hother hstage
        have hfound : executor.pool.find? handle.handleId = some ⟨handle, stage⟩ :=
          executor.pool.find?_of_mem hother
        cases stage with
        | running =>
            refine ⟨.finish handle .cancelled, rfl, ?_⟩
            simp only [ThreadExecutor.step, ThreadExecutor.finish, hfound, Option.isSome_some]
        | publishing completion =>
            refine ⟨.publish handle, rfl, ?_⟩
            simp only [ThreadExecutor.step, ThreadExecutor.publish, hfree, Option.isSome_none,
              Bool.false_eq_true, if_false, hfound, Option.isSome_some]
        | putting completion =>
            refine ⟨.put handle, rfl, ?_⟩
            simp only [ThreadExecutor.step, ThreadExecutor.put, hfound, Option.isSome_some]
        | pending => cases hstage
        | finished => cases hstage
        | delivered => cases hstage
      by_cases hidle : executor.busyWorkers < executor.maxWorkers
      · cases hstage : future.stage with
        | pending =>
            refine ⟨.take, rfl, ?_⟩
            rw [ThreadExecutor.step, ThreadExecutor.take, if_pos hidle, Option.isSome_map,
              List.find?_isSome]
            refine ⟨future, hfuture, ?_⟩
            rw [hstage]
        | finished completion =>
            have hheld := (hsane.placed future hfuture).finished
            rw [hstage] at hheld
            have hnone := hheld rfl rfl
            rw [hfree] at hnone
            cases hnone
        | delivered => exact absurd hstage hwaits
        | running => exact hbusy future hfuture (by rw [hstage]; rfl)
        | publishing => exact hbusy future hfuture (by rw [hstage]; rfl)
        | putting => exact hbusy future hfuture (by rw [hstage]; rfl)
      · have hpositive : 0 < executor.pool.rows.countP fun other => other.stage.busy := by
          have hcapacity := hsane.capacity
          have hcount : executor.busyWorkers =
            executor.pool.rows.countP fun other => other.stage.busy := rfl
          omega
        obtain ⟨other, hother, hstage⟩ := List.countP_pos_iff.mp hpositive
        exact hbusy other hother hstage

/-- A future is done before its callback is added, and the executor is shut down. -/
def joiningEvents : List ThreadEvent :=
  [.submit extractContext, .take,
    .finish (handleFor key extractContext.attemptId) (.returned extracted), .register,
    .shutdown true]

theorem joiningEvents_run : ((system 1).run (new 1) joiningEvents).isSome = true := by
  decide +kernel

def joiningExecutor : ThreadExecutor :=
  ((system 1).run (new 1) joiningEvents).get joiningEvents_run

end ThreadExecutor

end PyWorkflowKit.V1.Executors
