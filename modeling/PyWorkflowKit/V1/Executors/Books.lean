import PyWorkflowKit.V1.Executors.Common

/-!
# The books of an executor

The dictionaries that the thread and the process executor keep under their lock, the completion
queue beside them, and what they say about an attempt that is on its way.
-/

namespace PyWorkflowKit.V1.Executors

open PyWorkflowKit.Core PyWorkflowKit.Domain

structure Books where
  /-- The keys of `_active_futures` or of `_active`. -/
  activeHandles : Handles
  handles : Handles
  completedHandleIds : List Text
  submittedAttemptIds : List TaskAttemptId
  shutdown : Bool
  completionQueue : List AttemptCompletion
  /-- The completions that were taken from the queue. -/
  received : List AttemptCompletion

namespace Books

def empty : Books := ⟨.empty, .empty, [], [], false, [], []⟩

variable (books : Books)

/-- An accepted attempt is entered. -/
def enter (handle : ExecutionHandle) : Books :=
  { books with
    activeHandles := books.activeHandles.set handle
    handles := books.handles.set handle
    submittedAttemptIds := books.submittedAttemptIds ++ [handle.attemptId] }

/-- The critical section at the end of an attempt. -/
def complete (handle : ExecutionHandle) : Books :=
  { books with
    activeHandles := books.activeHandles.filter fun row => row.handleId ≠ handle.handleId
    completedHandleIds := books.completedHandleIds ++ [handle.handleId] }

/-- `CompletionQueue.put`. -/
def put (completion : AttemptCompletion) : Books :=
  { books with completionQueue := books.completionQueue ++ [completion] }

/-- `CompletionQueue.get_nowait`. -/
def get : Option Books :=
  match books.completionQueue with
  | [] => none
  | completion :: rest =>
      some { books with
        completionQueue := rest
        received := books.received ++ [completion] }

/-- The completions put into the queue so far, in order. -/
def published : List AttemptCompletion := books.received ++ books.completionQueue

def delivered : List ExecutionHandle := books.published.map AttemptCompletion.handle

/-- What the clients see: the attempts accepted, the completions put, the shutdown. -/
def desk : Desk ExecutionHandle (Except ExecutorError TaskResult) where
  accepted := books.handles.rows
  delivered := books.published.map fun completion => (completion.handle, completion.outcome)
  closed := books.shutdown

theorem settled_desk : books.desk.settled = books.delivered := by
  rw [Desk.settled, desk, List.map_map]
  rfl

theorem delivered_put (completion : AttemptCompletion) :
    (books.put completion).delivered = books.delivered ++ [completion.handle] := by
  simp only [delivered, published, put, ← List.append_assoc, List.map_append,
    List.map_singleton]

theorem published_get {next : Books} (hget : books.get = some next) :
    next.published = books.published ∧ next = { books with
      completionQueue := next.completionQueue
      received := next.received } := by
  rw [get] at hget
  split at hget
  · cases hget
  · next completion rest hqueue =>
    cases hget
    refine ⟨?_, rfl⟩
    rw [published, published, hqueue, List.append_assoc, List.singleton_append]

/-- The clients do not see that a completion is taken. -/
theorem desk_get {next : Books} (hget : books.get = some next) : next.desk = books.desk := by
  obtain ⟨hsame, hnext⟩ := books.published_get hget
  rw [desk, desk, hsame, hnext]

end Books

/-- How the work on an attempt is told by the state of its worker. -/
structure Progress (ρ : Type) where
  handle : ρ → ExecutionHandle
  /-- Whether the critical section at its end is still to come. -/
  opened : ρ → Bool
  delivered : ρ → Bool
  completion? : ρ → Option AttemptCompletion

namespace Books

variable {ρ : Type} {progress : Progress ρ} {executorKey : Text} {books next : Books}

/-- What the books say about the worker of an attempt. -/
structure Fits (progress : Progress ρ) (books : Books) (row : ρ) : Prop where
  active : progress.handle row ∈ books.activeHandles.rows ↔ progress.opened row = true
  completed : (progress.handle row).handleId ∈ books.completedHandleIds ↔
    progress.opened row = false
  delivered : books.delivered.count (progress.handle row) =
    if progress.delivered row then 1 else 0
  completion : ∀ completion ∈ progress.completion? row,
    completion.handle = progress.handle row

/-- The books and the workers agree about all attempts. -/
structure Agrees (progress : Progress ρ) (executorKey : Text) (books : Books) (rows : List ρ) :
    Prop where
  known : rows.map progress.handle = books.handles.rows
  identities : books.handles.rows = books.submittedAttemptIds.map (handleFor executorKey)
  fits : ∀ row ∈ rows, books.Fits progress row
  active : books.activeHandles.rows ⊆ books.handles.rows
  completed : ∀ handleId ∈ books.completedHandleIds,
    ∃ handle ∈ books.handles.rows, handle.handleId = handleId
  asked : books.delivered ⊆ books.handles.rows

/-- The books differ only about one attempt. -/
structure Apart (books next : Books) (handle : ExecutionHandle) : Prop where
  handles : next.handles = books.handles
  submitted : next.submittedAttemptIds = books.submittedAttemptIds
  kept : next.activeHandles.rows ⊆ books.activeHandles.rows
  active : ∀ other, other.handleId ≠ handle.handleId →
    (other ∈ next.activeHandles.rows ↔ other ∈ books.activeHandles.rows)
  completed : ∀ handleId, handleId ≠ handle.handleId →
    (handleId ∈ next.completedHandleIds ↔ handleId ∈ books.completedHandleIds)
  delivered : ∀ other, other ≠ handle →
    next.delivered.count other = books.delivered.count other

theorem Apart.refl (books : Books) (handle : ExecutionHandle) : Apart books books handle :=
  ⟨rfl, rfl, List.Subset.refl _, fun _ _ => Iff.rfl, fun _ _ => Iff.rfl, fun _ _ => rfl⟩

theorem Apart.trans {third : Books} {handle : ExecutionHandle}
    (hfirst : Apart books next handle) (hsecond : Apart next third handle) :
    Apart books third handle := by
  constructor
  · exact hsecond.handles.trans hfirst.handles
  · exact hsecond.submitted.trans hfirst.submitted
  · exact List.Subset.trans hsecond.kept hfirst.kept
  · exact fun other hne => (hsecond.active other hne).trans (hfirst.active other hne)
  · exact fun other hne => (hsecond.completed other hne).trans (hfirst.completed other hne)
  · exact fun other hne => (hsecond.delivered other hne).trans (hfirst.delivered other hne)

theorem Apart.complete (books : Books) (handle : ExecutionHandle) :
    Apart books (books.complete handle) handle := by
  constructor
  · rfl
  · rfl
  · exact fun other hother => List.mem_of_mem_filter hother
  · intro other hne
    simp only [Books.complete, Table.rows_filter, List.mem_filter, decide_eq_true_eq]
    exact and_iff_left hne
  · intro handleId hne
    simp only [Books.complete, List.mem_append, List.mem_singleton]
    exact or_iff_left hne
  · exact fun _ _ => rfl

theorem Apart.put (books : Books) {handle : ExecutionHandle} {completion : AttemptCompletion}
    (hhandle : completion.handle = handle) : Apart books (books.put completion) handle := by
  constructor
  · rfl
  · rfl
  · exact List.Subset.refl _
  · exact fun _ _ => Iff.rfl
  · exact fun _ _ => Iff.rfl
  · intro other hne
    rw [delivered_put, hhandle, List.count_append, List.count_cons_of_ne hne.symm,
      List.count_nil, Nat.add_zero]

theorem Fits.apart {row : ρ} (hfits : books.Fits progress row) {handle : ExecutionHandle}
    (hapart : Apart books next handle)
    (hother : (progress.handle row).handleId ≠ handle.handleId) : next.Fits progress row := by
  have hne : progress.handle row ≠ handle := fun hsame =>
    hother (congrArg ExecutionHandle.handleId hsame)
  constructor
  · rw [hapart.active _ hother]
    exact hfits.active
  · rw [hapart.completed _ hother]
    exact hfits.completed
  · rw [hapart.delivered _ hne]
    exact hfits.delivered
  · exact hfits.completion

/-- A worker goes on, and the books say the same about its attempt. -/
theorem Fits.onward {row : ρ} (hfits : books.Fits progress row) (other : ρ)
    (hhandle : progress.handle other = progress.handle row)
    (hopened : progress.opened other = progress.opened row)
    (hdelivered : progress.delivered other = progress.delivered row)
    (hcompletion : ∀ completion ∈ progress.completion? other,
      completion.handle = progress.handle row) : books.Fits progress other := by
  constructor
  · rw [hhandle, hopened]
    exact hfits.active
  · rw [hhandle, hopened]
    exact hfits.completed
  · rw [hhandle, hdelivered]
    exact hfits.delivered
  · rw [hhandle]
    exact hcompletion

/-- The critical section closes the books on the attempt. -/
theorem Fits.closed {row : ρ} (hfits : books.Fits progress row) (other : ρ)
    (hhandle : progress.handle other = progress.handle row)
    (hopened : progress.opened other = false)
    (hdelivered : progress.delivered other = progress.delivered row)
    (hcompletion : ∀ completion ∈ progress.completion? other,
      completion.handle = progress.handle row) :
    (books.complete (progress.handle row)).Fits progress other := by
  constructor
  · rw [hhandle, hopened]
    apply iff_of_false
    · intro hactive
      exact of_decide_eq_true (List.mem_filter.mp hactive).2 rfl
    · exact Bool.noConfusion
  · rw [hhandle, hopened]
    exact iff_of_true (List.mem_append_right _ (List.mem_singleton_self _)) rfl
  · rw [hhandle, hdelivered]
    exact hfits.delivered
  · rw [hhandle]
    exact hcompletion

/-- The completion of the attempt is put. -/
theorem Fits.put {row : ρ} (hfits : books.Fits progress row) (other : ρ)
    (hhandle : progress.handle other = progress.handle row)
    (hopened : progress.opened other = progress.opened row)
    (hwaits : progress.delivered row = false) (hdelivered : progress.delivered other = true)
    (hnone : progress.completion? other = none) {completion : AttemptCompletion}
    (hcompletion : completion.handle = progress.handle row) :
    (books.put completion).Fits progress other := by
  constructor
  · rw [hhandle, hopened]
    exact hfits.active
  · rw [hhandle, hopened]
    exact hfits.completed
  · have hbefore := hfits.delivered
    rw [hwaits] at hbefore
    rw [delivered_put, hhandle, hdelivered, hcompletion, List.count_append,
      List.count_singleton_self, hbefore]
    rfl
  · rw [hnone]
    exact fun _ hcompletion => nomatch hcompletion

namespace Agrees

variable {rows : List ρ}

theorem mem_handles (hagrees : Agrees progress executorKey books rows) {row : ρ}
    (hrow : row ∈ rows) : progress.handle row ∈ books.handles.rows := by
  rw [← hagrees.known]
  exact List.mem_map_of_mem hrow

/-- The worker of an accepted attempt. -/
theorem exists_row (hagrees : Agrees progress executorKey books rows) {handle : ExecutionHandle}
    (hhandle : handle ∈ books.handles.rows) : ∃ row ∈ rows, progress.handle row = handle := by
  rw [← hagrees.known] at hhandle
  exact List.mem_map.mp hhandle

theorem fresh (hagrees : Agrees progress executorKey books rows) {attemptId : TaskAttemptId}
    (hnew : attemptId ∉ books.submittedAttemptIds) :
    ∀ other ∈ books.handles.rows,
      other.handleId ≠ (handleFor executorKey attemptId).handleId := by
  intro other hother hid
  rw [hagrees.identities] at hother
  obtain ⟨submitted, hsubmitted, rfl⟩ := List.mem_map.mp hother
  exact hnew (handleFor_injective hid ▸ hsubmitted)

theorem handles_enter (hagrees : Agrees progress executorKey books rows)
    {attemptId : TaskAttemptId} (hnew : attemptId ∉ books.submittedAttemptIds) :
    (books.enter (handleFor executorKey attemptId)).handles.rows =
      books.handles.rows ++ [handleFor executorKey attemptId] :=
  books.handles.rows_set_of_absent
    ((books.handles.find?_eq_none_iff _).mpr (hagrees.fresh hnew))

/-- An accepted attempt is new to the books. -/
theorem enter (hagrees : Agrees progress executorKey books rows) {attemptId : TaskAttemptId}
    (hnew : attemptId ∉ books.submittedAttemptIds) {row : ρ}
    (hhandle : progress.handle row = handleFor executorKey attemptId)
    (hopened : progress.opened row = true) (hwaits : progress.delivered row = false)
    (hnone : progress.completion? row = none) :
    Agrees progress executorKey (books.enter (handleFor executorKey attemptId))
      (rows ++ [row]) := by
  have hfresh := hagrees.fresh hnew
  have hhandles := hagrees.handles_enter hnew
  have hactive := books.activeHandles.rows_set_of_absent
    ((books.activeHandles.find?_eq_none_iff _).mpr
      fun other hother => hfresh other (hagrees.active hother))
  constructor
  · rw [hhandles, List.map_append, List.map_singleton, hagrees.known, hhandle]
  · rw [hhandles, hagrees.identities]
    simp only [Books.enter, List.map_append, List.map_singleton]
    rfl
  · intro other hother
    rcases List.mem_append.mp hother with hold | hlast
    · have hmem := hagrees.mem_handles hold
      have hne := hfresh _ hmem
      have hfits := hagrees.fits other hold
      constructor
      · simp only [Books.enter, hactive, List.mem_append, List.mem_singleton]
        rw [hfits.active]
        apply or_iff_left
        exact fun hsame => hne (congrArg ExecutionHandle.handleId hsame)
      · exact hfits.completed
      · exact hfits.delivered
      · exact hfits.completion
    · rw [List.mem_singleton.mp hlast]
      constructor
      · rw [hhandle, hopened]
        exact iff_of_true ((Table.mem_set _ _ _).mpr (Or.inl rfl)) rfl
      · rw [hhandle, hopened]
        apply iff_of_false
        · intro hended
          obtain ⟨known, hknown, hid⟩ := hagrees.completed _ hended
          exact hfresh known hknown hid
        · exact Bool.noConfusion
      · rw [hhandle, hwaits]
        apply List.count_eq_zero.mpr
        exact fun hdelivered => hfresh _ (hagrees.asked hdelivered) rfl
      · rw [hnone]
        exact fun _ hcompletion => nomatch hcompletion
  · intro handle hmem
    rw [hhandles]
    rw [Books.enter, hactive] at hmem
    rcases List.mem_append.mp hmem with hold | hlast
    · exact List.mem_append_left _ (hagrees.active hold)
    · exact List.mem_append_right _ hlast
  · intro handleId hended
    obtain ⟨known, hknown, hid⟩ := hagrees.completed handleId hended
    rw [hhandles]
    exact ⟨known, List.mem_append_left _ hknown, hid⟩
  · intro handle hdelivered
    rw [hhandles]
    exact List.mem_append_left _ (hagrees.asked hdelivered)

/-- One worker goes on, and the books differ at most about its attempt. -/
theorem moved (hagrees : Agrees progress executorKey books rows) (row : ρ) {others : List ρ}
    (hmem : progress.handle row ∈ books.handles.rows)
    (hmap : others.map progress.handle = rows.map progress.handle)
    (hothers : ∀ other ∈ others, other = row ∨ other ∈ rows ∧
      (progress.handle other).handleId ≠ (progress.handle row).handleId)
    (hapart : Apart books next (progress.handle row)) (hfits : next.Fits progress row) :
    Agrees progress executorKey next others := by
  constructor
  · rw [hmap, hapart.handles]
    exact hagrees.known
  · rw [hapart.handles, hapart.submitted]
    exact hagrees.identities
  · intro other hother
    rcases hothers other hother with rfl | ⟨hold, hne⟩
    · exact hfits
    · exact (hagrees.fits other hold).apart hapart hne
  · rw [hapart.handles]
    exact List.Subset.trans hapart.kept hagrees.active
  · intro handleId hended
    rw [hapart.handles]
    by_cases hsame : handleId = (progress.handle row).handleId
    · exact ⟨_, hmem, hsame.symm⟩
    · exact hagrees.completed handleId ((hapart.completed handleId hsame).mp hended)
  · intro handle hdelivered
    rw [hapart.handles]
    by_cases hsame : handle = progress.handle row
    · rw [hsame]
      exact hmem
    · have hcount := hapart.delivered handle hsame
      have hpos := List.count_pos_iff.mpr hdelivered
      exact hagrees.asked (List.count_pos_iff.mp (by omega))

/-- What the agreement does not look at. -/
theorem marked (hagrees : Agrees progress executorKey books rows) (shutdown : Bool) :
    Agrees progress executorKey { books with shutdown := shutdown } rows := by
  refine ⟨hagrees.known, hagrees.identities, ?_, hagrees.active, hagrees.completed,
    hagrees.asked⟩
  intro row hrow
  have hfits := hagrees.fits row hrow
  exact ⟨hfits.active, hfits.completed, hfits.delivered, hfits.completion⟩

theorem get (hagrees : Agrees progress executorKey books rows) (hget : books.get = some next) :
    Agrees progress executorKey next rows := by
  obtain ⟨hsame, hnext⟩ := books.published_get hget
  have hdelivered : next.delivered = books.delivered := congrArg (List.map _) hsame
  rw [hnext] at hdelivered ⊢
  refine ⟨hagrees.known, hagrees.identities, ?_, hagrees.active, hagrees.completed, ?_⟩
  · intro row hrow
    have hfits := hagrees.fits row hrow
    refine ⟨hfits.active, hfits.completed, ?_, hfits.completion⟩
    rw [hdelivered]
    exact hfits.delivered
  · rw [hdelivered]
    exact hagrees.asked

theorem delivered_iff (hagrees : Agrees progress executorKey books rows) {row : ρ}
    (hrow : row ∈ rows) :
    progress.handle row ∈ books.delivered ↔ progress.delivered row = true := by
  rw [← List.count_pos_iff, (hagrees.fits row hrow).delivered]
  cases progress.delivered row <;> simp

/-- Accepting an attempt is a step of the desk. -/
theorem move_enter (hagrees : Agrees progress executorKey books rows)
    {attemptId : TaskAttemptId} (hnew : attemptId ∉ books.submittedAttemptIds)
    (hopen : books.shutdown = false) :
    books.desk.move (.accept (handleFor executorKey attemptId)) =
      some (books.enter (handleFor executorKey attemptId)).desk := by
  have hhandles := hagrees.handles_enter hnew
  rw [Desk.move, if_neg]
  · rw [desk, desk, hhandles]
    rfl
  · rintro (hclosed | hagain)
    · rw [desk, hopen] at hclosed
      cases hclosed
    · exact hagrees.fresh hnew _ hagain rfl

/-- Putting the completion of an attempt that has none is a step of the desk. -/
theorem move_put (hagrees : Agrees progress executorKey books rows) {row : ρ} (hrow : row ∈ rows)
    (hwaits : progress.delivered row = false) {completion : AttemptCompletion}
    (hhandle : completion.handle = progress.handle row) :
    books.desk.move (.deliver completion.handle completion.outcome) =
      some (books.put completion).desk := by
  rw [Desk.move, if_pos]
  · simp only [desk, Books.put, published, ← List.append_assoc, List.map_append,
      List.map_singleton]
  · rw [settled_desk, hhandle]
    refine ⟨hagrees.mem_handles hrow, ?_⟩
    intro hdelivered
    rw [(hagrees.delivered_iff hrow).mp hdelivered] at hwaits
    cases hwaits

/-- When every worker has delivered, every accepted attempt has exactly one completion. -/
theorem perm_delivered (hagrees : Agrees progress executorKey books rows)
    (hall : ∀ row ∈ rows, progress.delivered row = true) :
    List.Perm books.handles.rows books.delivered := by
  apply List.perm_iff_count.mpr
  intro handle
  by_cases hmem : handle ∈ books.handles.rows
  · obtain ⟨row, hrow, rfl⟩ := hagrees.exists_row hmem
    have hone : books.handles.rows.count (progress.handle row) = 1 :=
      List.count_eq_one_of_mem books.handles.nodup.of_map hmem
    rw [hone, (hagrees.fits row hrow).delivered, hall row hrow]
    rfl
  · rw [List.count_eq_zero.mpr hmem, List.count_eq_zero.mpr]
    exact fun hdelivered => hmem (hagrees.asked hdelivered)

end Agrees

end Books

end PyWorkflowKit.V1.Executors
