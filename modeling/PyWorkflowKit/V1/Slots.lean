import Mathlib
import PyWorkflowKit.V1.Capacity

/-!
# Slots of several executors

The capacity manager with all its executors, and what holds of its counters after any calls,
also after calls that it rejects.
-/

namespace PyWorkflowKit.V1.Slots

open PyWorkflowKit.Core PyWorkflowKit.Domain

/-- One active execution reservation, as a caller may present it. -/
structure CapacityLease where
  attemptId : String
  executorKey : String
deriving DecidableEq, Repr

/-- An executor with a number. -/
abbrev ByExecutor := Table (Prod.fst : String × Int → String)

/-- `CapacityManager`. -/
structure CapacityManager where
  globalLimit : Int
  executorLimits : ByExecutor
  activeByAttempt : Table CapacityLease.attemptId
  activeByExecutor : ByExecutor

namespace CapacityManager

/-- `ExecutorCapabilities.max_concurrency` of a registered executor. -/
structure Capability where
  executorKey : String
  maxConcurrency : Int
  positive : 1 ≤ maxConcurrency

/-- `validate_non_empty_identifier`. -/
def validateIdentifier (value fieldName : String) : Except Error Unit :=
  if isBlank value then .error (.valueError (fieldName ++ " must not be empty."))
  else .ok ()

/-- The effective limit of one executor. -/
def effectiveLimit (perExecutorLimits : ByExecutor) (capability : Capability) :
    Except Error (String × Int) := do
  let configured ← V1.CapacityManager.validatePositiveLimit
    (((perExecutorLimits.find? capability.executorKey).map Prod.snd).getD
      capability.maxConcurrency)
    ("per_executor_limits[" ++ PyError.quoted capability.executorKey ++ "]")
  .ok (capability.executorKey, min configured capability.maxConcurrency)

/-- `CapacityManager.__init__`. -/
def new (globalLimit : Int) (executorCapabilities : Table Capability.executorKey)
    (perExecutorLimits : ByExecutor) : Except Error CapacityManager := do
  let globalLimit ← V1.CapacityManager.validatePositiveLimit globalLimit "global_limit"
  if executorCapabilities.rows = [] then
    .error (.capacityConfiguration "executor_capabilities must not be empty")
  else do
    executorCapabilities.rows.forM fun capability =>
      validateIdentifier capability.executorKey "executor_key"
    let unknownLimits := (perExecutorLimits.rows.map Prod.fst).filter fun executorKey =>
      !executorCapabilities.contains executorKey
    if unknownLimits ≠ [] then
      .error (.capacityConfiguration ("per_executor_limits contains unknown executors: " ++
        ", ".intercalate (sortBy id unknownLimits)))
    else do
      let effectiveLimits ← executorCapabilities.rows.mapM (effectiveLimit perExecutorLimits)
      .ok {
        globalLimit := globalLimit
        executorLimits := .ofList effectiveLimits
        activeByAttempt := .empty
        activeByExecutor := .ofList (effectiveLimits.map fun limit => (limit.1, 0)) }

variable (capacity : CapacityManager)

/-- `_require_known_executor`. -/
def requireKnownExecutor (executorKey : String) : Except Error Unit :=
  if capacity.executorLimits.contains executorKey then .ok ()
  else
    .error (.capacityConfiguration
      ("executor '" ++ executorKey ++ "' has no registered capacity contract"))

/-- `dictionary[executor_key]`. -/
def at? (counts : ByExecutor) (executorKey : String) : Except Error Int :=
  match counts.find? executorKey with
  | none => .error (.keyError executorKey)
  | some (_, count) => .ok count

/-- `try_acquire`: what it returns or raises, and the manager afterwards. -/
def tryAcquire (executorKey attemptId : String) :
    Except Error (Option CapacityLease) × CapacityManager :=
  let checked : Except Error Unit := do
    validateIdentifier executorKey "executor_key"
    validateIdentifier attemptId "attempt_id"
    capacity.requireKnownExecutor executorKey
    if capacity.activeByAttempt.contains attemptId then
      .error (.capacityInvariant ("attempt '" ++ attemptId ++ "' already owns a capacity slot"))
    else .ok ()
  match checked with
  | .error error => (.error error, capacity)
  | .ok () =>
    if capacity.globalLimit ≤ capacity.activeByAttempt.rows.length then (.ok none, capacity)
    else
      match at? capacity.activeByExecutor executorKey, at? capacity.executorLimits executorKey with
      | .error error, _ => (.error error, capacity)
      | _, .error error => (.error error, capacity)
      | .ok active, .ok limit =>
          if limit ≤ active then (.ok none, capacity)
          else
            let lease : CapacityLease := ⟨attemptId, executorKey⟩
            (.ok (some lease), { capacity with
              activeByAttempt := capacity.activeByAttempt.set lease
              activeByExecutor := capacity.activeByExecutor.set (executorKey, active + 1) })

/-- `release`; the slot is taken back before the counter is checked. -/
def release (lease : CapacityLease) : Except Error Unit × CapacityManager :=
  match capacity.activeByAttempt.find? lease.attemptId with
  | none =>
      (.error (.capacityRelease
        ("attempt '" ++ lease.attemptId ++ "' does not own an active capacity slot")), capacity)
  | some registered =>
      if registered.executorKey ≠ lease.executorKey then
        (.error (.capacityRelease
          ("attempt '" ++ lease.attemptId ++ "' owns executor slot '" ++
            registered.executorKey ++ "', not '" ++ lease.executorKey ++ "'")), capacity)
      else
        let removed := { capacity with
          activeByAttempt :=
            capacity.activeByAttempt.filter fun held => held.attemptId ≠ lease.attemptId }
        match at? capacity.activeByExecutor lease.executorKey with
        | .error error => (.error error, removed)
        | .ok active =>
            let released := { removed with
              activeByExecutor :=
                capacity.activeByExecutor.set (lease.executorKey, active - 1) }
            if active - 1 < 0 then
              (.error (.capacityInvariant ("executor '" ++ lease.executorKey ++
                "' active slot count became negative")), released)
            else (.ok (), released)

end CapacityManager

/-- One call of the manager. -/
inductive CapacityCall where
  | tryAcquire (executorKey attemptId : String)
  | release (lease : CapacityLease)

namespace CapacityManager

/-- The manager after one call, whose error is caught. -/
def call (capacity : CapacityManager) : CapacityCall → CapacityManager
  | .tryAcquire executorKey attemptId => (capacity.tryAcquire executorKey attemptId).2
  | .release lease => (capacity.release lease).2

/-- The manager after some calls. -/
def run (capacity : CapacityManager) (calls : List CapacityCall) : CapacityManager :=
  calls.foldl call capacity

/-- The number of slots that an executor has given out. -/
def usage (capacity : CapacityManager) (executorKey : String) : Nat :=
  capacity.activeByAttempt.rows.countP fun lease => lease.executorKey = executorKey

/-- The arguments that `try_acquire` accepts. -/
structure Admissible (capacity : CapacityManager) (executorKey attemptId : String) : Prop where
  executor : isBlank executorKey = false
  attempt : isBlank attemptId = false
  known : capacity.executorLimits.contains executorKey = true
  fresh : capacity.activeByAttempt.contains attemptId = false

/-- A limit is reached for one more slot of an executor. -/
def Full (capacity : CapacityManager) (executorKey : String) : Prop :=
  capacity.globalLimit ≤ capacity.activeByAttempt.rows.length ∨
    ∃ limit, (executorKey, limit) ∈ capacity.executorLimits.rows ∧
      limit ≤ capacity.usage executorKey

/-- The manager with one more slot given out. -/
def granted (capacity : CapacityManager) (lease : CapacityLease) : CapacityManager :=
  { capacity with
    activeByAttempt := capacity.activeByAttempt.set lease
    activeByExecutor :=
      capacity.activeByExecutor.set (lease.executorKey, capacity.usage lease.executorKey + 1) }

/-- The manager with one slot taken back. -/
def returned (capacity : CapacityManager) (lease : CapacityLease) : CapacityManager :=
  { capacity with
    activeByAttempt :=
      capacity.activeByAttempt.filter fun held => held.attemptId ≠ lease.attemptId
    activeByExecutor :=
      capacity.activeByExecutor.set (lease.executorKey, capacity.usage lease.executorKey - 1) }

/-- Every counter counts the slots of its executor, and no limit is exceeded. -/
structure Sound (capacity : CapacityManager) : Prop where
  keys : capacity.activeByExecutor.rows.map Prod.fst = capacity.executorLimits.rows.map Prod.fst
  counted : ∀ entry ∈ capacity.activeByExecutor.rows, entry.2 = capacity.usage entry.1
  limited : ∀ limit ∈ capacity.executorLimits.rows, (capacity.usage limit.1 : Int) ≤ limit.2
  registered : ∀ lease ∈ capacity.activeByAttempt.rows,
    lease.executorKey ∈ capacity.executorLimits.rows.map Prod.fst
  global : (capacity.activeByAttempt.rows.length : Int) ≤ capacity.globalLimit

end CapacityManager

section Counting

theorem sum_indicator (keys : List String) (wanted : String) :
    (keys.map fun key => if wanted = key then 1 else 0).sum = keys.count wanted := by
  induction keys with
  | nil => rfl
  | cons key rest ih =>
      rw [List.map_cons, List.sum_cons, ih, List.count_cons, Nat.add_comm]
      by_cases hkey : wanted = key
      · simp [hkey]
      · have hkey' : ¬key = wanted := fun heq => hkey heq.symm
        simp [hkey, hkey']

/-- Each lease is counted for one of the keys. -/
theorem sum_countP {keys : List String} (hdistinct : keys.Nodup) (leases : List CapacityLease)
    (hkeys : ∀ lease ∈ leases, lease.executorKey ∈ keys) :
    (keys.map fun key => leases.countP fun lease => lease.executorKey = key).sum =
      leases.length := by
  induction leases with
  | nil => simp
  | cons lease rest ih =>
      have hrest := ih fun other hother => hkeys other (List.mem_cons_of_mem _ hother)
      have hsingle := List.count_eq_one_of_mem hdistinct (hkeys lease List.mem_cons_self)
      calc (keys.map fun key => (lease :: rest).countP fun other => other.executorKey = key).sum
          = (keys.map fun key => (rest.countP fun other => other.executorKey = key) +
              if lease.executorKey = key then 1 else 0).sum := by
            simp [List.countP_cons]
        _ = rest.length + 1 := by rw [List.sum_map_add, hrest, sum_indicator, hsingle]
        _ = (lease :: rest).length := rfl

end Counting

namespace CapacityManager

section Construction

variable {globalLimit : Int} {executorCapabilities : Table Capability.executorKey}
  {perExecutorLimits : ByExecutor} {capacity : CapacityManager}

theorem effectiveLimit_eq_ok {capability : Capability} {limit : String × Int}
    (hlimit : effectiveLimit perExecutorLimits capability = .ok limit) :
    limit.1 = capability.executorKey ∧ 1 ≤ limit.2 ∧ limit.2 ≤ capability.maxConcurrency := by
  obtain ⟨configured, hvalid, hlimit⟩ := bind_eq_ok hlimit
  cases hlimit
  have hconfigured : 1 ≤ configured := by
    rw [V1.CapacityManager.validatePositiveLimit] at hvalid
    split at hvalid
    · cases hvalid
    · cases hvalid
      omega
  have hpositive := capability.positive
  exact ⟨rfl, by simp only; omega, by simp only; omega⟩

theorem effectiveLimits_eq_ok {capabilities : List Capability} {limits : List (String × Int)}
    (hlimits : capabilities.mapM (effectiveLimit perExecutorLimits) = .ok limits) :
    limits.map Prod.fst = capabilities.map Capability.executorKey ∧
      ∀ limit ∈ limits, 1 ≤ limit.2 := by
  induction capabilities generalizing limits with
  | nil =>
      cases hlimits
      simp
  | cons capability rest ih =>
      rw [List.mapM_cons] at hlimits
      obtain ⟨limit, hlimit, hlimits⟩ := bind_eq_ok hlimits
      obtain ⟨others, hothers, hlimits⟩ := bind_eq_ok hlimits
      cases hlimits
      obtain ⟨hkey, hpositive, -⟩ := effectiveLimit_eq_ok hlimit
      obtain ⟨hkeys, hall⟩ := ih hothers
      exact ⟨by simp [hkey, hkeys], by simpa using ⟨hpositive, fun key other => hall (key, other)⟩⟩

theorem globalLimit_of_new
    (hnew : new globalLimit executorCapabilities perExecutorLimits = .ok capacity) :
    capacity.globalLimit = globalLimit := by
  obtain ⟨limit, hlimit, hnew⟩ := bind_eq_ok hnew
  have hsame : limit = globalLimit := by
    rw [V1.CapacityManager.validatePositiveLimit] at hlimit
    split at hlimit
    · cases hlimit
    · cases hlimit
      rfl
  split at hnew
  · cases hnew
  obtain ⟨_, -, hnew⟩ := bind_eq_ok hnew
  dsimp only at hnew
  split at hnew
  · cases hnew
  obtain ⟨_, -, hnew⟩ := bind_eq_ok hnew
  cases hnew
  exact hsame

/-- A fresh manager has no slot given out. -/
theorem sound_of_new
    (hnew : new globalLimit executorCapabilities perExecutorLimits = .ok capacity) :
    capacity.Sound := by
  obtain ⟨limit, hlimit, hnew⟩ := bind_eq_ok hnew
  have hpositive : 1 ≤ limit := by
    rw [V1.CapacityManager.validatePositiveLimit] at hlimit
    split at hlimit
    · cases hlimit
    · cases hlimit
      omega
  split at hnew
  · cases hnew
  obtain ⟨_, -, hnew⟩ := bind_eq_ok hnew
  dsimp only at hnew
  split at hnew
  · cases hnew
  obtain ⟨limits, hlimits, hnew⟩ := bind_eq_ok hnew
  cases hnew
  obtain ⟨hkeys, hall⟩ := effectiveLimits_eq_ok hlimits
  have hdistinct : (limits.map Prod.fst).Nodup := hkeys ▸ executorCapabilities.nodup
  have hzeros : (limits.map fun limit => (limit.1, (0 : Int))).map Prod.fst =
      limits.map Prod.fst := by
    rw [List.map_map]
    rfl
  have hcounts : (Table.ofList (limits.map fun limit => (limit.1, 0)) : ByExecutor).rows =
      limits.map fun limit => (limit.1, 0) :=
    Table.rows_ofList (hzeros ▸ hdistinct)
  have hbounds : (Table.ofList limits : ByExecutor).rows = limits := Table.rows_ofList hdistinct
  exact {
    keys := by rw [hcounts, hbounds, hzeros]
    counted := by
      intro entry hentry
      rw [hcounts] at hentry
      obtain ⟨limit, -, rfl⟩ := List.mem_map.mp hentry
      rfl
    limited := by
      intro limit hmem
      rw [hbounds] at hmem
      have hone := hall limit hmem
      change (0 : Int) ≤ limit.2
      omega
    registered := nofun
    global := by simpa using Int.le_trans (by decide) hpositive }

end Construction

theorem exists_at? {counts : ByExecutor} {executorKey : String}
    (hknown : counts.contains executorKey = true) :
    ∃ count, (executorKey, count) ∈ counts.rows ∧ at? counts executorKey = .ok count := by
  obtain ⟨⟨key, count⟩, hmem, hkey⟩ := (counts.contains_iff executorKey).mp hknown
  cases hkey
  have hfound : counts.find? key = some (key, count) := counts.find?_of_mem hmem
  exact ⟨count, hmem, by rw [at?, hfound]⟩

section Bookkeeping

variable {capacity : CapacityManager}

theorem Sound.known_iff (hsound : capacity.Sound) (executorKey : String) :
    capacity.activeByExecutor.contains executorKey = true ↔
      capacity.executorLimits.contains executorKey = true := by
  rw [Table.contains_iff, Table.contains_iff, ← List.mem_map, ← List.mem_map, hsound.keys]

/-- The counter of a known executor. -/
theorem Sound.at?_active (hsound : capacity.Sound) {executorKey : String}
    (hknown : capacity.executorLimits.contains executorKey = true) :
    at? capacity.activeByExecutor executorKey = .ok (capacity.usage executorKey) := by
  obtain ⟨count, hmem, hat⟩ := exists_at? ((hsound.known_iff executorKey).mpr hknown)
  have hcount : count = capacity.usage executorKey := hsound.counted (executorKey, count) hmem
  rw [hat, hcount]

/-- What `try_acquire` does. -/
theorem Sound.tryAcquire_cases (hsound : capacity.Sound) (executorKey attemptId : String) :
    (¬capacity.Admissible executorKey attemptId ∧
      ∃ error, capacity.tryAcquire executorKey attemptId = (.error error, capacity)) ∨
    (capacity.Admissible executorKey attemptId ∧ capacity.Full executorKey ∧
      capacity.tryAcquire executorKey attemptId = (.ok none, capacity)) ∨
    (capacity.Admissible executorKey attemptId ∧ ¬capacity.Full executorKey ∧
      capacity.tryAcquire executorKey attemptId =
        (.ok (some ⟨attemptId, executorKey⟩), capacity.granted ⟨attemptId, executorKey⟩)) := by
  by_cases hexecutor : isBlank executorKey = true
  · left
    exact ⟨fun hadmissible => by simp [hadmissible.executor] at hexecutor, _,
      by simp only [tryAcquire, validateIdentifier, if_pos hexecutor]; rfl⟩
  by_cases hattempt : isBlank attemptId = true
  · left
    exact ⟨fun hadmissible => by simp [hadmissible.attempt] at hattempt, _,
      by simp only [tryAcquire, validateIdentifier, if_neg hexecutor, if_pos hattempt]; rfl⟩
  by_cases hknown : capacity.executorLimits.contains executorKey = true
  swap
  · left
    exact ⟨fun hadmissible => hknown hadmissible.known, _, by
      simp only [tryAcquire, validateIdentifier, requireKnownExecutor, if_neg hexecutor,
        if_neg hattempt, if_neg hknown]
      rfl⟩
  by_cases hheld : capacity.activeByAttempt.contains attemptId = true
  · left
    exact ⟨fun hadmissible => by simp [hadmissible.fresh] at hheld, _, by
      simp only [tryAcquire, validateIdentifier, requireKnownExecutor, if_neg hexecutor,
        if_neg hattempt, if_pos hknown, if_pos hheld]
      rfl⟩
  right
  have hadmissible : capacity.Admissible executorKey attemptId :=
    ⟨by simpa using hexecutor, by simpa using hattempt, hknown, by simpa using hheld⟩
  obtain ⟨limit, hlimit, hat⟩ := exists_at? hknown
  have heq : capacity.tryAcquire executorKey attemptId =
      if capacity.globalLimit ≤ capacity.activeByAttempt.rows.length then (.ok none, capacity)
      else if limit ≤ capacity.usage executorKey then (.ok none, capacity)
      else (.ok (some ⟨attemptId, executorKey⟩),
        capacity.granted ⟨attemptId, executorKey⟩) := by
    simp only [tryAcquire, validateIdentifier, requireKnownExecutor, if_neg hexecutor,
      if_neg hattempt, if_pos hknown, if_neg hheld, hsound.at?_active hknown, hat]
    rfl
  by_cases hglobal : capacity.globalLimit ≤ capacity.activeByAttempt.rows.length
  · left
    exact ⟨hadmissible, Or.inl hglobal, by rw [heq, if_pos hglobal]⟩
  by_cases hbound : limit ≤ capacity.usage executorKey
  · left
    exact ⟨hadmissible, Or.inr ⟨limit, hlimit, hbound⟩,
      by rw [heq, if_neg hglobal, if_pos hbound]⟩
  · right
    have hfree : ¬capacity.Full executorKey := by
      rintro (hfull | ⟨other, hother, hfull⟩)
      · exact hglobal hfull
      · cases capacity.executorLimits.eq_of_mem hlimit hother rfl
        exact hbound hfull
    exact ⟨hadmissible, hfree, by rw [heq, if_neg hglobal, if_neg hbound]⟩

/-- What `release` does. -/
theorem Sound.release_cases (hsound : capacity.Sound) (lease : CapacityLease) :
    (lease ∉ capacity.activeByAttempt.rows ∧
      ∃ error, capacity.release lease = (.error error, capacity)) ∨
    (lease ∈ capacity.activeByAttempt.rows ∧
      capacity.release lease = (.ok (), capacity.returned lease)) := by
  cases hfound : capacity.activeByAttempt.find? lease.attemptId with
  | none =>
      left
      have habsent := (Table.find?_eq_none_iff _ _).mp hfound
      exact ⟨fun hmem => habsent lease hmem rfl, _, by simp only [release, hfound]; rfl⟩
  | some registered =>
      obtain ⟨hmem, hid⟩ := (Table.find?_eq_some_iff _ _ _).mp hfound
      by_cases hforeign : registered.executorKey ≠ lease.executorKey
      · left
        have hother : lease ∉ capacity.activeByAttempt.rows := by
          intro hlease
          cases capacity.activeByAttempt.eq_of_mem hmem hlease hid
          exact hforeign rfl
        exact ⟨hother, _, by simp only [release, hfound, if_pos hforeign]; rfl⟩
      · right
        have hsame : registered = lease := by
          cases registered
          cases lease
          simp_all
        subst hsame
        have hknown : capacity.executorLimits.contains registered.executorKey = true := by
          rw [Table.contains_iff, ← List.mem_map]
          exact hsound.registered registered hmem
        have hone : 0 < capacity.usage registered.executorKey := by
          rw [usage, List.countP_pos_iff]
          exact ⟨registered, hmem, by simp⟩
        have hcounted : ¬((capacity.usage registered.executorKey : Int) - 1 < 0) := by omega
        exact ⟨hmem, by
          simp only [release, hfound, if_neg hforeign, hsound.at?_active hknown, if_neg hcounted]
          rfl⟩

/-- Rewriting one counter. -/
theorem Sound.keys_set (hsound : capacity.Sound) {executorKey : String} (count : Int)
    (hknown : capacity.executorLimits.contains executorKey = true) :
    (capacity.activeByExecutor.set (executorKey, count)).rows.map Prod.fst =
      capacity.executorLimits.rows.map Prod.fst := by
  have hpresent : executorKey ∈ capacity.activeByExecutor.rows.map Prod.fst := by
    rw [List.mem_map, ← Table.contains_iff]
    exact (hsound.known_iff executorKey).mpr hknown
  calc (capacity.activeByExecutor.set (executorKey, count)).rows.map Prod.fst
      = capacity.activeByExecutor.rows.map Prod.fst :=
        (map_key_assignRow _ _ _).trans (if_pos hpresent)
    _ = capacity.executorLimits.rows.map Prod.fst := hsound.keys

theorem usage_granted {lease : CapacityLease}
    (hfresh : capacity.activeByAttempt.contains lease.attemptId = false) (executorKey : String) :
    (capacity.granted lease).usage executorKey =
      capacity.usage executorKey + if lease.executorKey = executorKey then 1 else 0 := by
  have habsent : capacity.activeByAttempt.find? lease.attemptId = none := by
    simpa [Table.contains] using hfresh
  have hrows : (capacity.granted lease).activeByAttempt.rows =
      capacity.activeByAttempt.rows ++ [lease] := Table.rows_set_of_absent _ habsent
  rw [usage, hrows, List.countP_append, usage, List.countP_singleton]
  simp only [decide_eq_true_eq]

theorem usage_returned {lease : CapacityLease} (hmem : lease ∈ capacity.activeByAttempt.rows)
    (executorKey : String) :
    capacity.usage executorKey = (capacity.returned lease).usage executorKey +
      if lease.executorKey = executorKey then 1 else 0 := by
  rw [usage, (capacity.activeByAttempt.perm_cons_filter hmem).countP_eq, List.countP_cons]
  simp only [decide_eq_true_eq]
  rfl

/-- Giving out a free slot. -/
theorem Sound.granted (hsound : capacity.Sound) {executorKey attemptId : String}
    (hadmissible : capacity.Admissible executorKey attemptId)
    (hfree : ¬capacity.Full executorKey) :
    (capacity.granted ⟨attemptId, executorKey⟩).Sound := by
  have husage : ∀ other, (capacity.granted ⟨attemptId, executorKey⟩).usage other =
      capacity.usage other + if executorKey = other then 1 else 0 :=
    usage_granted hadmissible.fresh
  have hrows : (capacity.granted ⟨attemptId, executorKey⟩).activeByAttempt.rows =
      capacity.activeByAttempt.rows ++ [⟨attemptId, executorKey⟩] :=
    Table.rows_set_of_absent _ (by simpa [Table.contains] using hadmissible.fresh)
  exact {
    keys := hsound.keys_set _ hadmissible.known
    counted := by
      intro entry hentry
      rw [husage]
      rcases (Table.mem_set _ _ _).mp hentry with rfl | ⟨hold, hother⟩
      · simp
      · have hne : ¬executorKey = entry.1 := fun heq => hother heq.symm
        rw [if_neg hne, Nat.add_zero]
        exact hsound.counted entry hold
    limited := by
      intro limit hlimit
      rw [husage]
      by_cases hsame : executorKey = limit.1
      · have hbound : ¬limit.2 ≤ capacity.usage executorKey := fun hreached =>
          hfree (Or.inr ⟨limit.2, hsame ▸ hlimit, hreached⟩)
        rw [if_pos hsame, ← hsame]
        omega
      · rw [if_neg hsame, Nat.add_zero]
        exact hsound.limited limit hlimit
    registered := by
      intro lease hlease
      rw [hrows, List.mem_append, List.mem_singleton] at hlease
      rcases hlease with hold | rfl
      · exact hsound.registered lease hold
      · rw [List.mem_map, ← Table.contains_iff]
        exact hadmissible.known
    global := by
      have hglobal : ¬capacity.globalLimit ≤ capacity.activeByAttempt.rows.length :=
        fun hreached => hfree (Or.inl hreached)
      rw [hrows, List.length_append, List.length_singleton]
      change _ ≤ capacity.globalLimit
      omega }

/-- Taking back a slot that was given out. -/
theorem Sound.returned (hsound : capacity.Sound) {lease : CapacityLease}
    (hmem : lease ∈ capacity.activeByAttempt.rows) : (capacity.returned lease).Sound := by
  have husage := usage_returned hmem
  have hknown : capacity.executorLimits.contains lease.executorKey = true := by
    rw [Table.contains_iff, ← List.mem_map]
    exact hsound.registered lease hmem
  have hfewer : (capacity.returned lease).activeByAttempt.rows ⊆ capacity.activeByAttempt.rows :=
    List.filter_subset_self _
  exact {
    keys := hsound.keys_set _ hknown
    counted := by
      intro entry hentry
      have hentryUsage := husage entry.1
      rcases (Table.mem_set _ _ _).mp hentry with rfl | ⟨hold, hother⟩
      · rw [if_pos rfl] at hentryUsage
        simp only at hentryUsage ⊢
        omega
      · have hne : ¬lease.executorKey = entry.1 := fun heq => hother heq.symm
        rw [if_neg hne, Nat.add_zero] at hentryUsage
        rw [← hentryUsage]
        exact hsound.counted entry hold
    limited := by
      intro limit hlimit
      have hbefore := hsound.limited limit hlimit
      have hlimitUsage := husage limit.1
      omega
    registered := fun held hheld => hsound.registered held (hfewer hheld)
    global := by
      have hbefore := hsound.global
      have hlength := List.length_filter_le
        (fun held : CapacityLease => decide (held.attemptId ≠ lease.attemptId))
        capacity.activeByAttempt.rows
      change ((capacity.activeByAttempt.rows.filter _).length : Int) ≤ capacity.globalLimit
      omega }

/-- Every call keeps the counters right, and the limits. -/
theorem Sound.call (hsound : capacity.Sound) (step : CapacityCall) :
    (capacity.call step).Sound ∧ (capacity.call step).globalLimit = capacity.globalLimit ∧
      (capacity.call step).executorLimits = capacity.executorLimits := by
  cases step with
  | tryAcquire executorKey attemptId =>
      rw [CapacityManager.call]
      rcases hsound.tryAcquire_cases executorKey attemptId with
        ⟨-, error, heq⟩ | ⟨-, -, heq⟩ | ⟨hadmissible, hfree, heq⟩
      · rw [heq]
        exact ⟨hsound, rfl, rfl⟩
      · rw [heq]
        exact ⟨hsound, rfl, rfl⟩
      · rw [heq]
        exact ⟨hsound.granted hadmissible hfree, rfl, rfl⟩
  | release lease =>
      rw [CapacityManager.call]
      rcases hsound.release_cases lease with ⟨-, error, heq⟩ | ⟨hmem, heq⟩
      · rw [heq]
        exact ⟨hsound, rfl, rfl⟩
      · rw [heq]
        exact ⟨hsound.returned hmem, rfl, rfl⟩

theorem Sound.run (hsound : capacity.Sound) (calls : List CapacityCall) :
    (capacity.run calls).Sound ∧ (capacity.run calls).globalLimit = capacity.globalLimit ∧
      (capacity.run calls).executorLimits = capacity.executorLimits := by
  induction calls generalizing capacity with
  | nil => exact ⟨hsound, rfl, rfl⟩
  | cons step rest ih =>
      obtain ⟨hstep, hglobal, hlimits⟩ := hsound.call step
      obtain ⟨hrest, hglobal', hlimits'⟩ := ih hstep
      exact ⟨hrest, hglobal'.trans hglobal, hlimits'.trans hlimits⟩

/-- The counters add up to the number of slots given out. -/
theorem Sound.total (hsound : capacity.Sound) :
    (capacity.activeByExecutor.rows.map Prod.snd).sum = capacity.activeByAttempt.rows.length := by
  have hcounts : capacity.activeByExecutor.rows.map Prod.snd =
      (capacity.activeByExecutor.rows.map Prod.fst).map fun key => (capacity.usage key : Int) := by
    rw [List.map_map]
    exact List.map_congr_left hsound.counted
  have hsum := sum_countP capacity.activeByExecutor.nodup capacity.activeByAttempt.rows
    (fun lease hlease => hsound.keys ▸ hsound.registered lease hlease)
  rw [hcounts, ← hsum, Nat.cast_list_sum, List.map_map, List.map_map, List.map_map]
  rfl

end Bookkeeping

/-- The manager of a runner with one executor, seen as a manager of any executors. -/
structure Mirrors (single : V1.CapacityManager) (capacity : CapacityManager) : Prop where
  globalLimit : capacity.globalLimit = single.globalLimit
  limits : capacity.executorLimits.rows = [(single.executorKey.value, single.executorLimit)]
  attempts : capacity.activeByAttempt.rows =
    single.activeByAttempt.rows.map fun lease => ⟨lease.attemptId.str, lease.executorKey.value⟩
  counter : capacity.activeByExecutor.rows = [(single.executorKey.value, single.activeByExecutor)]

section Mirroring

variable {single : V1.CapacityManager} {capacity : CapacityManager}

theorem Mirrors.contains (hmirrors : Mirrors single capacity) (attemptId : TaskAttemptId) :
    capacity.activeByAttempt.contains attemptId.str = single.activeByAttempt.contains attemptId := by
  rw [Table.contains, Table.contains, Table.find?_image hmirrors.attempts (fun _ => rfl)
    (fun _ _ => TaskAttemptId.str_injective), Option.isSome_map]

theorem Mirrors.at?_limit (hmirrors : Mirrors single capacity) :
    at? capacity.executorLimits single.executorKey.value = .ok single.executorLimit := by
  simp [at?, Table.find?, hmirrors.limits]

theorem Mirrors.at?_active (hmirrors : Mirrors single capacity) :
    at? capacity.activeByExecutor single.executorKey.value = .ok single.activeByExecutor := by
  simp [at?, Table.find?, hmirrors.counter]

theorem Mirrors.length (hmirrors : Mirrors single capacity) :
    capacity.activeByAttempt.rows.length = single.activeByAttempt.rows.length := by
  rw [hmirrors.attempts, List.length_map]

theorem Mirrors.rows_counter (hmirrors : Mirrors single capacity) (count : Int) :
    (capacity.activeByExecutor.set (single.executorKey.value, count)).rows =
      [(single.executorKey.value, count)] := by
  rw [Table.rows_set_of_present _ (by simp [hmirrors.counter]), hmirrors.counter]
  simp

/-- Acquiring a slot of the runner's executor. -/
theorem Mirrors.tryAcquire (hmirrors : Mirrors single capacity) (attemptId : TaskAttemptId) :
    match single.tryAcquire single.executorKey attemptId with
    | .error error =>
        capacity.tryAcquire single.executorKey.value attemptId.str = (.error error, capacity)
    | .ok none => capacity.tryAcquire single.executorKey.value attemptId.str = (.ok none, capacity)
    | .ok (some (lease, acquired)) =>
        (capacity.tryAcquire single.executorKey.value attemptId.str).1 =
          .ok (some ⟨lease.attemptId.str, lease.executorKey.value⟩) ∧
        Mirrors acquired (capacity.tryAcquire single.executorKey.value attemptId.str).2 := by
  have hknown : capacity.executorLimits.contains single.executorKey.value = true := by
    simp [Table.contains, Table.find?, hmirrors.limits]
  have hblank : isBlank attemptId.str = false := attemptId.value.notBlank
  have hcase : capacity.tryAcquire single.executorKey.value attemptId.str =
      if single.activeByAttempt.contains attemptId = true then
        (.error (.capacityInvariant
          ("attempt '" ++ attemptId.str ++ "' already owns a capacity slot")), capacity)
      else if single.globalLimit ≤ single.activeByAttempt.rows.length then (.ok none, capacity)
      else if single.executorLimit ≤ single.activeByExecutor then (.ok none, capacity)
      else (.ok (some ⟨attemptId.str, single.executorKey.value⟩), { capacity with
        activeByAttempt := capacity.activeByAttempt.set ⟨attemptId.str, single.executorKey.value⟩
        activeByExecutor := capacity.activeByExecutor.set
          (single.executorKey.value, single.activeByExecutor + 1) }) := by
    simp only [CapacityManager.tryAcquire, validateIdentifier, requireKnownExecutor,
      single.executorKey.notBlank, hblank, hknown, hmirrors.contains, hmirrors.length,
      hmirrors.globalLimit, hmirrors.at?_active, hmirrors.at?_limit]
    by_cases hheld : single.activeByAttempt.contains attemptId = true
    · rw [if_pos hheld, if_pos hheld]
      rfl
    · rw [if_neg hheld, if_neg hheld]
      rfl
  rw [hcase, V1.CapacityManager.tryAcquire, if_neg (not_not.mpr rfl)]
  by_cases hheld : single.activeByAttempt.contains attemptId = true
  · simp only [if_pos hheld]
  by_cases hglobal : single.globalLimit ≤ single.activeByAttempt.rows.length
  · simp only [if_neg hheld, if_pos hglobal]
  by_cases hlimit : single.executorLimit ≤ single.activeByExecutor
  · simp only [if_neg hheld, if_neg hglobal, if_pos hlimit]
  simp only [if_neg hheld, if_neg hglobal, if_neg hlimit, true_and]
  exact {
    globalLimit := hmirrors.globalLimit
    limits := hmirrors.limits
    attempts := Table.rows_set_image hmirrors.attempts (fun _ => rfl)
      (fun _ _ => TaskAttemptId.str_injective) ⟨attemptId, single.executorKey⟩
    counter := hmirrors.rows_counter _ }

/-- Releasing a lease that the runner holds. -/
theorem Mirrors.release (hmirrors : Mirrors single capacity) {lease : V1.CapacityLease}
    (hmem : lease ∈ single.activeByAttempt.rows) (hkey : lease.executorKey = single.executorKey)
    {released : V1.CapacityManager} (hreleased : single.release lease = .ok released) :
    (capacity.release ⟨lease.attemptId.str, lease.executorKey.value⟩).1 = .ok () ∧
      Mirrors released (capacity.release ⟨lease.attemptId.str, lease.executorKey.value⟩).2 := by
  have hfound : single.activeByAttempt.find? lease.attemptId = some lease :=
    Table.find?_of_mem _ hmem
  have himage : capacity.activeByAttempt.find? lease.attemptId.str =
      some ⟨lease.attemptId.str, lease.executorKey.value⟩ := by
    rw [Table.find?_image hmirrors.attempts (fun _ => rfl)
      (fun _ _ => TaskAttemptId.str_injective), hfound]
    rfl
  simp only [V1.CapacityManager.release, hfound, ne_eq, not_true_eq_false, if_false] at hreleased
  split at hreleased
  · cases hreleased
  next hcounted =>
  cases hreleased
  simp only [CapacityManager.release, himage, ne_eq, not_true_eq_false, if_false, hkey,
    hmirrors.at?_active, if_neg hcounted, true_and]
  have hrows : (capacity.activeByAttempt.rows.filter fun held =>
        held.attemptId ≠ lease.attemptId.str) =
      (single.activeByAttempt.rows.filter fun held => held.attemptId ≠ lease.attemptId).map
        fun held => ⟨held.attemptId.str, held.executorKey.value⟩ := by
    rw [hmirrors.attempts, List.filter_map]
    congr 1
    apply List.filter_congr
    intro held _
    simp [(show Function.Injective TaskAttemptId.str from
      fun _ _ => TaskAttemptId.str_injective).eq_iff]
  exact {
    globalLimit := hmirrors.globalLimit
    limits := hmirrors.limits
    attempts := hrows
    counter := hmirrors.rows_counter _ }

end Mirroring

end CapacityManager

end PyWorkflowKit.V1.Slots
