import PyWorkflowKit.Policies.Evaluation
import PyWorkflowKit.Runtime.Workflow
import PyWorkflowKit.V1.Runner

/-!
# Limits of time arithmetic

Deadlines and retry times are sums of a clock reading and a number of seconds.  They are
computed after the attempt they are about was persisted as running.
-/

namespace PyWorkflowKit.Domain

/-- The microseconds of `timedelta(seconds=value)`, whether or not it can represent them. -/
def Number.deltaMicros : Number → ℤ
  | .int seconds => seconds * 1000000
  | .float seconds =>
      match PyFloat.ofRat ((seconds - ⌊seconds⌋) * 1000000) with
      | .finite fraction => ⌊seconds⌋ * 1000000 + roundHalfEven fraction
      | .infinite => ⌊seconds⌋ * 1000000

theorem timedeltaSeconds_eq_ok_iff (value : Number) (delta : ℤ) :
    timedeltaSeconds value = .ok delta ↔
      delta = value.deltaMicros ∧ -maxDeltaDays ≤ value.deltaMicros / dayMicros ∧
        value.deltaMicros / dayMicros ≤ maxDeltaDays := by
  have hdelta : timedeltaSeconds value =
      if value.deltaMicros / dayMicros < -maxDeltaDays ∨
          maxDeltaDays < value.deltaMicros / dayMicros then
        .error (.overflowError ("days=" ++ toString (value.deltaMicros / dayMicros) ++
          "; must have magnitude <= 999999999"))
      else .ok value.deltaMicros := by
    cases value <;> rfl
  rw [hdelta]
  split
  · next hlarge =>
    constructor
    · intro hraised
      cases hraised
    · rintro ⟨-, hlower, hupper⟩
      omega
  · next hsmall =>
    rw [Except.ok.injEq]
    omega

theorem deltaMicros_nonneg {value : Number} (hvalue : 0 ≤ value.rat) :
    0 ≤ value.deltaMicros := by
  cases value with
  | int seconds =>
      have hseconds : 0 ≤ seconds := by
        have hcast : (0 : ℚ) ≤ seconds := hvalue
        exact_mod_cast hcast
      change 0 ≤ seconds * 1000000
      omega
  | float seconds =>
      have hfloor : 0 ≤ ⌊seconds⌋ := Int.floor_nonneg.mpr hvalue
      have hpart : 0 ≤ (seconds - ⌊seconds⌋) * 1000000 := by
        have hbelow := Int.floor_le seconds
        linarith
      have hrounded := PyFloat.ofRat_nonneg hpart
      simp only [Number.deltaMicros]
      split
      · next fraction hfraction =>
        rw [hfraction] at hrounded
        have hround := roundHalfEven_nonneg hrounded
        omega
      · omega

/-- A sum with a number of seconds is a datetime exactly up to the last one. -/
theorem exists_add?_iff {value : Number} (hvalue : 0 ≤ value.rat) (at_ : DateTime) :
    (∃ delta later, timedeltaSeconds value = .ok delta ∧ at_.add? delta = some later) ↔
      at_.localMicros + value.deltaMicros ≤ maxMicros := by
  have hnonneg := deltaMicros_nonneg hvalue
  have hlocal := at_.localRange
  constructor
  · rintro ⟨delta, later, hdelta, hlater⟩
    obtain ⟨rfl, -⟩ := (timedeltaSeconds_eq_ok_iff _ _).mp hdelta
    unfold DateTime.add? at hlater
    split at hlater
    · next hrange => exact hrange.2
    · cases hlater
  · intro hbelow
    refine ⟨value.deltaMicros, _, (timedeltaSeconds_eq_ok_iff _ _).mpr ⟨rfl, ?_, ?_⟩,
      dif_pos ⟨by omega, hbelow⟩⟩
    · exact (by decide : -maxDeltaDays ≤ 0).trans (Int.ediv_nonneg hnonneg (by decide))
    · apply Int.le_of_lt_add_one
      apply Int.ediv_lt_of_lt_mul (by decide)
      have hlast : maxMicros < (maxDeltaDays + 1) * dayMicros := by decide
      omega

end PyWorkflowKit.Domain

namespace PyWorkflowKit.V1

open PyWorkflowKit.Domain PyWorkflowKit.Policies

/-- The factor of the strategy is an integer that a float delay can be multiplied with. -/
def FactorConverts (policy : RetryPolicy) (attemptNumber : Nat) : Prop :=
  match policy.backoffStrategy, policy.delaySeconds.value with
  | .linear, .float _ => PyFloat.ofRat attemptNumber ≠ .infinite
  | .exponential, .float _ => attemptNumber ≤ 1024
  | _, _ => True

/-- The product of a delay and the factor of the strategy. -/
def multipliedDelay (delay : Number) (factor : ℤ) : Delay :=
  match delay with
  | .int seconds => .number (.int (seconds * factor))
  | .float seconds =>
      match (PyFloat.finite seconds).mul (.ofRat factor) with
      | .finite product => .number (.float product)
      | .infinite => .infinite

/-- The delay that the strategy asks for after a failed attempt, and no longer than the
longest one. -/
def cappedDelay (policy : RetryPolicy) (attemptNumber : Nat) : Delay :=
  let delay :=
    match policy.backoffStrategy with
    | .none => Delay.number (.float 0)
    | .fixed => Delay.number policy.delaySeconds.value
    | .linear => multipliedDelay policy.delaySeconds.value attemptNumber
    | .exponential => multipliedDelay policy.delaySeconds.value (2 ^ (attemptNumber - 1))
  delay.bounded policy.maxDelaySeconds

section Delays

variable {policy : RetryPolicy} {attemptNumber : Nat}

theorem scaledDelay_of_finite (delay : Number) {factor : ℤ}
    (hfinite : ∀ seconds, delay = .float seconds → PyFloat.ofRat factor ≠ .infinite) :
    scaledDelay delay factor = .ok (multipliedDelay delay factor) := by
  cases delay with
  | int seconds => rfl
  | float seconds =>
      unfold scaledDelay multipliedDelay
      simp only [toFloat_of_finite (hfinite seconds rfl)]
      split <;> simp_all

theorem scaledDelay_of_infinite {factor : ℤ} (hinfinite : PyFloat.ofRat factor = .infinite) :
    ∃ error, ∀ seconds, scaledDelay (.float seconds) factor = .error error := by
  refine ⟨.overflowError "int too large to convert to float", fun seconds => ?_⟩
  unfold scaledDelay
  simp only [toFloat_of_infinite hinfinite]

theorem ofRat_two_pow (exponent : Nat) :
    PyFloat.ofRat ((2 ^ exponent : ℤ) : ℚ) = .infinite ↔ 1024 ≤ exponent := by
  rw [Int.cast_pow, Int.cast_ofNat, ofRat_two_pow_eq_infinite_iff]

/-- The delay is the capped one, converted, if its factor converts. -/
theorem backoffDelay_of_converts (hconverts : FactorConverts policy attemptNumber) :
    backoffDelay policy attemptNumber = (cappedDelay policy attemptNumber).toFloat := by
  unfold FactorConverts at hconverts
  unfold backoffDelay cappedDelay
  cases hstrategy : policy.backoffStrategy with
  | none => rfl
  | fixed => rfl
  | linear =>
      have hscaled : scaledDelay policy.delaySeconds.value attemptNumber =
          .ok (multipliedDelay policy.delaySeconds.value attemptNumber) := by
        apply scaledDelay_of_finite
        intro seconds hfloat
        rw [hstrategy, hfloat] at hconverts
        simpa using hconverts
      simp only [hscaled]
      rfl
  | exponential =>
      have hscaled : scaledDelay policy.delaySeconds.value (2 ^ (attemptNumber - 1)) =
          .ok (multipliedDelay policy.delaySeconds.value (2 ^ (attemptNumber - 1))) := by
        apply scaledDelay_of_finite
        intro seconds hfloat
        rw [hstrategy, hfloat] at hconverts
        rw [Ne, ofRat_two_pow]
        simp only at hconverts
        omega
      simp only [hscaled]
      rfl

theorem backoffDelay_of_not_converts (hconverts : ¬ FactorConverts policy attemptNumber) :
    ∃ error, backoffDelay policy attemptNumber = .error error := by
  unfold FactorConverts at hconverts
  unfold backoffDelay
  split at hconverts
  · next seconds hstrategy hfloat =>
    have hinfinite : PyFloat.ofRat ((attemptNumber : ℤ) : ℚ) = .infinite := by
      simpa using not_not.mp hconverts
    obtain ⟨error, herror⟩ := scaledDelay_of_infinite hinfinite
    simp only [hstrategy, hfloat, herror seconds]
    exact ⟨_, rfl⟩
  · next seconds hstrategy hfloat =>
    have hinfinite : PyFloat.ofRat ((2 ^ (attemptNumber - 1) : ℤ) : ℚ) = .infinite :=
      (ofRat_two_pow _).mpr (by omega)
    obtain ⟨error, herror⟩ := scaledDelay_of_infinite hinfinite
    simp only [hstrategy, hfloat, herror seconds]
    exact ⟨_, rfl⟩
  · exact absurd trivial hconverts

end Delays

section Retries

variable {policy : RetryPolicy} {attemptNumber : Nat}

/-- The delay of a policy is not negative. -/
theorem rat_nonneg_of_cappedDelay {value : Number}
    (hdelay : cappedDelay policy attemptNumber = .number value) : 0 ≤ value.rat := by
  have hnonneg := policy.delaySeconds.nonneg
  have hproduct : ∀ (factor : ℤ) (product : Number), 0 ≤ factor →
      multipliedDelay policy.delaySeconds.value factor = .number product →
      0 ≤ product.rat := by
    intro factor product hfactor hmultiplied
    have hcast : (0 : ℚ) ≤ factor := by exact_mod_cast hfactor
    unfold multipliedDelay at hmultiplied
    cases hseconds : policy.delaySeconds.value with
    | int seconds =>
        rw [hseconds] at hmultiplied hnonneg
        cases hmultiplied
        change (0 : ℚ) ≤ ((seconds * factor : ℤ) : ℚ)
        rw [Int.cast_mul]
        exact mul_nonneg hnonneg hcast
    | float seconds =>
        rw [hseconds] at hmultiplied hnonneg
        have hfloat : ((PyFloat.finite seconds).mul (.ofRat factor)).Nonneg :=
          PyFloat.mul_nonneg hnonneg (PyFloat.ofRat_nonneg hcast)
        simp only at hmultiplied
        split at hmultiplied
        · next result hresult =>
          cases hmultiplied
          rw [hresult] at hfloat
          exact hfloat
        · cases hmultiplied
  have huncapped : ∀ (delay : Delay),
      (match policy.backoffStrategy with
        | .none => Delay.number (.float 0)
        | .fixed => Delay.number policy.delaySeconds.value
        | .linear => multipliedDelay policy.delaySeconds.value attemptNumber
        | .exponential => multipliedDelay policy.delaySeconds.value (2 ^ (attemptNumber - 1))) =
          delay → ∀ product, delay = .number product → 0 ≤ product.rat := by
    rintro delay hstrategy product rfl
    split at hstrategy
    · cases hstrategy
      exact le_refl (0 : ℚ)
    · cases hstrategy
      exact hnonneg
    · exact hproduct _ _ (by omega) hstrategy
    · exact hproduct _ _ (by positivity) hstrategy
  unfold cappedDelay Delay.bounded at hdelay
  simp only at hdelay
  split at hdelay
  · exact huncapped _ rfl value hdelay
  · next longest hlongest =>
    split at hdelay
    · cases hdelay
      exact longest.nonneg
    · next product hnumber =>
      split at hdelay
      · cases hdelay
        exact longest.nonneg
      · exact huncapped _ rfl value hdelay

/-- The capped delay is a float, and the clock reading plus this delay a datetime. -/
def RetryInRange (policy : RetryPolicy) (attemptNumber : Nat) (at_ : DateTime) : Prop :=
  FactorConverts policy attemptNumber ∧
    ∃ seconds, (cappedDelay policy attemptNumber).toFloat = .ok (.finite seconds) ∧
      at_.localMicros + (Number.float seconds).deltaMicros ≤ maxMicros

/-- The retry of a failed attempt is decided, and its time computed. -/
def RetryComputed (policy : RetryPolicy) (attemptNumber : Nat) (error : ExecutorError)
    (at_ : DateTime) : Prop :=
  ∃ decision eligibleAt, decideRetry policy attemptNumber error = .ok (some decision) ∧
    retryEligibleAt at_ decision = .ok eligibleAt

theorem decideRetry_of_allowed (errorType message : String) {category : String}
    (hattempts : attemptNumber < policy.maxAttempts)
    (hallowed : policy.retryableErrorCategories ≠ [] →
      category ∈ policy.retryableErrorCategories) :
    decideRetry policy attemptNumber (.taskExecution errorType message category) =
      (backoffDelay policy attemptNumber >>= fun delaySeconds =>
        RetryDecision.new delaySeconds (attemptNumber + 1) >>= fun decision =>
          .ok (some decision)) := by
  unfold decideRetry
  rw [if_neg (not_le.mpr hattempts)]
  simp only
  rw [if_neg fun hrefused => hrefused.2 (hallowed hrefused.1)]

/-- An allowed failure is not refused a retry. -/
theorem decideRetry_ne_none (errorType message : String) {category : String}
    (hattempts : attemptNumber < policy.maxAttempts)
    (hallowed : policy.retryableErrorCategories ≠ [] →
      category ∈ policy.retryableErrorCategories) :
    decideRetry policy attemptNumber (.taskExecution errorType message category) ≠
      .ok none := by
  rw [decideRetry_of_allowed errorType message hattempts hallowed]
  cases backoffDelay policy attemptNumber with
  | error error =>
      intro hnone
      cases hnone
  | ok delay =>
      change (RetryDecision.new delay (attemptNumber + 1) >>= fun decision =>
        (.ok (some decision) : Except Error (Option RetryDecision))) ≠ .ok none
      cases RetryDecision.new delay (attemptNumber + 1) with
      | error error =>
          intro hnone
          cases hnone
      | ok decision =>
          intro hnone
          cases hnone

theorem toFloat_nonneg {seconds : ℚ}
    (hfloat : (cappedDelay policy attemptNumber).toFloat = .ok (.finite seconds)) :
    0 ≤ seconds := by
  unfold Delay.toFloat at hfloat
  split at hfloat
  · cases hfloat
  · next value hvalue =>
    split at hfloat
    · cases hfloat
    · next converted hconverted =>
      cases hfloat
      obtain ⟨result, hresult, hnonneg⟩ :=
        Number.toFloat_eq_ok hconverted (rat_nonneg_of_cappedDelay hvalue)
      cases hresult
      exact hnonneg

theorem retryEligibleAt_eq_ok_iff {seconds : ℚ} (hseconds : 0 ≤ seconds) (at_ : DateTime)
    {decision : RetryDecision} (hdecision : decision.delaySeconds = .finite seconds) :
    (∃ eligibleAt, retryEligibleAt at_ decision = .ok eligibleAt) ↔
      at_.localMicros + (Number.float seconds).deltaMicros ≤ maxMicros := by
  rw [← exists_add?_iff (show 0 ≤ (Number.float seconds).rat from hseconds)]
  unfold retryEligibleAt
  rw [hdecision]
  simp only
  constructor
  · rintro ⟨eligibleAt, heligible⟩
    split at heligible
    · cases heligible
    · next micros hmicros =>
      split at heligible
      · cases heligible
      · next later hlater => exact ⟨micros, later, hmicros, hlater⟩
  · rintro ⟨delta, later, hdelta, hlater⟩
    rw [hdelta]
    simp only [hlater]
    exact ⟨later, rfl⟩

/-- The retry of an allowed failure is computed exactly if it is in range. -/
theorem retryComputed_iff (errorType message : String) {category : String} (at_ : DateTime)
    (hnumber : 1 ≤ attemptNumber) (hattempts : attemptNumber < policy.maxAttempts)
    (hallowed : policy.retryableErrorCategories ≠ [] →
      category ∈ policy.retryableErrorCategories) :
    RetryComputed policy attemptNumber (.taskExecution errorType message category) at_ ↔
      RetryInRange policy attemptNumber at_ := by
  have hlater : 2 ≤ attemptNumber + 1 := by omega
  unfold RetryComputed RetryInRange
  rw [decideRetry_of_allowed errorType message hattempts hallowed]
  by_cases hconverts : FactorConverts policy attemptNumber
  · rw [backoffDelay_of_converts hconverts]
    cases hdelay : (cappedDelay policy attemptNumber).toFloat with
    | error error =>
        constructor
        · rintro ⟨decision, eligibleAt, hdecided, -⟩
          cases hdecided
        · rintro ⟨-, seconds, hseconds, -⟩
          cases hseconds
    | ok delay =>
        have hdecided : (RetryDecision.new delay (attemptNumber + 1) >>= fun decision =>
            (.ok (some decision) : Except Error (Option RetryDecision))) =
              .ok (some ⟨delay, attemptNumber + 1, hlater⟩) := by
          unfold RetryDecision.new
          rw [dif_pos hlater]
          rfl
        change (∃ decision eligibleAt, (RetryDecision.new delay (attemptNumber + 1) >>=
          fun decision => (.ok (some decision) : Except Error (Option RetryDecision))) =
            .ok (some decision) ∧ _) ↔ _
        rw [hdecided]
        cases delay with
        | infinite =>
            constructor
            · rintro ⟨decision, eligibleAt, hsame, heligible⟩
              cases hsame
              cases heligible
            · rintro ⟨-, seconds, hseconds, -⟩
              cases hseconds
        | finite seconds =>
            have hrange := @retryEligibleAt_eq_ok_iff seconds (toFloat_nonneg hdelay) at_
              ⟨.finite seconds, attemptNumber + 1, hlater⟩ rfl
            constructor
            · rintro ⟨decision, eligibleAt, hsame, heligible⟩
              cases hsame
              exact ⟨hconverts, seconds, rfl, hrange.mp ⟨eligibleAt, heligible⟩⟩
            · rintro ⟨-, other, hother, hbelow⟩
              cases hother
              obtain ⟨eligibleAt, heligible⟩ := hrange.mpr hbelow
              exact ⟨_, eligibleAt, rfl, heligible⟩
  · obtain ⟨error, herror⟩ := backoffDelay_of_not_converts hconverts
    rw [herror]
    constructor
    · rintro ⟨decision, eligibleAt, hdecided, -⟩
      cases hdecided
    · rintro ⟨hfactor, -⟩
      exact absurd hfactor hconverts

/-- The clock shows one time, the executor raises one error, and nothing else happens. -/
def failingAt (at_ : DateTime) (error : ExecutorError) :
    Core.Contract Service Service.Answer World where
  drift _ before after := before = after
  allows _ service answer :=
    match service, answer with
    | .now, reading => reading = at_
    | .execute _ _, execution => execution = .failed error
    | _, _ => True
  guarantee _ _ := True
  enters _ _ := True

/-- An attempt that is running in the store stays so when its retry is not computed. -/
theorem stranded_of_retry {errorType message category : String} (at_ : DateTime) (world : World)
    (dispatch : Dispatch) (task : TaskDefinition) (taskRun : TaskRun) (taskRuns : TaskRuns)
    (inputs : List (TaskId × PyValue)) (rounds : Nat) (attempt : TaskAttempt) (last : Nat)
    (hattempts : attempt.attemptNumber < task.retryPolicy.maxAttempts)
    (hallowed : task.retryPolicy.retryableErrorCategories ≠ [] →
      category ∈ task.retryPolicy.retryableErrorCategories)
    (hrange : ¬ RetryInRange task.retryPolicy attempt.attemptNumber at_) :
    (executeWithRetry dispatch task taskRun taskRuns inputs (rounds + 1) attempt last).Meets
      (failingAt at_ (.taskExecution errorType message category))
      (Core.Program.Ends (fun _ _ => False) fun _ after => after = world) world := by
  have hcomputed := mt (retryComputed_iff errorType message at_ attempt.positive hattempts
    hallowed).mp hrange
  refine ⟨trivial, fun drifted hdrift execution hexecution => ?_⟩
  cases hdrift
  cases hexecution
  refine ⟨trivial, fun drifted hdrift reading hreading => ?_⟩
  cases hdrift
  cases hreading
  change Core.Program.Meets _ _ (Core.Program.bind (.ofExcept (attempt.fail at_ errorType _
    category)) _) world
  cases attempt.fail at_ errorType (if message = "" then errorType else message) category with
  | error error => rfl
  | ok failed =>
      change Core.Program.Meets _ _ (Core.Program.bind (.ofExcept (decideRetry task.retryPolicy
        attempt.attemptNumber (.taskExecution errorType message category))) _) world
      cases hdecided : decideRetry task.retryPolicy attempt.attemptNumber
          (.taskExecution errorType message category) with
      | error error => rfl
      | ok decision =>
          cases decision with
          | none => exact absurd hdecided (decideRetry_ne_none _ _ hattempts hallowed)
          | some decision =>
              change Core.Program.Meets _ _ (Core.Program.bind (.ofExcept
                (retryEligibleAt at_ decision)) _) world
              cases heligible : retryEligibleAt at_ decision with
              | error error => rfl
              | ok eligibleAt => exact absurd ⟨decision, eligibleAt, hdecided, heligible⟩ hcomputed

end Retries

end PyWorkflowKit.V1

namespace PyWorkflowKit.Runtime

open PyWorkflowKit.Core PyWorkflowKit.Domain PyWorkflowKit.Planning

/-- The clock shows one time, and nothing else happens. -/
def clockAt (at_ : DateTime) : Contract Service Service.Answer World where
  drift _ before after := before = after
  allows _ service answer :=
    match service, answer with
    | .now, reading => reading = some at_
    | _, _ => True
  guarantee _ _ := True
  enters _ _ := True

/-- The deadline of an attempt and the time of its retry are computed. -/
structure TimesComputed (entry : TaskPlanEntry) (policy : V1.RetryPolicy)
    (attemptNumber : Nat) (error : V1.ExecutorError) (at_ : DateTime) : Prop where
  deadline : ∀ world, (executionDeadline entry).Meets (clockAt at_)
    (Program.Ends (fun _ _ => True) fun _ _ => False) world
  retry : V1.RetryComputed policy attemptNumber error at_

/-- The timeout and the capped delay end no later than the last datetime. -/
structure TimesInRange (entry : TaskPlanEntry) (policy : V1.RetryPolicy)
    (attemptNumber : Nat) (at_ : DateTime) : Prop where
  timeout : ∀ timeout ∈ entry.timeoutPolicy.executionTimeout,
    at_.localMicros + timeout.deltaMicros ≤ maxMicros
  retry : V1.RetryInRange policy attemptNumber at_

theorem timeout_nonneg (entry : TaskPlanEntry) {timeout : Number}
    (htimeout : timeout ∈ entry.timeoutPolicy.executionTimeout) : 0 ≤ timeout.rat := by
  have hvalid := entry.timeoutPolicy.valid timeout htimeout
  unfold Policies.timeoutViolation at hvalid
  split at hvalid
  · cases hvalid
  · split at hvalid
    · cases hvalid
    · next hpositive => exact (not_le.mp hpositive).le

/-- The deadline is computed exactly if it is a datetime. -/
theorem executionDeadline_iff (entry : TaskPlanEntry) (at_ : DateTime) (world : World) :
    (executionDeadline entry).Meets (clockAt at_)
        (Program.Ends (fun _ _ => True) fun _ _ => False) world ↔
      ∀ timeout ∈ entry.timeoutPolicy.executionTimeout,
        at_.localMicros + timeout.deltaMicros ≤ maxMicros := by
  have hnonneg : ∀ timeout ∈ entry.timeoutPolicy.executionTimeout, 0 ≤ timeout.rat :=
    fun timeout => timeout_nonneg entry
  unfold executionDeadline
  cases htimeout : entry.timeoutPolicy.executionTimeout with
  | none => simp
  | some timeout =>
      have hsum := exists_add?_iff (hnonneg timeout (by simp [htimeout])) at_
      simp only [Option.mem_def, Option.some.injEq, forall_eq']
      rw [← hsum]
      constructor
      · rintro ⟨-, hreads⟩
        have hrest := hreads world rfl (some at_) rfl
        cases hdelta : timedeltaSeconds timeout with
        | error error =>
            rw [hdelta] at hrest
            exact absurd hrest id
        | ok delta =>
            simp only [hdelta, bind, pure, Program.bind, Program.ofExcept] at hrest
            cases hlater : at_.add? delta with
            | none =>
                rw [hlater] at hrest
                exact absurd hrest id
            | some later => exact ⟨delta, later, rfl, hlater⟩
      · rintro ⟨delta, later, hdelta, hlater⟩
        refine ⟨trivial, fun drifted _ reading hreading => ?_⟩
        cases hreading
        simp only [hdelta, bind, pure, Program.bind, Program.ofExcept, hlater]
        trivial

/-- An attempt that is running in the store stays so when its deadline is no datetime. -/
theorem stranded_of_deadline {α : Type} (entry : TaskPlanEntry) (at_ : DateTime) (world : World)
    {timeout : Number} (htimeout : timeout ∈ entry.timeoutPolicy.executionTimeout)
    (hlate : maxMicros < at_.localMicros + timeout.deltaMicros)
    (next : Option Instant → Procedure α) :
    (executionDeadline entry >>= next).Meets (clockAt at_)
      (Program.Ends (fun _ _ => False) fun _ last => last = world) world := by
  have hnone : ¬ ∃ delta later, timedeltaSeconds timeout = .ok delta ∧
      at_.add? delta = some later := by
    rw [exists_add?_iff (timeout_nonneg entry htimeout)]
    omega
  rw [Option.mem_def] at htimeout
  unfold executionDeadline
  rw [htimeout]
  refine ⟨trivial, fun drifted hdrift reading hreading => ?_⟩
  cases hdrift
  cases hreading
  cases hdelta : timedeltaSeconds timeout with
  | error error => rfl
  | ok delta =>
      simp only [bind, pure, Program.bind, Program.ofExcept]
      cases hlater : at_.add? delta with
      | none => rfl
      | some later => exact absurd ⟨delta, later, hdelta, hlater⟩ hnone

theorem not_mem_timedEntry : Text.lit "extract" ∉ ([] : List Text) :=
  List.not_mem_nil

/-- A planned task with a timeout. -/
def timedEntry (timeout : Policies.TimeoutPolicy) : TaskPlanEntry where
  task := {
    key := .lit "extract"
    workload := .localCallable (some "jobs") (some "extract")
    dependencies := []
    retryPolicy := .default
    timeoutPolicy := timeout
    triggerRule := .allSuccess
    isDeterministic := true
    distinct := List.nodup_nil
    notSelf := not_mem_timedEntry }
  position := 0
  groupIndex := 0
  executorRequirement := ⟨.lit "inline", .lit "python_callable", false⟩
  requiredIntegrations := []

/-- One immediate retry. -/
def immediateRetry : V1.RetryPolicy where
  maxAttempts := 2
  backoffStrategy := .none
  delaySeconds := .zero
  maxDelaySeconds := none
  retryableErrorCategories := []
  positive := by decide

/-- A timeout of a million million seconds. -/
def endlessTimeout : Policies.TimeoutPolicy where
  executionTimeout := some (.float 1000000000000)
  valid := by
    intro timeout htimeout
    cases htimeout
    norm_num [Policies.timeoutViolation, Number.toFloat, Number.rat]

/-- The first day of 2026. -/
def newYear : DateTime :=
  ⟨739616 * dayMicros, 0, by decide, DateTime.offsetRange_zero⟩

end PyWorkflowKit.Runtime
