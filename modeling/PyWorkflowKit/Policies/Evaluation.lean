import PyWorkflowKit.Policies.Retry

/-!
# Exactness of the retry evaluation

What the retry evaluator should decide about a failed attempt, and for which attempts
it comes to a decision at all.
-/

namespace PyWorkflowKit.Policies

open PyWorkflowKit.Core PyWorkflowKit.Domain

section Delays

/-- The delay that the strategy asks for after a failed attempt. -/
def uncappedDelay (policy : RetryPolicy) (attemptNumber : Int) : PyFloat :=
  let initial := policy.initialDelaySeconds.asFloat
  match policy.backoffStrategy with
  | .none => .finite 0
  | .fixed => initial
  | .linear => initial.mul (.ofRat attemptNumber)
  | .exponential => initial.mul (.ofRat (2 ^ (attemptNumber - 1).toNat))

/-- The delay of the strategy, or the longest one if that is shorter. -/
def cappedDelay (policy : RetryPolicy) (attemptNumber : Int) : PyFloat :=
  match policy.maxDelaySeconds with
  | none => uncappedDelay policy attemptNumber
  | some longest => (uncappedDelay policy attemptNumber).min longest.asFloat

/-- The factor of the strategy is an integer that some float is nearest to. -/
def FactorConverts (policy : RetryPolicy) (attemptNumber : Int) : Prop :=
  match policy.backoffStrategy with
  | .none | .fixed => True
  | .linear => PyFloat.ofRat attemptNumber ≠ .infinite
  | .exponential => attemptNumber ≤ 1024

theorem toFloat_of_finite {value : ℤ} (hfinite : PyFloat.ofRat value ≠ .infinite) :
    (Number.int value).toFloat = .ok (.ofRat value) := by
  simp only [Number.toFloat]
  split
  · next rounded hvalue => rw [hvalue]
  · next hvalue => exact absurd hvalue hfinite

theorem toFloat_of_infinite {value : ℤ} (hinfinite : PyFloat.ofRat value = .infinite) :
    (Number.int value).toFloat =
      .error (.overflowError "int too large to convert to float") := by
  simp only [Number.toFloat]
  split
  · next rounded hvalue =>
    rw [hinfinite] at hvalue
    cases hvalue
  · rfl

/-- A power of two is a float up to the greatest exponent. -/
theorem ofRat_two_pow_eq_infinite_iff (exponent : Nat) :
    PyFloat.ofRat (2 ^ exponent) = .infinite ↔ 1024 ≤ exponent := by
  constructor
  · intro hinfinite
    by_contra hsmall
    have hle : (2 : ℚ) ^ exponent ≤ PyFloat.largest := by
      calc
        (2 : ℚ) ^ exponent ≤ 2 ^ 1023 := pow_le_pow_right₀ (by norm_num) (by omega)
        _ = 2 ^ 52 * 2 ^ (971 : ℤ) := by
          rw [← zpow_natCast, ← zpow_natCast, ← zpow_add₀ two_ne_zero]
          norm_num
        _ ≤ PyFloat.largest := by
          apply mul_le_mul_of_nonneg_right _ (zpow_pos two_pos _).le
          norm_num
    obtain ⟨rounded, hrounded⟩ := PyFloat.ofRat_eq_finite hle
    rw [hinfinite] at hrounded
    cases hrounded
  · intro hlarge
    apply PyFloat.ofRat_eq_infinite
    exact pow_le_pow_right₀ (by norm_num) hlarge

variable {policy : RetryPolicy} {attemptNumber : Int}

theorem backoffDelay_eq_ok (hconverts : FactorConverts policy attemptNumber) :
    backoffDelay policy attemptNumber = .ok (cappedDelay policy attemptNumber) := by
  have hbounded : ∀ delay : PyFloat,
      (match policy.maxDelaySeconds with
        | none => .ok delay
        | some longest => .ok (delay.min longest.asFloat)) =
          (Except.ok (match policy.maxDelaySeconds with
            | none => delay
            | some longest => delay.min longest.asFloat) : Except PyError PyFloat) := by
    intro delay
    cases policy.maxDelaySeconds <;> rfl
  unfold FactorConverts at hconverts
  unfold backoffDelay cappedDelay uncappedDelay
  cases hstrategy : policy.backoffStrategy with
  | none => exact hbounded _
  | fixed => exact hbounded _
  | linear =>
      rw [hstrategy] at hconverts
      simp only [toFloat_of_finite hconverts]
      exact hbounded _
  | exponential =>
      rw [hstrategy] at hconverts
      have hpower : PyFloat.ofRat ((2 ^ (attemptNumber - 1).toNat : ℤ) : ℚ) ≠ .infinite := by
        rw [Int.cast_pow, Int.cast_ofNat, Ne, ofRat_two_pow_eq_infinite_iff]
        simp only at hconverts
        omega
      simp only [toFloat_of_finite hpower, Int.cast_pow, Int.cast_ofNat]
      exact hbounded _

theorem backoffDelay_eq_error (hconverts : ¬ FactorConverts policy attemptNumber) :
    ∃ error, backoffDelay policy attemptNumber = .error error := by
  unfold FactorConverts at hconverts
  unfold backoffDelay
  cases hstrategy : policy.backoffStrategy with
  | none => simp [hstrategy] at hconverts
  | fixed => simp [hstrategy] at hconverts
  | linear =>
      rw [hstrategy] at hconverts
      simp only [toFloat_of_infinite (not_not.mp hconverts)]
      exact ⟨_, rfl⟩
  | exponential =>
      rw [hstrategy] at hconverts
      have hpower : PyFloat.ofRat ((2 ^ (attemptNumber - 1).toNat : ℤ) : ℚ) = .infinite := by
        rw [Int.cast_pow, Int.cast_ofNat, ofRat_two_pow_eq_infinite_iff]
        simp only at hconverts
        omega
      simp only [toFloat_of_infinite hpower]
      exact ⟨_, rfl⟩

theorem uncappedDelay_nonneg (policy : RetryPolicy) (hnumber : 1 ≤ attemptNumber) :
    (uncappedDelay policy attemptNumber).Nonneg := by
  have hinitial := policy.initialDelaySeconds.asFloat_nonneg
  unfold uncappedDelay
  cases policy.backoffStrategy with
  | none => exact le_refl (0 : ℚ)
  | fixed => exact hinitial
  | linear =>
      apply PyFloat.mul_nonneg hinitial
      apply PyFloat.ofRat_nonneg
      exact_mod_cast (by omega : 0 ≤ attemptNumber)
  | exponential =>
      apply PyFloat.mul_nonneg hinitial
      exact PyFloat.ofRat_nonneg (by positivity)

theorem cappedDelay_nonneg (policy : RetryPolicy) (hnumber : 1 ≤ attemptNumber) :
    (cappedDelay policy attemptNumber).Nonneg := by
  have huncapped := uncappedDelay_nonneg policy hnumber
  unfold cappedDelay
  cases policy.maxDelaySeconds with
  | none => exact huncapped
  | some longest =>
      change (PyFloat.min _ _).Nonneg
      unfold PyFloat.min
      split
      · exact longest.asFloat_nonneg
      · exact huncapped

/-- The cap is kept. -/
theorem cappedDelay_le {longest : Seconds} (hlongest : policy.maxDelaySeconds = some longest) :
    (cappedDelay policy attemptNumber).exceeds longest.asFloat = false := by
  unfold cappedDelay
  simp only [hlongest]
  exact PyFloat.min_not_exceeds_right _ _

end Delays

section Evaluations

/-- The rules let an attempt be retried after a delay. -/
structure Retries (policy : RetryPolicy) (failure : FailureEvidence) (attemptNumber : Int)
    (elapsed delay : PyFloat) : Prop where
  known : failure.uncertainty = .known
  category : failure.category ≠ .unknownOutcome
  retryable : failure.retryability = .retryable
  attempts : attemptNumber < policy.maxAttempts
  allowed : policy.retryableFailureCategories ≠ [] →
    failure.category ∈ policy.retryableFailureCategories
  budget : overBudget policy elapsed delay = false

/-- What an evaluation should say: the decision of the rules on the delay of the strategy,
which a jitter source may have shortened. -/
structure Exact (policy : RetryPolicy) (failure : FailureEvidence) (attemptNumber : Int)
    (elapsed : PyFloat) (evaluated : RetryEvaluation) : Prop where
  decided : ∃ delay : PyFloat,
    (policy.jitter = .none → delay = cappedDelay policy attemptNumber) ∧
    delay.Nonneg ∧ delay.exceeds (cappedDelay policy attemptNumber) = false ∧
    (evaluated.decision = .retry ↔ Retries policy failure attemptNumber elapsed delay) ∧
    (evaluated.decision = .retry → evaluated.delaySeconds = delay)
  bounded : evaluated.decision = .retry → ∀ longest, policy.maxDelaySeconds = some longest →
    evaluated.delaySeconds.exceeds longest.asFloat = false

/-- The delay is a float, or a budget decides against it. -/
def DelayComputes (policy : RetryPolicy) (attemptNumber : Int) : Prop :=
  FactorConverts policy attemptNumber ∧
    (cappedDelay policy attemptNumber = .infinite →
      policy.jitter = .none ∧ policy.totalBudgetSeconds ≠ none)

section Returns

variable {policy : RetryPolicy} {failure : FailureEvidence} {attemptNumber : Int}

theorem floatViolation_eq_none (fieldName : String) {value : ℚ} (hvalue : 0 ≤ value) :
    floatViolation fieldName (.finite value) = none := by
  simp [floatViolation, not_lt.mpr hvalue]

theorem atLeastZero_finite (value : ℚ) :
    ∃ bounded, (PyFloat.finite value).atLeastZero = .finite bounded ∧ 0 ≤ bounded := by
  by_cases hpositive : 0 < value
  · exact ⟨value, if_pos hpositive, hpositive.le⟩
  · exact ⟨0, if_neg hpositive, le_refl 0⟩

/-- What the policy does not refuse may be retried. -/
theorem retryable_of_refusal (hcertain : ¬ Uncertain failure)
    (hrefusal : refusal policy failure attemptNumber = none) :
    attemptNumber < policy.maxAttempts ∧ failure.retryability = .retryable ∧
      (policy.retryableFailureCategories = [] ∨
        failure.category ∈ policy.retryableFailureCategories) := by
  unfold refusal at hrefusal
  split at hrefusal
  · cases hrefusal
  next hattempts =>
  split at hrefusal
  · cases hrefusal
  next hnonRetryable =>
  split at hrefusal
  · cases hrefusal
  next hunknown =>
  split at hrefusal
  · cases hrefusal
  next hcategory =>
  refine ⟨not_le.mp hattempts, ?_, ?_⟩
  · have hreconciliation : failure.retryability ≠ .retryableAfterReconciliation :=
      fun heq => hcertain (Or.inr (Or.inl heq))
    cases hretryability : failure.retryability <;> simp_all
  · by_cases hnone : policy.retryableFailureCategories = []
    · exact Or.inl hnone
    · exact Or.inr (not_not.mp fun habsent => hcategory ⟨hnone, habsent⟩)

/-- The rules retry what is certain, not refused and within the budget. -/
theorem retries_iff {elapsed delay : PyFloat} :
    Retries policy failure attemptNumber elapsed delay ↔
      ¬ Uncertain failure ∧ refusal policy failure attemptNumber = none ∧
        overBudget policy elapsed delay = false := by
  constructor
  · intro hretries
    refine ⟨?_, ?_, hretries.budget⟩
    · rintro (hopen | hreconciliation | hunknown)
      · exact hopen hretries.known
      · rw [hretries.retryable] at hreconciliation
        cases hreconciliation
      · exact hretries.category hunknown
    · unfold refusal
      rw [if_neg (not_le.mpr hretries.attempts), hretries.retryable, if_neg (by simp),
        if_neg (by simp), if_neg fun hrefused => hrefused.2 (hretries.allowed hrefused.1)]
  · rintro ⟨hcertain, hrefusal, hbudget⟩
    obtain ⟨hattempts, hretryable, hcategory⟩ := retryable_of_refusal hcertain hrefusal
    exact {
      known := not_not.mp fun hopen => hcertain (Or.inl hopen)
      category := fun hunknown => hcertain (Or.inr (Or.inr hunknown))
      retryable := hretryable
      attempts := hattempts
      allowed := fun hsome => hcategory.resolve_left hsome
      budget := hbudget }

/-- The evaluation of a finite delay is recorded. -/
theorem evaluation_eq_ok (failure : FailureEvidence) (decision : RetryDecision) (reason : Text)
    {seconds elapsed : ℚ} (hnumber : 1 ≤ attemptNumber) (hseconds : 0 ≤ seconds)
    (helapsed : 0 ≤ elapsed)
    (hbudgets : ∀ budget, policy.totalBudgetSeconds = some budget → ∀ total,
      budget.asFloat = .finite total → total ≤ PyFloat.largest) :
    ∃ evaluated, evaluation policy failure attemptNumber decision reason (.finite seconds)
        (.finite elapsed) = .ok evaluated ∧ evaluated.decision = decision ∧
      evaluated.delaySeconds = .finite seconds := by
  have hpositive : ¬ attemptNumber < 1 := by omega
  have hattempts : ¬ policy.maxAttempts < 1 := not_lt.mpr policy.positive
  unfold evaluation RetryEvaluation.new
  simp only [floatViolation_eq_none _ hseconds, if_neg hpositive, if_neg hattempts]
  cases hbudget : policy.totalBudgetSeconds with
  | none => exact ⟨_, rfl, rfl, rfl⟩
  | some budget =>
      obtain ⟨total, htotal, -⟩ := budget.asFloat_finite
      have hbelow : total - elapsed ≤ PyFloat.largest := by
        linarith [hbudgets budget hbudget total htotal]
      obtain ⟨rounded, hrounded⟩ := PyFloat.ofRat_eq_finite hbelow
      obtain ⟨bounded, hbounded, hnonneg⟩ := atLeastZero_finite rounded
      simp only [Option.map_some, htotal, hrounded, hbounded,
        floatViolation_eq_none _ hnonneg]
      exact ⟨_, rfl, rfl, rfl⟩

/-- An infinite delay is rejected by the constructor of the evaluation. -/
theorem evaluation_infinite (failure : FailureEvidence) (decision : RetryDecision)
    (reason : Text) (elapsed : PyFloat) :
    ∃ error, evaluation policy failure attemptNumber decision reason .infinite elapsed =
      .error error :=
  ⟨_, rfl⟩

/-- What is not a decision to retry is exact where the rules do not retry. -/
theorem exact_of_not_retry {elapsed : PyFloat} {evaluated : RetryEvaluation}
    {delay : PyFloat}
    (hjitter : policy.jitter = .none → delay = cappedDelay policy attemptNumber)
    (hnonneg : delay.Nonneg) (hbelow : delay.exceeds (cappedDelay policy attemptNumber) = false)
    (hdecision : evaluated.decision ≠ .retry)
    (hrules : ¬ Retries policy failure attemptNumber elapsed delay) :
    Exact policy failure attemptNumber elapsed evaluated where
  decided := ⟨delay, hjitter, hnonneg, hbelow, iff_of_false hdecision hrules,
    fun hretry => absurd hretry hdecision⟩
  bounded hretry := absurd hretry hdecision

end Returns

section Runs

variable {Call : Type} {Answer : Call → Type} {σ : Type}

/-- A jitter source that answers between zero and its bound. -/
def WithinBound (contract : Contract Call Answer σ)
    (fullJitter : RetryJitterSource Call Answer σ) : Prop :=
  ∀ bound : PyFloat, bound.Nonneg → ∀ state, (fullJitter bound).Meets contract
    (Program.Ends (fun delay _ => delay.Nonneg ∧ delay.exceeds bound = false)
      fun _ _ => False) state

/-- With every such jitter source the evaluation returns, and is exact. -/
def EvaluatesExactly (contract : Contract Call Answer σ) (state : σ) (policy : RetryPolicy)
    (failure : FailureEvidence) (attemptNumber : Int) (elapsed : ℚ) : Prop :=
  ∀ fullJitter, WithinBound contract fullJitter →
    (evaluate fullJitter policy failure attemptNumber (.finite elapsed)).Meets contract
      (Program.Ends (fun evaluated _ =>
        Exact policy failure attemptNumber (.finite elapsed) evaluated) fun _ _ => False) state

variable {contract : Contract Call Answer σ} {state : σ}
  {fullJitter : RetryJitterSource Call Answer σ}
  {policy : RetryPolicy} {failure : FailureEvidence} {attemptNumber : Int} {elapsed : ℚ}

theorem not_exceeds_infinite (value : PyFloat) : value.exceeds .infinite = false := by
  cases value <;> rfl

theorem not_exceeds_self (value : PyFloat) : value.exceeds value = false := by
  cases value <;> simp [PyFloat.exceeds]

/-- An infinite delay exceeds every budget. -/
theorem overBudget_infinite (hbudget : policy.totalBudgetSeconds ≠ none) (elapsed : PyFloat) :
    overBudget policy elapsed .infinite = true := by
  unfold overBudget
  cases htotal : policy.totalBudgetSeconds with
  | none => exact absurd htotal hbudget
  | some budget => cases elapsed <;> rfl

/-- The delay that a computable policy comes to. -/
theorem meets_delay (hsource : WithinBound contract fullJitter) (hnumber : 1 ≤ attemptNumber)
    (hcomputes : DelayComputes policy attemptNumber) :
    (delay fullJitter policy attemptNumber).Meets contract
      (Program.Ends (fun seconds _ =>
        (policy.jitter = .none → seconds = cappedDelay policy attemptNumber) ∧
          seconds.Nonneg ∧ seconds.exceeds (cappedDelay policy attemptNumber) = false ∧
          (seconds = .infinite → policy.totalBudgetSeconds ≠ none)) fun _ _ => False)
      state := by
  have hnonneg := cappedDelay_nonneg policy hnumber
  unfold delay
  rw [backoffDelay_eq_ok hcomputes.1]
  change Program.Meets contract _ (Program.bind (Program.done (.ok (cappedDelay _ _))) _) state
  cases hjitter : policy.jitter with
  | none =>
      exact ⟨fun _ => rfl, hnonneg, not_exceeds_self _,
        fun hinfinite => (hcomputes.2 hinfinite).2⟩
  | full =>
      have hfinite : cappedDelay policy attemptNumber ≠ .infinite := by
        intro hinfinite
        have hnone := (hcomputes.2 hinfinite).1
        rw [hjitter] at hnone
        cases hnone
      refine (hsource _ hnonneg state).bind (fun seconds after hseconds => ?_)
        (fun error after hfalse => hfalse)
      cases seconds with
      | infinite =>
          have hexceeds := hseconds.2
          cases hcapped : cappedDelay policy attemptNumber with
          | infinite => exact absurd hcapped hfinite
          | finite bound =>
              rw [hcapped] at hexceeds
              cases hexceeds
      | finite seconds =>
          simp only [floatViolation_eq_none _ hseconds.1, hseconds.2, Bool.false_eq_true,
            if_false]
          refine ⟨fun hnone => ?_, hseconds.1, hseconds.2, fun hinfinite => ?_⟩
          · cases hnone
          · cases hinfinite

/-- A computable policy is evaluated, and exactly. -/
theorem evaluatesExactly_of_computes (hnumber : 1 ≤ attemptNumber) (helapsed : 0 ≤ elapsed)
    (hbudgets : ∀ budget, policy.totalBudgetSeconds = some budget → ∀ total,
      budget.asFloat = .finite total → total ≤ PyFloat.largest)
    (hcomputes : ¬ Uncertain failure → refusal policy failure attemptNumber = none →
      DelayComputes policy attemptNumber) :
    EvaluatesExactly contract state policy failure attemptNumber elapsed := by
  intro fullJitter hsource
  have hcapped := cappedDelay_nonneg policy hnumber
  -- an attempt that the rules do not retry is evaluated without a delay
  have hother : ∀ decision reason delay, decision ≠ RetryDecision.retry →
      (policy.jitter = .none → delay = cappedDelay policy attemptNumber) → delay.Nonneg →
      delay.exceeds (cappedDelay policy attemptNumber) = false →
      ¬ Retries policy failure attemptNumber (.finite elapsed) delay → ∀ current,
      (Program.ofExcept (evaluation policy failure attemptNumber decision reason (.finite 0)
        (.finite elapsed)) : Program Call Answer PyError σ RetryEvaluation).Meets contract
        (Program.Ends (fun evaluated _ =>
          Exact policy failure attemptNumber (.finite elapsed) evaluated) fun _ _ => False)
        current := by
    intro decision reason delay hdecision hjitter hnonneg hbelow hrules current
    obtain ⟨evaluated, hevaluated, hsame, -⟩ := evaluation_eq_ok failure decision reason
      hnumber (le_refl 0) helapsed hbudgets
    rw [hevaluated]
    exact exact_of_not_retry hjitter hnonneg hbelow (hsame ▸ hdecision) hrules
  unfold evaluate
  rw [Program.meets_bind, Program.meets_require]
  refine ⟨fun _ => ?_, fun hsmall => absurd hnumber hsmall⟩
  simp only [Program.hands_ok, floatViolation_eq_none _ helapsed]
  split
  · next huncertain =>
    have hrules : ¬ Retries policy failure attemptNumber (.finite elapsed)
        (cappedDelay policy attemptNumber) := fun hretries =>
      (retries_iff.mp hretries).1 huncertain
    split
    · exact hother _ _ _ (by simp) (fun _ => rfl) hcapped (not_exceeds_self _) hrules _
    · exact hother _ _ _ (by simp) (fun _ => rfl) hcapped (not_exceeds_self _) hrules _
  · next hcertain =>
    split
    · next reason hrefusal =>
      refine hother _ _ _ (by simp) (fun _ => rfl) hcapped (not_exceeds_self _)
        (fun hretries => ?_) _
      rw [(retries_iff.mp hretries).2.1] at hrefusal
      cases hrefusal
    · next hrefusal =>
      refine (meets_delay hsource hnumber (hcomputes hcertain hrefusal)).bind
        (fun delay after hdelay => ?_) (fun error after hfalse => hfalse)
      obtain ⟨hjitter, hnonneg, hbelow, hbounded⟩ := hdelay
      cases hbudget : overBudget policy (.finite elapsed) delay with
      | true =>
          apply hother _ _ delay (by simp) hjitter hnonneg hbelow
          intro hretries
          rw [hretries.budget] at hbudget
          cases hbudget
      | false =>
          cases delay with
          | infinite =>
              rw [overBudget_infinite (hbounded rfl)] at hbudget
              cases hbudget
          | finite seconds =>
              obtain ⟨evaluated, hevaluated, hdecision, hsame⟩ :=
                evaluation_eq_ok failure .retry (.lit "structured_failure_retryable")
                  hnumber hnonneg helapsed hbudgets
              simp only [Bool.false_eq_true, if_false, hevaluated]
              refine ⟨⟨_, hjitter, hnonneg, hbelow, ?_, fun _ => hsame⟩,
                fun _ longest hlongest => ?_⟩
              · exact iff_of_true hdecision (retries_iff.mpr ⟨hcertain, hrefusal, hbudget⟩)
              · rw [hsame]
                exact PyFloat.exceeds_trans hbelow (cappedDelay_le hlongest)

/-- A delay that is not computed is raised as an error. -/
theorem computes_of_evaluatesExactly (hnumber : 1 ≤ attemptNumber) (helapsed : 0 ≤ elapsed)
    (hexact : EvaluatesExactly contract state policy failure attemptNumber elapsed)
    (hcertain : ¬ Uncertain failure) (hrefusal : refusal policy failure attemptNumber = none) :
    DelayComputes policy attemptNumber := by
  -- the source that draws the longest delay it may
  have hmeets := hexact (fun bound => pure bound) fun bound hbound current =>
    ⟨hbound, not_exceeds_self bound⟩
  unfold evaluate at hmeets
  rw [Program.meets_bind, Program.meets_require] at hmeets
  have hrest := hmeets.1 hnumber
  simp only [Program.hands_ok, floatViolation_eq_none _ helapsed, if_neg hcertain,
    hrefusal] at hrest
  rw [Program.meets_bind] at hrest
  by_contra hfails
  unfold delay at hrest
  by_cases hconverts : FactorConverts policy attemptNumber
  · have hinfinite : cappedDelay policy attemptNumber = .infinite ∧
        ¬ (policy.jitter = .none ∧ policy.totalBudgetSeconds ≠ none) := by
      rw [← Classical.not_imp]
      exact fun hbudget => hfails ⟨hconverts, hbudget⟩
    rw [backoffDelay_eq_ok hconverts, hinfinite.1] at hrest
    cases hjitter : policy.jitter with
    | full =>
        simp only [hjitter] at hrest
        exact hrest
    | none =>
        have hbudget : policy.totalBudgetSeconds = none :=
          not_not.mp fun hsome => hinfinite.2 ⟨hjitter, hsome⟩
        simp only [hjitter] at hrest
        change Program.Meets contract _ (if overBudget policy (.finite elapsed) .infinite = true
          then _ else _) state at hrest
        rw [if_neg (by simp [overBudget, hbudget])] at hrest
        exact hrest
  · obtain ⟨error, herror⟩ := backoffDelay_eq_error hconverts
    rw [herror] at hrest
    exact hrest

/-- Nobody is called and nothing changes. -/
def silent : Contract Empty (fun _ => Unit) Unit where
  drift _ _ _ := True
  allows _ _ _ := True
  guarantee _ _ := True
  enters _ _ := True

/-- A failure that may be retried. -/
def transientFailure : FailureEvidence where
  errorCode := .lit "provider_unavailable"
  category := .externalProvider
  retryability := .retryable
  uncertainty := .known
  correlationId := ⟨.lit "correlation-1"⟩
  sourceFramework := .lit "pyworkflowkit"
  workflowRunId := none
  taskRunId := none
  taskAttemptId := none
  externalRun := none
  sourceComponent := none
  providerCode := none
  messageSummary := none
  occurredAt := .first
  details := []
  contractVersion := .lit "1"

theorem nonneg_oneSecond : 0 ≤ (Number.float 1).rat := by
  decide

theorem converts_oneSecond : (Number.float 1).toFloat = .ok (.finite 1) :=
  rfl

/-- Exponential backoff of one second at first. -/
def steepPolicy : RetryPolicy where
  maxAttempts := 2000
  backoffStrategy := .exponential
  initialDelaySeconds := ⟨.float 1, nonneg_oneSecond, .finite 1, converts_oneSecond⟩
  maxDelaySeconds := some ⟨.float 60, by decide, .finite 60, rfl⟩
  jitter := .none
  retryableFailureCategories := []
  totalBudgetSeconds := none
  reconciliationRequired := true
  positive := by decide

end Runs

end Evaluations

end PyWorkflowKit.Policies
