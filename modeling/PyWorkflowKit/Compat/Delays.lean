import PyWorkflowKit.Policies.Evaluation
import PyWorkflowKit.V1.StateMachine

/-!
# Delays in exact arithmetic

What the retry engine of version 1 and the retry evaluator decide when their delays are not
rounded.  Where every number is a float, this is what they decide.
-/

namespace PyWorkflowKit.Domain

/-- A rational that is a float. -/
def IsFloat (value : ℚ) : Prop := PyFloat.ofRat value = .finite value

theorem Number.toFloat_of_isFloat {value : Number} (hfloat : IsFloat value.rat) :
    value.toFloat = .ok (.finite value.rat) := by
  cases value with
  | int value =>
      have hvalue : PyFloat.ofRat (value : ℚ) = .finite (value : ℚ) := hfloat
      simp only [toFloat, hvalue, rat]
  | float value => rfl

theorem Seconds.asFloat_of_isFloat {seconds : Seconds} (hfloat : IsFloat seconds.value.rat) :
    seconds.asFloat = .finite seconds.value.rat := by
  have hconverts := seconds.converts
  rw [Number.toFloat_of_isFloat hfloat] at hconverts
  exact (Except.ok.inj hconverts).symm

theorem isFloat_zero : IsFloat (Number.float 0).rat := rfl

/-- `min(delay, longest)`, if there is a longest delay. -/
def atMost (longest : Option Seconds) (delay : ℚ) : ℚ :=
  match longest with
  | none => delay
  | some longest => min delay longest.value.rat

theorem atMost_nonneg {longest : Option Seconds} {delay : ℚ} (hdelay : 0 ≤ delay) :
    0 ≤ atMost longest delay := by
  unfold atMost
  split
  · exact hdelay
  · next seconds => exact le_min hdelay seconds.nonneg

end PyWorkflowKit.Domain

namespace PyWorkflowKit.V1

open PyWorkflowKit.Domain PyWorkflowKit.Policies

/-- `_backoff_delay` in exact arithmetic. -/
def exactDelay (policy : RetryPolicy) (failedAttemptNumber : Nat) : ℚ :=
  atMost policy.maxDelaySeconds <|
    match policy.backoffStrategy with
    | .none => 0
    | .fixed => policy.delaySeconds.value.rat
    | .linear => policy.delaySeconds.value.rat * failedAttemptNumber
    | .exponential => policy.delaySeconds.value.rat * 2 ^ (failedAttemptNumber - 1)

/-- `RetryEngine.decide` in exact arithmetic: the delay before a retry, if there is one. -/
def decideExactly (policy : RetryPolicy) (attemptNumber : Nat) (error : ExecutorError) :
    Option ℚ :=
  if policy.maxAttempts ≤ attemptNumber then none
  else
    match error with
    | .other _ _ => none
    | .taskExecution _ _ errorCategory =>
        if policy.retryableErrorCategories ≠ [] ∧
            errorCategory ∉ policy.retryableErrorCategories then none
        else some (exactDelay policy attemptNumber)

/-- Every number that the delay is computed from is a float. -/
structure DelayIsFloat (policy : RetryPolicy) (attemptNumber : Nat) : Prop where
  initial : IsFloat policy.delaySeconds.value.rat
  longest : ∀ longest, policy.maxDelaySeconds = some longest → IsFloat longest.value.rat
  linear : policy.backoffStrategy = .linear →
    IsFloat attemptNumber ∧ IsFloat (policy.delaySeconds.value.rat * attemptNumber)
  exponential : policy.backoffStrategy = .exponential →
    IsFloat (2 ^ (attemptNumber - 1)) ∧
      IsFloat (policy.delaySeconds.value.rat * 2 ^ (attemptNumber - 1))

section Delays

variable {policy : RetryPolicy} {attemptNumber : Nat}

theorem scaledDelay_of_isFloat {delay : Number} {factor : ℤ}
    (hfactor : IsFloat factor) (hproduct : IsFloat (delay.rat * factor)) :
    ∃ product : Number, scaledDelay delay factor = .ok (.number product) ∧
      product.rat = delay.rat * factor := by
  cases delay with
  | int seconds =>
      refine ⟨.int (seconds * factor), rfl, ?_⟩
      exact Int.cast_mul seconds factor
  | float seconds =>
      have hconverts : (Number.int factor).toFloat = .ok (.finite factor) :=
        Number.toFloat_of_isFloat hfactor
      have hscaled : PyFloat.ofRat (seconds * factor) = .finite (seconds * factor) := hproduct
      refine ⟨.float (seconds * factor), ?_, rfl⟩
      simp only [scaledDelay, hconverts, PyFloat.mul, hscaled]

/-- A delay of floats is capped as it is. -/
theorem toFloat_bounded {value : Number} {longest : Option Seconds} (hvalue : IsFloat value.rat)
    (hlongest : ∀ seconds, longest = some seconds → IsFloat seconds.value.rat) :
    ((Delay.number value).bounded longest).toFloat = .ok (.finite (atMost longest value.rat)) := by
  have hconverts : ∀ {number : Number}, IsFloat number.rat →
      (Delay.number number).toFloat = .ok (.finite number.rat) := by
    intro number hnumber
    simp only [Delay.toFloat, Number.toFloat_of_isFloat hnumber]
  cases longest with
  | none => exact hconverts hvalue
  | some seconds =>
      unfold Delay.bounded atMost
      simp only
      split
      · next hexceeds =>
        rw [hconverts (hlongest seconds rfl), min_eq_right hexceeds.le]
      · next hbelow =>
        rw [hconverts hvalue, min_eq_left (not_lt.mp hbelow)]

theorem backoffDelay_eq_exact (hfloats : DelayIsFloat policy attemptNumber) :
    backoffDelay policy attemptNumber = .ok (.finite (exactDelay policy attemptNumber)) := by
  unfold backoffDelay exactDelay
  cases hstrategy : policy.backoffStrategy with
  | none => exact toFloat_bounded isFloat_zero hfloats.longest
  | fixed => exact toFloat_bounded hfloats.initial hfloats.longest
  | linear =>
      obtain ⟨hfactor, hproduct⟩ := hfloats.linear hstrategy
      rw [← Int.cast_natCast attemptNumber] at hfactor hproduct
      obtain ⟨product, hscaled, hrat⟩ := scaledDelay_of_isFloat hfactor hproduct
      rw [Int.cast_natCast] at hrat hproduct
      simp only [hscaled, ← hrat]
      exact toFloat_bounded (hrat ▸ hproduct) hfloats.longest
  | exponential =>
      obtain ⟨hfactor, hproduct⟩ := hfloats.exponential hstrategy
      have hpower : (2 : ℚ) ^ (attemptNumber - 1) = ((2 ^ (attemptNumber - 1) : ℤ) : ℚ) := by
        rw [Int.cast_pow, Int.cast_ofNat]
      rw [hpower] at hfactor hproduct
      obtain ⟨product, hscaled, hrat⟩ := scaledDelay_of_isFloat hfactor hproduct
      simp only [hscaled, hpower, ← hrat]
      exact toFloat_bounded (hrat ▸ hproduct) hfloats.longest

/-- Rounding does not change whether the engine decides against a retry. -/
theorem decideRetry_eq_none_iff {error : ExecutorError} :
    decideRetry policy attemptNumber error = .ok none ↔
      decideExactly policy attemptNumber error = none := by
  unfold decideRetry decideExactly
  split
  · exact iff_of_true rfl rfl
  cases error with
  | other typeName message => exact iff_of_true rfl rfl
  | taskExecution errorType message category =>
      simp only
      split
      · exact iff_of_true rfl rfl
      · refine iff_of_false ?_ (by simp)
        intro hnone
        obtain ⟨_, _, hnone⟩ := bind_eq_ok hnone
        obtain ⟨_, _, hnone⟩ := bind_eq_ok hnone
        cases hnone

/-- Where no number is rounded, the engine decides as in exact arithmetic. -/
theorem decideRetry_eq_exact (hnumber : 1 ≤ attemptNumber) (error : ExecutorError)
    (hfloats : DelayIsFloat policy attemptNumber) :
    ∃ decision, decideRetry policy attemptNumber error = .ok decision ∧
      decision.map RetryDecision.delaySeconds =
        (decideExactly policy attemptNumber error).map PyFloat.finite := by
  unfold decideRetry decideExactly
  split
  · exact ⟨none, rfl, rfl⟩
  cases error with
  | other typeName message => exact ⟨none, rfl, rfl⟩
  | taskExecution errorType message category =>
      simp only
      split
      · exact ⟨none, rfl, rfl⟩
      · have hlater : 2 ≤ attemptNumber + 1 := by omega
        simp only [backoffDelay_eq_exact hfloats, RetryDecision.new, dif_pos hlater]
        exact ⟨_, rfl, rfl⟩

end Delays

end PyWorkflowKit.V1

namespace PyWorkflowKit.Policies

open PyWorkflowKit.Core PyWorkflowKit.Domain

/-- `_delay` in exact arithmetic, before jitter. -/
def exactDelay (policy : RetryPolicy) (failedAttemptNumber : Int) : ℚ :=
  let initial := policy.initialDelaySeconds.value.rat
  atMost policy.maxDelaySeconds <|
    match policy.backoffStrategy with
    | .none => 0
    | .fixed => initial
    | .linear => initial * failedAttemptNumber
    | .exponential => initial * 2 ^ (failedAttemptNumber - 1).toNat

/-- `RetryEvaluator.evaluate` in exact arithmetic: the decision and its delay.  The number of
the attempt is positive, the elapsed time is not negative, and `draw` stays below its bound. -/
def evaluateExactly (draw : ℚ → ℚ) (policy : RetryPolicy) (failure : FailureEvidence)
    (attemptNumber : Int) (elapsedSeconds : ℚ) : RetryDecision × ℚ :=
  if Uncertain failure then
    (if policy.reconciliationRequired then .reconcile else .escalate, 0)
  else
    match refusal policy failure attemptNumber with
    | some _ => (.doNotRetry, 0)
    | none =>
        let bound := exactDelay policy attemptNumber
        let delaySeconds :=
          match policy.jitter with
          | .none => bound
          | .full => draw bound
        if ∃ budget ∈ policy.totalBudgetSeconds,
            budget.value.rat < elapsedSeconds + delaySeconds then (.doNotRetry, 0)
        else (.retry, delaySeconds)

section Evaluations

variable {policy : RetryPolicy} {attemptNumber : Int}

/-- Every number that the delay is computed from is a float. -/
structure DelayIsFloat (policy : RetryPolicy) (attemptNumber : Int) : Prop where
  initial : IsFloat policy.initialDelaySeconds.value.rat
  longest : ∀ longest, policy.maxDelaySeconds = some longest → IsFloat longest.value.rat
  linear : policy.backoffStrategy = .linear →
    IsFloat attemptNumber ∧ IsFloat (policy.initialDelaySeconds.value.rat * attemptNumber)
  exponential : policy.backoffStrategy = .exponential →
    IsFloat (2 ^ (attemptNumber - 1).toNat) ∧
      IsFloat (policy.initialDelaySeconds.value.rat * 2 ^ (attemptNumber - 1).toNat)

theorem min_finite (left right : ℚ) :
    (PyFloat.finite left).min (.finite right) = .finite (min left right) := by
  unfold PyFloat.min PyFloat.exceeds
  by_cases hexceeds : right < left
  · rw [if_pos (by simpa using hexceeds), min_eq_right hexceeds.le]
  · rw [if_neg (by simpa using hexceeds), min_eq_left (not_lt.mp hexceeds)]

theorem backoffDelay_eq_exact (hfloats : DelayIsFloat policy attemptNumber) :
    backoffDelay policy attemptNumber = .ok (.finite (exactDelay policy attemptNumber)) := by
  have hcapped : ∀ delay : ℚ,
      (match policy.maxDelaySeconds with
        | none => .ok (.finite delay)
        | some longest => .ok ((PyFloat.finite delay).min longest.asFloat)) =
          (.ok (.finite (atMost policy.maxDelaySeconds delay)) : Except PyError PyFloat) := by
    intro delay
    unfold atMost
    split
    · rfl
    · next longest hlongest =>
      rw [Seconds.asFloat_of_isFloat (hfloats.longest longest hlongest), min_finite]
  have hscaled : ∀ {factor : ℤ}, IsFloat factor →
      IsFloat (policy.initialDelaySeconds.value.rat * factor) →
      ∃ converted, (Number.int factor).toFloat = .ok converted ∧
        (PyFloat.finite policy.initialDelaySeconds.value.rat).mul converted =
          .finite (policy.initialDelaySeconds.value.rat * factor) :=
    fun hfactor hproduct => ⟨_, Number.toFloat_of_isFloat hfactor, hproduct⟩
  unfold backoffDelay exactDelay
  simp only [Seconds.asFloat_of_isFloat hfloats.initial]
  cases hstrategy : policy.backoffStrategy with
  | none => exact hcapped 0
  | fixed => exact hcapped _
  | linear =>
      obtain ⟨converted, hconverted, hproduct⟩ :=
        hscaled (hfloats.linear hstrategy).1 (hfloats.linear hstrategy).2
      simp only [hconverted, bind, Except.bind, hproduct]
      exact hcapped _
  | exponential =>
      have hpower : (2 : ℚ) ^ (attemptNumber - 1).toNat =
          ((2 ^ (attemptNumber - 1).toNat : ℤ) : ℚ) := by
        rw [Int.cast_pow, Int.cast_ofNat]
      have hexponential := hfloats.exponential hstrategy
      rw [hpower] at hexponential
      obtain ⟨converted, hconverted, hproduct⟩ := hscaled hexponential.1 hexponential.2
      simp only [hconverted, hpower, bind, Except.bind, hproduct]
      exact hcapped _

theorem exactDelay_nonneg (policy : RetryPolicy) (hnumber : 1 ≤ attemptNumber) :
    0 ≤ exactDelay policy attemptNumber := by
  have hinitial := policy.initialDelaySeconds.nonneg
  apply atMost_nonneg
  cases policy.backoffStrategy with
  | none => exact le_refl (0 : ℚ)
  | fixed => exact hinitial
  | linear => exact mul_nonneg hinitial (by exact_mod_cast (by omega : 0 ≤ attemptNumber))
  | exponential => exact mul_nonneg hinitial (by positivity)

variable {Call : Type} {Answer : Call → Type} {σ : Type}

/-- Where no number is rounded and no jitter or budget asked for, the evaluator decides as in
exact arithmetic. -/
theorem evaluate_eq_exact (fullJitter : RetryJitterSource Call Answer σ) (draw : ℚ → ℚ)
    (failure : FailureEvidence) {elapsed : ℚ} (hnumber : 1 ≤ attemptNumber)
    (helapsed : 0 ≤ elapsed) (hjitter : policy.jitter = .none)
    (hbudget : policy.totalBudgetSeconds = none) (hfloats : DelayIsFloat policy attemptNumber) :
    ∃ evaluated, evaluate fullJitter policy failure attemptNumber (.finite elapsed) =
        .ofExcept (.ok evaluated) ∧
      evaluated.decision = (evaluateExactly draw policy failure attemptNumber elapsed).1 ∧
      evaluated.delaySeconds =
        .finite (evaluateExactly draw policy failure attemptNumber elapsed).2 := by
  have hrecorded : ∀ decision reason {seconds : ℚ}, 0 ≤ seconds → ∃ evaluated,
      evaluation policy failure attemptNumber decision reason (.finite seconds)
        (.finite elapsed) = .ok evaluated ∧ evaluated.decision = decision ∧
      evaluated.delaySeconds = .finite seconds := by
    intro decision reason seconds hseconds
    apply evaluation_eq_ok failure decision reason hnumber hseconds helapsed
    simp [hbudget]
  unfold evaluate evaluateExactly Program.require
  rw [if_pos hnumber]
  simp only [floatViolation_eq_none _ helapsed]
  split
  · split
    · obtain ⟨evaluated, hevaluated, hdecision, hdelay⟩ := hrecorded .reconcile
        (.lit "uncertain_outcome_requires_reconciliation") (le_refl 0)
      exact ⟨evaluated, congrArg Program.ofExcept hevaluated, hdecision, hdelay⟩
    · obtain ⟨evaluated, hevaluated, hdecision, hdelay⟩ := hrecorded .escalate
        (.lit "uncertain_outcome_escalated") (le_refl 0)
      exact ⟨evaluated, congrArg Program.ofExcept hevaluated, hdecision, hdelay⟩
  · cases hrefusal : refusal policy failure attemptNumber with
    | some reason =>
        obtain ⟨evaluated, hevaluated, hdecision, hdelay⟩ :=
          hrecorded .doNotRetry reason (le_refl 0)
        exact ⟨evaluated, congrArg Program.ofExcept hevaluated, hdecision, hdelay⟩
    | none =>
        obtain ⟨evaluated, hevaluated, hdecision, hdelay⟩ := hrecorded .retry
          (.lit "structured_failure_retryable") (exactDelay_nonneg policy hnumber)
        have hcomputed : delay fullJitter policy attemptNumber =
            .ofExcept (.ok (.finite (exactDelay policy attemptNumber))) := by
          unfold delay
          rw [backoffDelay_eq_exact hfloats, hjitter]
          rfl
        have hwithin : overBudget policy (.finite elapsed)
            (.finite (exactDelay policy attemptNumber)) = false := by
          simp only [overBudget, hbudget]
        simp only [hcomputed, hjitter, hbudget]
        refine ⟨evaluated, ?_, by simpa using hdecision, by simpa using hdelay⟩
        change (if overBudget policy _ _ = true then _ else _) = _
        rw [hwithin, hevaluated]
        rfl

end Evaluations

end PyWorkflowKit.Policies
