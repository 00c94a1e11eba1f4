import PyWorkflowKit.Core.Program
import PyWorkflowKit.Domain.Evidence
import PyWorkflowKit.Domain.Number

/-!
# Retry policy

The declared retry policy of a task and its evaluation on the failure of one
attempt.  The jitter source is a program, because it draws random numbers.
-/

namespace PyWorkflowKit.Policies

open PyWorkflowKit.Core PyWorkflowKit.Domain

inductive BackoffStrategy where
  | none
  | fixed
  | linear
  | exponential
deriving DecidableEq, Repr

def BackoffStrategy.value : BackoffStrategy → String
  | none => "NONE"
  | fixed => "FIXED"
  | linear => "LINEAR"
  | exponential => "EXPONENTIAL"

inductive RetryDecision where
  | retry
  | doNotRetry
  | reconcile
  | abort
  | cancel
  | escalate
deriving DecidableEq, Repr

def RetryDecision.value : RetryDecision → String
  | retry => "retry"
  | doNotRetry => "do_not_retry"
  | reconcile => "reconcile"
  | abort => "abort"
  | cancel => "cancel"
  | escalate => "escalate"

inductive RetryJitter where
  | none
  | full
deriving DecidableEq, Repr

def RetryJitter.value : RetryJitter → String
  | none => "none"
  | full => "full"

/-- Immutable workload-level retry declaration; the initial attempt counts. -/
structure RetryPolicy where
  maxAttempts : Nat
  backoffStrategy : BackoffStrategy
  initialDelaySeconds : Seconds
  maxDelaySeconds : Option Seconds
  jitter : RetryJitter
  retryableFailureCategories : List FailureCategory
  totalBudgetSeconds : Option Seconds
  reconciliationRequired : Bool
  positive : 1 ≤ maxAttempts
deriving DecidableEq

/-- `RetryPolicy()`. -/
def RetryPolicy.default : RetryPolicy where
  maxAttempts := 1
  backoffStrategy := .none
  initialDelaySeconds := .zero
  maxDelaySeconds := none
  jitter := .none
  retryableFailureCategories := []
  totalBudgetSeconds := none
  reconciliationRequired := true
  positive := Nat.one_pos

/-- Structured evidence explaining one retry disposition. -/
structure RetryEvaluation where
  decision : RetryDecision
  reason : Text
  delaySeconds : PyFloat
  attemptNumber : Int
  maxAttempts : Nat
  failureCategory : FailureCategory
  retryability : Retryability
  uncertainty : OutcomeUncertainty
  budgetRemainingSeconds : Option PyFloat
deriving DecidableEq

/-- `_validate_non_negative_number` on a float. -/
def floatViolation (fieldName : String) : PyFloat → Option PyError
  | .infinite => some (.valueError (fieldName ++ " must be finite"))
  | .finite value =>
      if value < 0 then
        some (.valueError (fieldName ++ " must be greater than or equal to 0"))
      else none

/-- The checks of the `RetryEvaluation` constructor. -/
def RetryEvaluation.new (evaluation : RetryEvaluation) :
    Except PyError RetryEvaluation :=
  match floatViolation "delay_seconds" evaluation.delaySeconds with
  | some error => .error error
  | none =>
      if evaluation.attemptNumber < 1 then
        .error (.valueError "attempt_number must be greater than or equal to 1")
      else if evaluation.maxAttempts < 1 then
        .error (.valueError "max_attempts must be greater than or equal to 1")
      else
        match evaluation.budgetRemainingSeconds with
        | none => .ok evaluation
        | some remaining =>
            match floatViolation "budget_remaining_seconds" remaining with
            | some error => .error error
            | none => .ok evaluation

/-- `_evaluation`. -/
def evaluation (policy : RetryPolicy) (failure : FailureEvidence)
    (attemptNumber : Int) (decision : RetryDecision) (reason : Text)
    (delaySeconds elapsedSeconds : PyFloat) : Except PyError RetryEvaluation :=
  RetryEvaluation.new {
    decision := decision
    reason := reason
    delaySeconds := delaySeconds
    attemptNumber := attemptNumber
    maxAttempts := policy.maxAttempts
    failureCategory := failure.category
    retryability := failure.retryability
    uncertainty := failure.uncertainty
    budgetRemainingSeconds := policy.totalBudgetSeconds.map fun budget =>
      match budget.asFloat, elapsedSeconds with
      | .finite total, .finite elapsed => (PyFloat.ofRat (total - elapsed)).atLeastZero
      | _, _ => .infinite }

/-- The delay of the backoff strategy after a failed attempt, before jitter. -/
def backoffDelay (policy : RetryPolicy) (failedAttemptNumber : Int) :
    Except PyError PyFloat := do
  let initial := policy.initialDelaySeconds.asFloat
  let delay ←
    match policy.backoffStrategy with
    | .none => .ok (.finite 0)
    | .fixed => .ok initial
    | .linear => do
        let factor ← (Number.int failedAttemptNumber).toFloat
        .ok (initial.mul factor)
    | .exponential => do
        let factor ← (Number.int (2 ^ (failedAttemptNumber - 1).toNat)).toFloat
        .ok (initial.mul factor)
  match policy.maxDelaySeconds with
  | none => .ok delay
  | some longest => .ok (delay.min longest.asFloat)

/-- The failure leaves the outcome of the attempt open. -/
def Uncertain (failure : FailureEvidence) : Prop :=
  failure.uncertainty ≠ .known ∨
    failure.retryability = .retryableAfterReconciliation ∨
    failure.category = .unknownOutcome

instance (failure : FailureEvidence) : Decidable (Uncertain failure) := by
  unfold Uncertain
  infer_instance

/-- Why a failure with a known outcome is not retried, before its delay is
considered. -/
def refusal (policy : RetryPolicy) (failure : FailureEvidence) (attemptNumber : Int) :
    Option Text :=
  if policy.maxAttempts ≤ attemptNumber then some (.lit "max_attempts_exhausted")
  else if failure.retryability = .nonRetryable then
    some (.lit "failure_marked_non_retryable")
  else if failure.retryability = .unknown then some (.lit "retryability_unknown")
  else if policy.retryableFailureCategories ≠ [] ∧
      failure.category ∉ policy.retryableFailureCategories then
    some (.lit "failure_category_not_retryable")
  else none

section Evaluator

variable {Call : Type} {Answer : Call → Type} {σ : Type}

/-- Entropy source used only when a retry policy requests jitter. -/
abbrev RetryJitterSource (Call : Type) (Answer : Call → Type) (σ : Type) :=
  PyFloat → Program Call Answer PyError σ PyFloat

/-- `_delay`. -/
def delay (fullJitter : RetryJitterSource Call Answer σ) (policy : RetryPolicy)
    (failedAttemptNumber : Int) : Program Call Answer PyError σ PyFloat := do
  let bound ← .ofExcept (backoffDelay policy failedAttemptNumber)
  match policy.jitter with
  | .none => pure bound
  | .full => do
      let delay ← fullJitter bound
      match floatViolation "jitter delay" delay with
      | some error => .raise error
      | none =>
          if delay.exceeds bound then
            .raise (.valueError "jitter delay must not exceed its upper bound")
          else pure delay

/-- The total budget of the policy is exceeded by waiting `delaySeconds`. -/
def overBudget (policy : RetryPolicy) (elapsedSeconds delaySeconds : PyFloat) : Bool :=
  match policy.totalBudgetSeconds with
  | none => false
  | some budget =>
      (elapsedSeconds.add delaySeconds).exceeds (.finite budget.value.rat)

/-- `RetryEvaluator.evaluate`. -/
def evaluate (fullJitter : RetryJitterSource Call Answer σ) (policy : RetryPolicy)
    (failure : FailureEvidence) (attemptNumber : Int) (elapsedSeconds : PyFloat) :
    Program Call Answer PyError σ RetryEvaluation := do
  .require (1 ≤ attemptNumber)
    (.valueError "attempt_number must be greater than or equal to 1")
  match floatViolation "elapsed_seconds" elapsedSeconds with
  | some error => .raise error
  | none =>
      if Uncertain failure then
        if policy.reconciliationRequired then
          .ofExcept (evaluation policy failure attemptNumber .reconcile
            (.lit "uncertain_outcome_requires_reconciliation") (.finite 0)
            elapsedSeconds)
        else
          .ofExcept (evaluation policy failure attemptNumber .escalate
            (.lit "uncertain_outcome_escalated") (.finite 0) elapsedSeconds)
      else
        match refusal policy failure attemptNumber with
        | some reason =>
            .ofExcept (evaluation policy failure attemptNumber .doNotRetry reason
              (.finite 0) elapsedSeconds)
        | none => do
            let delaySeconds ← delay fullJitter policy attemptNumber
            if overBudget policy elapsedSeconds delaySeconds then
              .ofExcept (evaluation policy failure attemptNumber .doNotRetry
                (.lit "retry_budget_exhausted") (.finite 0) elapsedSeconds)
            else
              .ofExcept (evaluation policy failure attemptNumber .retry
                (.lit "structured_failure_retryable") delaySeconds elapsedSeconds)

end Evaluator

end PyWorkflowKit.Policies
