import PyWorkflowKit.Core.StrEnum
import PyWorkflowKit.Domain.Number
import Mathlib.Data.String.Basic

/-!
# Declared rules of a task

The trigger rule, the failure policy and the execution timeout.
-/

namespace PyWorkflowKit.Policies

open PyWorkflowKit.Core PyWorkflowKit.Domain

inductive TriggerRule where
  | allSuccess
  | allDone
  | anySuccess
  | anyFailed
  | noneFailed
  | always
deriving DecidableEq, Repr

def TriggerRule.value : TriggerRule → String
  | allSuccess => "all_success"
  | allDone => "all_done"
  | anySuccess => "any_success"
  | anyFailed => "any_failed"
  | noneFailed => "none_failed"
  | always => "always"

inductive FailurePolicy where
  | failFast
deriving DecidableEq, Repr

def FailurePolicy.value : FailurePolicy → String
  | failFast => "FAIL_FAST"

/-- What the `TimeoutPolicy` constructor rejects. -/
def timeoutViolation (executionTimeout : Number) : Option PyError :=
  match executionTimeout.toFloat with
  | .error error => some error
  | .ok _ =>
      if executionTimeout.rat ≤ 0 then
        some (.valueError "execution_timeout must be greater than 0")
      else none

/-- Local workload execution deadline declaration. -/
structure TimeoutPolicy where
  executionTimeout : Option Number
  valid : ∀ timeout ∈ executionTimeout, timeoutViolation timeout = none
deriving DecidableEq

def TimeoutPolicy.none : TimeoutPolicy := ⟨Option.none, by simp⟩

end PyWorkflowKit.Policies
