import PyWorkflowKit.Policies.Evaluation
import PyWorkflowKit.Runtime.Courses

/-!
# Retry evaluations

What the runtime learns from the retry evaluator about the failure of an attempt.
-/

namespace PyWorkflowKit.Runtime

open PyWorkflowKit.Core PyWorkflowKit.Domain PyWorkflowKit.States
open PyWorkflowKit.Persistence PyWorkflowKit.Executors PyWorkflowKit.Planning
open PyWorkflowKit.Policies Program Scene

/-- What the decision about a failed attempt says about its failure. -/
inductive Evaluated (policy : RetryPolicy) (failure : FailureEvidence)
    (attemptNumber : Int) (decision : RetryDecision) : Prop
  | uncertain (huncertain : Uncertain failure)
      (hdecision : decision = .reconcile ∨ decision = .escalate)
  | refused (hcertain : ¬ Uncertain failure) (hdecision : decision = .doNotRetry)
  | retried (hcertain : ¬ Uncertain failure) (hdecision : decision = .retry)
      (hattempts : attemptNumber < policy.maxAttempts)
      (hretryable : failure.retryability = .retryable)
      (hcategory : policy.retryableFailureCategories = [] ∨
        failure.category ∈ policy.retryableFailureCategories)

section Values

variable {policy : RetryPolicy} {failure : FailureEvidence} {attemptNumber : Int}

theorem floatViolation_harmless {fieldName : String} {value : PyFloat} {error : PyError}
    (herror : floatViolation fieldName value = some error) : Harmless error := by
  unfold floatViolation at herror
  split at herror
  · cases herror
    simp [Harmless, PyError.errorClass]
  · split at herror
    · cases herror
      simp [Harmless, PyError.errorClass]
    · cases herror

theorem toFloat_harmless {value : Number} {error : PyError}
    (herror : value.toFloat = .error error) : Harmless error := by
  unfold Number.toFloat at herror
  split at herror
  · split at herror
    · cases herror
    · cases herror
      simp [Harmless, PyError.errorClass]
  · cases herror

theorem backoffDelay_harmless {error : PyError}
    (herror : backoffDelay policy attemptNumber = .error error) : Harmless error := by
  unfold backoffDelay at herror
  simp only [bind, Except.bind] at herror
  cases hstrategy : policy.backoffStrategy with
  | none =>
      simp only [hstrategy] at herror
      split at herror <;> cases herror
  | fixed =>
      simp only [hstrategy] at herror
      split at herror <;> cases herror
  | linear =>
      cases hfactor : (Number.int attemptNumber).toFloat with
      | error overflow =>
          simp only [hstrategy, hfactor, Except.error.injEq] at herror
          exact herror ▸ toFloat_harmless hfactor
      | ok factor =>
          simp only [hstrategy, hfactor] at herror
          split at herror <;> cases herror
  | exponential =>
      cases hfactor : (Number.int (2 ^ (attemptNumber - 1).toNat)).toFloat with
      | error overflow =>
          simp only [hstrategy, hfactor, Except.error.injEq] at herror
          exact herror ▸ toFloat_harmless hfactor
      | ok factor =>
          simp only [hstrategy, hfactor] at herror
          split at herror <;> cases herror

/-- The evaluation records the decision, or the evaluator rejects its own numbers. -/
theorem evaluation_cases (policy : RetryPolicy) (failure : FailureEvidence)
    (decision : RetryDecision) (reason : Text) (delaySeconds : PyFloat) {elapsed : ℚ}
    (hnumber : 1 ≤ attemptNumber) (helapsed : 0 ≤ elapsed) :
    (∃ evaluated, evaluation policy failure attemptNumber decision reason delaySeconds
        (.finite elapsed) = .ok evaluated ∧ evaluated.decision = decision) ∨
      ∃ error, evaluation policy failure attemptNumber decision reason delaySeconds
        (.finite elapsed) = .error error ∧ Harmless error ∧
        ((∃ seconds, delaySeconds = .finite seconds ∧ 0 ≤ seconds) →
          ∃ budget ∈ policy.totalBudgetSeconds, ∃ total, budget.asFloat = .finite total ∧
            PyFloat.largest < total) := by
  unfold evaluation RetryEvaluation.new
  simp only
  cases hdelay : floatViolation "delay_seconds" delaySeconds with
  | some error =>
      refine Or.inr ⟨error, rfl, floatViolation_harmless hdelay, ?_⟩
      rintro ⟨seconds, rfl, hseconds⟩
      rw [floatViolation_eq_none _ hseconds] at hdelay
      cases hdelay
  | none =>
      have hpositive : ¬ attemptNumber < 1 := by omega
      have hattempts : ¬ policy.maxAttempts < 1 := not_lt.mpr policy.positive
      simp only [if_neg hpositive, if_neg hattempts]
      cases hbudget : policy.totalBudgetSeconds with
      | none => exact Or.inl ⟨_, rfl, rfl⟩
      | some budget =>
          obtain ⟨total, htotal, -⟩ := budget.asFloat_finite
          simp only [Option.map_some, htotal]
          cases hremaining : floatViolation "budget_remaining_seconds"
              (PyFloat.ofRat (total - elapsed)).atLeastZero with
          | none => exact Or.inl ⟨_, rfl, rfl⟩
          | some error =>
              refine Or.inr ⟨error, rfl, floatViolation_harmless hremaining, fun _ => ?_⟩
              refine ⟨budget, rfl, total, htotal, not_le.mp fun hsmall => ?_⟩
              have hbelow : total - elapsed ≤ PyFloat.largest := by linarith
              obtain ⟨rounded, hrounded⟩ := PyFloat.ofRat_eq_finite hbelow
              obtain ⟨bounded, hbounded, hnonneg⟩ := atLeastZero_finite rounded
              rw [hrounded, hbounded, floatViolation_eq_none _ hnonneg] at hremaining
              cases hremaining

end Values

namespace Course

variable {course : Course} {entry : TaskPlanEntry} {record : RunRecord}
  {failure : FailureEvidence} {attemptNumber : Int}

/-- A failure at a moment where all attempts have been called for. -/
theorem bad_of_called {error : PyError} (hcalled : AllCalled record)
    (hharmless : Harmless error) (hcause : course.Cause record) : course.Bad error record :=
  ⟨fun _ => inOrder_of_harmless hharmless, fun _ => hcalled, hcause⟩

/-- The jitter source draws a number or rejects its bound. -/
theorem ensures_fullJitter {bound : PyFloat} (hcalled : AllCalled record)
    (hquiet : Quiet record.executions)
    (hbound : course.Smooth → ∃ value, bound = .finite value ∧ 0 ≤ value) :
    course.scene.Ensures (fullJitter bound) record
      (Ends (fun seconds last => last = record ∧ (course.Smooth →
        ∃ value, seconds = .finite value ∧ 0 ≤ value ∧ seconds.exceeds bound = false))
        course.Bad) := by
  unfold fullJitter
  split
  · next error hviolation =>
    refine ensures_raise (bad_of_called hcalled (floatViolation_harmless hviolation)
      (.rough (fun hsmooth => ?_) hquiet))
    obtain ⟨value, rfl, hvalue⟩ := hbound hsmooth
    rw [floatViolation_eq_none _ hvalue] at hviolation
    cases hviolation
  · split
    · next hzero =>
      refine ensures_pure ⟨rfl, fun _ => ⟨0, rfl, le_refl 0, ?_⟩⟩
      rw [hzero]
      exact decide_eq_false (lt_irrefl 0)
    · refine ensures_ask (by simp) fun seconds hanswer _ => ⟨rfl, fun hsmooth => ?_⟩
      obtain ⟨limit, rfl, hlimit⟩ := hbound hsmooth
      obtain ⟨value, rfl, hvalue, hbelow⟩ := hsmooth.jitter _ _ _ hlimit hanswer
      exact ⟨value, rfl, hvalue, decide_eq_false (not_lt.mpr hbelow)⟩

/-- The delay before another attempt. -/
theorem ensures_delay (hentry : entry ∈ course.plan.tasks) (hnumber : 1 ≤ attemptNumber)
    (hattempts : attemptNumber < entry.retryPolicy.maxAttempts)
    (hcalled : AllCalled record) (hquiet : Quiet record.executions) :
    course.scene.Ensures (delay fullJitter entry.retryPolicy attemptNumber) record
      (Ends (fun seconds last => last = record ∧ (course.Smooth →
        ∃ value, seconds = .finite value ∧ 0 ≤ value)) course.Bad) := by
  have hbackoff : course.Smooth → ∃ value,
      backoffDelay entry.retryPolicy attemptNumber = .ok (.finite value) ∧ 0 ≤ value :=
    fun hsmooth => hsmooth.delays entry hentry attemptNumber hnumber hattempts
  unfold delay
  refine ensures_ofExcept_bind (fun bound hok => ?_) fun error herror => ?_
  · have hbound : course.Smooth → ∃ value, bound = .finite value ∧ 0 ≤ value := by
      intro hsmooth
      obtain ⟨value, hvalue, hnonneg⟩ := hbackoff hsmooth
      rw [hok] at hvalue
      exact ⟨value, Except.ok.inj hvalue, hnonneg⟩
    split
    · exact ensures_pure ⟨rfl, hbound⟩
    · refine (ensures_fullJitter hcalled hquiet hbound).bind ?_ fun _ _ herror => herror
      rintro seconds last ⟨rfl, hseconds⟩
      split
      · next error hviolation =>
        refine ensures_raise (bad_of_called hcalled (floatViolation_harmless hviolation)
          (.rough (fun hsmooth => ?_) hquiet))
        obtain ⟨value, rfl, hvalue, -⟩ := hseconds hsmooth
        rw [floatViolation_eq_none _ hvalue] at hviolation
        cases hviolation
      · split
        · next hexceeds =>
          refine ensures_raise (bad_of_called hcalled
            (by simp [Harmless, PyError.errorClass]) (.rough (fun hsmooth => ?_) hquiet))
          obtain ⟨value, rfl, -, hbelow⟩ := hseconds hsmooth
          rw [hexceeds] at hbelow
          cases hbelow
        · refine ensures_pure ⟨rfl, fun hsmooth => ?_⟩
          obtain ⟨value, rfl, hvalue, -⟩ := hseconds hsmooth
          exact ⟨value, rfl, hvalue⟩
  · refine bad_of_called hcalled (backoffDelay_harmless herror)
      (.rough (fun hsmooth => ?_) hquiet)
    obtain ⟨value, hvalue, -⟩ := hbackoff hsmooth
    rw [herror] at hvalue
    cases hvalue

/-- The evaluator's own record of its decision. -/
theorem ensures_evaluation (hentry : entry ∈ course.plan.tasks) (hnumber : 1 ≤ attemptNumber)
    {elapsed : ℚ} (helapsed : 0 ≤ elapsed) (hcalled : AllCalled record)
    {decision : RetryDecision} {reason : Text} {delaySeconds : PyFloat}
    (hdelay : (course.Smooth ∨ ¬ Quiet record.executions) →
      ∃ value, delaySeconds = .finite value ∧ 0 ≤ value)
    (hevaluated : Evaluated entry.retryPolicy failure attemptNumber decision) :
    course.scene.Ensures (.ofExcept (evaluation entry.retryPolicy failure attemptNumber
      decision reason delaySeconds (.finite elapsed))) record
      (Ends (fun evaluated last => last = record ∧
        Evaluated entry.retryPolicy failure attemptNumber evaluated.decision)
        course.Bad) := by
  apply ensures_ofExcept
  rcases evaluation_cases entry.retryPolicy failure decision reason delaySeconds hnumber
    helapsed with ⟨evaluated, hok, hdecision⟩ | ⟨error, herror, hharmless, hcause⟩
  · rw [hok]
    exact ⟨rfl, hdecision ▸ hevaluated⟩
  · rw [herror]
    refine bad_of_called hcalled hharmless ?_
    by_cases hfinite : ∃ value, delaySeconds = .finite value ∧ 0 ≤ value
    · refine .infirm fun hfirm => ?_
      obtain ⟨budget, hbudget, total, htotal, hlarge⟩ := hcause hfinite
      exact absurd (hfirm.budgets entry hentry budget hbudget total htotal) (not_le.mpr hlarge)
    · exact .rough (fun hsmooth => hfinite (hdelay (Or.inl hsmooth)))
        (not_not.mp fun hloud => hfinite (hdelay (Or.inr hloud)))

/-- The evaluation of a failed attempt. -/
theorem ensures_evaluate (hentry : entry ∈ course.plan.tasks) (hnumber : 1 ≤ attemptNumber)
    {elapsed : ℚ} (helapsed : 0 ≤ elapsed) (hcalled : AllCalled record)
    (hquiet : failure.retryability = .retryable → Quiet record.executions) :
    course.scene.Ensures (evaluate fullJitter entry.retryPolicy failure attemptNumber
      (.finite elapsed)) record
      (Ends (fun evaluated last => last = record ∧
        Evaluated entry.retryPolicy failure attemptNumber evaluated.decision)
        course.Bad) := by
  have hzero : (course.Smooth ∨ ¬ Quiet record.executions) →
      ∃ value, PyFloat.finite 0 = .finite value ∧ 0 ≤ value := fun _ => ⟨0, rfl, le_refl 0⟩
  unfold evaluate
  have hrequired : course.scene.Ensures (.require (1 ≤ attemptNumber)
      (.valueError "attempt_number must be greater than or equal to 1")) record
      (Ends (fun _ last => last = record) fun _ _ => False) :=
    ensures_require (fun _ => rfl) fun hsmall => hsmall hnumber
  refine hrequired.bind ?_ fun _ _ => False.elim
  rintro _ last rfl
  rw [floatViolation_eq_none _ helapsed]
  simp only
  split
  · next huncertain =>
    split
    · exact ensures_evaluation hentry hnumber helapsed hcalled hzero
        (.uncertain huncertain (Or.inl rfl))
    · exact ensures_evaluation hentry hnumber helapsed hcalled hzero
        (.uncertain huncertain (Or.inr rfl))
  · next hcertain =>
    split
    · exact ensures_evaluation hentry hnumber helapsed hcalled hzero (.refused hcertain rfl)
    · next hrefusal =>
      obtain ⟨hattempts, hretryable, hcategory⟩ := retryable_of_refusal hcertain hrefusal
      refine (ensures_delay hentry hnumber hattempts hcalled (hquiet hretryable)).bind ?_
        fun _ _ herror => herror
      rintro seconds last ⟨rfl, hseconds⟩
      split
      · exact ensures_evaluation hentry hnumber helapsed hcalled hzero
          (.refused hcertain rfl)
      · exact ensures_evaluation hentry hnumber helapsed hcalled
          (fun hcase => hseconds (hcase.resolve_right (not_not.mpr (hquiet hretryable))))
          (.retried hcertain rfl hattempts hretryable hcategory)

end Course

end PyWorkflowKit.Runtime
