import PyWorkflowKit.Core.Program

/-!
# Runs with their steps

A complete run of a program together with the states before and after each of its atomic
steps.
-/

namespace PyWorkflowKit.Core.Program

variable {Call : Type} {Answer : Call → Type} {ε σ α : Type}

/-- A complete run of a program that makes these steps. -/
inductive RunsThrough (env : Surroundings Call Answer σ) :
    Program Call Answer ε σ α → σ → List (σ × σ) → Except ε α → σ → Prop
  | done {result : Except ε α} {state : σ} : RunsThrough env (done result) state [] result state
  | step {update : σ → σ} {next : σ → Program Call Answer ε σ α}
      {state drifted after : σ} {steps : List (σ × σ)} {result : Except ε α} :
      env.drift none state drifted →
        RunsThrough env (next drifted) (update drifted) steps result after →
        RunsThrough env (step update next) state ((drifted, update drifted) :: steps) result after
  | call {service : Call} {next : Answer service → Program Call Answer ε σ α}
      {state drifted after : σ} {answer : Answer service} {steps : List (σ × σ)}
      {result : Except ε α} :
      env.drift (some service) state drifted → env.allows drifted service answer →
        RunsThrough env (next answer) drifted steps result after →
        RunsThrough env (call service next) state steps result after

variable {env : Surroundings Call Answer σ} {program : Program Call Answer ε σ α}
  {state after : σ} {steps : List (σ × σ)} {result : Except ε α}

theorem RunsThrough.runs (hruns : program.RunsThrough env state steps result after) :
    program.Runs env state result after := by
  induction hruns with
  | done => exact .done
  | step hdrift _ ih => exact .step hdrift ih
  | call hdrift hallows _ ih => exact .call hdrift hallows ih

/-- Every complete run makes some steps. -/
theorem Runs.exists_steps (hruns : program.Runs env state result after) :
    ∃ steps, program.RunsThrough env state steps result after := by
  induction hruns with
  | done => exact ⟨[], .done⟩
  | step hdrift _ ih =>
      obtain ⟨steps, hsteps⟩ := ih
      exact ⟨_, .step hdrift hsteps⟩
  | call hdrift hallows _ ih =>
      obtain ⟨steps, hsteps⟩ := ih
      exact ⟨_, .call hdrift hallows hsteps⟩

/-- What every drift keeps and every step brings one step further holds after the run. -/
theorem RunsThrough.invariant {contract : Contract Call Answer σ}
    {post : Except ε α → σ → Prop} {kept : List (σ × σ) → σ → Prop}
    (hdrift : ∀ past moment before between, contract.drift moment before between →
      kept past before → kept past between)
    (hstep : ∀ past before between, contract.guarantee before between → kept past before →
      kept (past ++ [(before, between)]) between)
    (hruns : program.RunsThrough contract.toSurroundings state steps result after)
    (hmeets : program.Meets contract post state) (hstart : kept [] state) :
    kept steps after := by
  have hgoes : ∀ past, kept past state → kept (past ++ steps) after := by
    clear hstart
    induction hruns with
    | done =>
        intro past hpast
        rwa [List.append_nil]
    | step hdrifts _ ih =>
        intro past hpast
        obtain ⟨hguarantee, hnext⟩ := hmeets _ hdrifts
        have hbrought := hstep past _ _ hguarantee (hdrift past none _ _ hdrifts hpast)
        simpa using ih hnext _ hbrought
    | call hdrifts hallows _ ih =>
        intro past hpast
        exact ih (hmeets.2 _ hdrifts _ hallows) past (hdrift past _ _ _ hdrifts hpast)
  simpa using hgoes [] hstart

/-- The steps of a run in which the surroundings change the state at a call and answer it as
`react` says. -/
def performed (react : σ → (service : Call) → σ × Answer service) :
    Program Call Answer ε σ α → σ → List (σ × σ)
  | .done _, _ => []
  | .step update next, state => (state, update state) :: (next state).performed react (update state)
  | .call service next, state =>
      (next (react state service).2).performed react (react state service).1

theorem runsThrough_perform {react : σ → (service : Call) → σ × Answer service}
    (hquiet : ∀ state, env.drift none state state)
    (hreact : ∀ state service, env.drift (some service) state (react state service).1 ∧
      env.allows (react state service).1 service (react state service).2)
    (program : Program Call Answer ε σ α) (state : σ) :
    program.RunsThrough env state (program.performed react state)
      (program.perform react state).1 (program.perform react state).2 := by
  induction program generalizing state with
  | done result => exact .done
  | step update next ih => exact .step (hquiet state) (ih state (update state))
  | call service next ih =>
      exact .call (hreact state service).1 (hreact state service).2 (ih _ _)

end PyWorkflowKit.Core.Program
