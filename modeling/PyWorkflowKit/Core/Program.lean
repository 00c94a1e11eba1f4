import PyWorkflowKit.Core.Action
import Mathlib.Logic.Relation
import Mathlib.Tactic.Choose

/-!
# Programs that call services

A program is a sequence of atomic steps on a shared state and of calls whose
answers it does not choose.  Its surroundings may change the state before a
step and during a call.  A contract states what is relied on from the
surroundings and what the program itself guarantees of every step, of the state
in which it makes a call, and of its result.
-/

namespace PyWorkflowKit.Core

inductive Program (Call : Type) (Answer : Call → Type) (ε σ α : Type) where
  | done (result : Except ε α)
  | step (update : σ → σ) (next : σ → Program Call Answer ε σ α)
  | call (service : Call) (next : Answer service → Program Call Answer ε σ α)

/-- What the surroundings of a program may do: change the state before a step
(`none`) or during a call, and answer a call. -/
structure Surroundings (Call : Type) (Answer : Call → Type) (σ : Type) where
  drift : Option Call → σ → σ → Prop
  allows : σ → (service : Call) → Answer service → Prop

/-- Nothing changes the state at this moment. -/
def Surroundings.QuietAt {Call : Type} {Answer : Call → Type} {σ : Type}
    (env : Surroundings Call Answer σ) (moment : Option Call) : Prop :=
  ∀ before after, env.drift moment before after → before = after

/-- Surroundings together with what a program promises them. -/
structure Contract (Call : Type) (Answer : Call → Type) (σ : Type) extends
    Surroundings Call Answer σ where
  guarantee : σ → σ → Prop
  enters : σ → Call → Prop

namespace Program

variable {Call : Type} {Answer : Call → Type} {ε σ α β : Type}

protected def bind :
    Program Call Answer ε σ α → (α → Program Call Answer ε σ β) →
      Program Call Answer ε σ β
  | done (.ok value), next => next value
  | done (.error error), _ => done (.error error)
  | step update rest, next => step update fun state => (rest state).bind next
  | call service rest, next => call service fun answer => (rest answer).bind next

instance : Monad (Program Call Answer ε σ) where
  pure value := done (.ok value)
  bind := Program.bind

def raise (error : ε) : Program Call Answer ε σ α := done (.error error)

/-- An action on the state as one atomic step. -/
def atomic (action : Action ε σ α) : Program Call Answer ε σ α :=
  step (fun state => (action.run state).2) fun state => done (action.run state).1

def ask (service : Call) : Program Call Answer ε σ (Answer service) :=
  call service fun answer => done (.ok answer)

def ofExcept (result : Except ε α) : Program Call Answer ε σ α := done result

/-- Fail with `error` when `condition` does not hold. -/
def require (condition : Prop) [Decidable condition] (error : ε) :
    Program Call Answer ε σ Unit :=
  if condition then done (.ok ()) else done (.error error)

/-- Run `body` on every element in order. -/
def forEach {ι : Type} (items : List ι) (body : ι → Program Call Answer ε σ Unit) :
    Program Call Answer ε σ Unit :=
  match items with
  | [] => done (.ok ())
  | item :: rest => do
      body item
      forEach rest body

/-- The results of `body` on every element in order. -/
def mapEach {ι : Type} (items : List ι) (body : ι → Program Call Answer ε σ α) :
    Program Call Answer ε σ (List α) :=
  match items with
  | [] => done (.ok [])
  | item :: rest => do
      let value ← body item
      let values ← mapEach rest body
      pure (value :: values)

theorem bind_assoc {γ : Type} (program : Program Call Answer ε σ α)
    (next : α → Program Call Answer ε σ β) (last : β → Program Call Answer ε σ γ) :
    (program >>= next) >>= last = program >>= fun value => next value >>= last := by
  induction program with
  | done result => cases result <;> rfl
  | step update rest ih =>
      change step _ _ = step _ _
      congr 1
      funext state
      exact ih state
  | call service rest ih =>
      change call _ _ = call _ _
      congr 1
      funext answer
      exact ih answer

/-- A loop over two lists is a loop over the one and then over the other. -/
theorem forEach_append {ι : Type} (items others : List ι)
    (body : ι → Program Call Answer ε σ Unit) :
    forEach (items ++ others) body = forEach items body >>= fun _ => forEach others body := by
  induction items with
  | nil => rfl
  | cons item rest ih =>
      change (body item >>= fun _ => forEach (rest ++ others) body) =
        (body item >>= fun _ => forEach rest body) >>= fun _ => forEach others body
      rw [ih, bind_assoc]

section Runs

/-- A complete run of a program in its surroundings. -/
inductive Runs (env : Surroundings Call Answer σ) :
    Program Call Answer ε σ α → σ → Except ε α → σ → Prop
  | done {result : Except ε α} {state : σ} : Runs env (done result) state result state
  | step {update : σ → σ} {next : σ → Program Call Answer ε σ α}
      {state drifted after : σ} {result : Except ε α} :
      env.drift none state drifted → Runs env (next drifted) (update drifted) result after →
        Runs env (step update next) state result after
  | call {service : Call} {next : Answer service → Program Call Answer ε σ α}
      {state drifted after : σ} {answer : Answer service} {result : Except ε α} :
      env.drift (some service) state drifted → env.allows drifted service answer →
        Runs env (next answer) drifted result after →
        Runs env (call service next) state result after

/-- `program`, started in `state`, has come to `rest` in `current`. -/
inductive Reaches (env : Surroundings Call Answer σ) (program : Program Call Answer ε σ α)
    (state : σ) : Program Call Answer ε σ α → σ → Prop
  | start : Reaches env program state program state
  | step {update : σ → σ} {next : σ → Program Call Answer ε σ α} {current drifted : σ} :
      Reaches env program state (step update next) current → env.drift none current drifted →
        Reaches env program state (next drifted) (update drifted)
  | call {service : Call} {next : Answer service → Program Call Answer ε σ α}
      {current drifted : σ} {answer : Answer service} :
      Reaches env program state (call service next) current →
        env.drift (some service) current drifted → env.allows drifted service answer →
        Reaches env program state (next answer) drifted

/-- Nothing else happens, and the answers come from `oracle`. -/
def drive (oracle : σ → (service : Call) → Answer service) :
    Program Call Answer ε σ α → σ → Except ε α × σ
  | done result, state => (result, state)
  | step update next, state => (next state).drive oracle (update state)
  | call service next, state => (next (oracle state service)).drive oracle state

variable {env : Surroundings Call Answer σ}

theorem runs_drive {oracle : σ → (service : Call) → Answer service}
    (hquiet : ∀ moment state, env.drift moment state state)
    (hallows : ∀ state service, env.allows state service (oracle state service))
    (program : Program Call Answer ε σ α) (state : σ) :
    Runs env program state (program.drive oracle state).1
      (program.drive oracle state).2 := by
  induction program generalizing state with
  | done result => exact .done
  | step update next ih => exact .step (hquiet none state) (ih state (update state))
  | call service next ih =>
      exact .call (hquiet (some service) state) (hallows state service) (ih _ state)

/-- The surroundings change the state at a call and answer it as `react` says. -/
def perform (react : σ → (service : Call) → σ × Answer service) :
    Program Call Answer ε σ α → σ → Except ε α × σ
  | done result, state => (result, state)
  | step update next, state => (next state).perform react (update state)
  | call service next, state =>
      (next (react state service).2).perform react (react state service).1

/-- What is left of a program after some steps and calls, and the state then. -/
def advance (react : σ → (service : Call) → σ × Answer service) :
    Nat → Program Call Answer ε σ α → σ → Program Call Answer ε σ α × σ
  | 0, program, state => (program, state)
  | _ + 1, done result, state => (done result, state)
  | rounds + 1, step update next, state => (next state).advance react rounds (update state)
  | rounds + 1, call service next, state =>
      (next (react state service).2).advance react rounds (react state service).1

theorem runs_perform {react : σ → (service : Call) → σ × Answer service}
    (hquiet : ∀ state, env.drift none state state)
    (hreact : ∀ state service, env.drift (some service) state (react state service).1 ∧
      env.allows (react state service).1 service (react state service).2)
    (program : Program Call Answer ε σ α) (state : σ) :
    Runs env program state (program.perform react state).1
      (program.perform react state).2 := by
  induction program generalizing state with
  | done result => exact .done
  | step update next ih => exact .step (hquiet state) (ih state (update state))
  | call service next ih =>
      exact .call (hreact state service).1 (hreact state service).2 (ih _ _)

/-- A program runs to its end wherever every call can be answered. -/
theorem exists_runs (hquiet : ∀ moment state, env.drift moment state state)
    (hallows : ∀ state service, ∃ answer, env.allows state service answer)
    (program : Program Call Answer ε σ α) (state : σ) :
    ∃ result after, Runs env program state result after :=
  ⟨_, _, runs_drive hquiet
    (fun _ _ => Classical.choose_spec (hallows _ _)) program state⟩

/-- A program runs to its end wherever every call can be made and answered. -/
theorem exists_runs_of_total (hquiet : ∀ state, env.drift none state state)
    (hcall : ∀ state service, ∃ after answer, env.drift (some service) state after ∧
      env.allows after service answer)
    (program : Program Call Answer ε σ α) (state : σ) :
    ∃ result after, Runs env program state result after := by
  choose after answer hanswer using hcall
  let react : σ → (service : Call) → σ × Answer service :=
    fun state service => (after state service, answer state service)
  have hreact : ∀ state service, env.drift (some service) state (react state service).1 ∧
      env.allows (react state service).1 service (react state service).2 := hanswer
  exact ⟨_, _, runs_perform hquiet hreact program state⟩

/-- Surroundings that allow more have every run. -/
theorem Runs.mono {env' : Surroundings Call Answer σ} {program : Program Call Answer ε σ α}
    {result : Except ε α} {after : σ}
    (hdrift : ∀ moment before after, env.drift moment before after →
      env'.drift moment before after)
    (hallows : ∀ state service answer, env.allows state service answer →
      env'.allows state service answer)
    {state : σ} (hruns : Runs env program state result after) :
    Runs env' program state result after := by
  induction hruns with
  | done => exact .done
  | step hdrifts _ ih => exact .step (hdrift _ _ _ hdrifts) ih
  | call hdrifts hanswer _ ih =>
      exact .call (hdrift _ _ _ hdrifts) (hallows _ _ _ hanswer) ih

end Runs

section Contracts

/-- A postcondition from one for results and one for errors. -/
def Ends (good : α → σ → Prop) (bad : ε → σ → Prop) : Except ε α → σ → Prop
  | .ok value, after => good value after
  | .error error, after => bad error after

/-- From `state` the program keeps the contract and ends as `post` says. -/
def Meets (contract : Contract Call Answer σ) (post : Except ε α → σ → Prop) :
    Program Call Answer ε σ α → σ → Prop
  | done result, state => post result state
  | step update next, state =>
      ∀ drifted, contract.drift none state drifted →
        contract.guarantee drifted (update drifted) ∧
          (next drifted).Meets contract post (update drifted)
  | call service next, state =>
      contract.enters state service ∧
        ∀ drifted, contract.drift (some service) state drifted →
          ∀ answer, contract.allows drifted service answer →
            (next answer).Meets contract post drifted

variable {contract : Contract Call Answer σ} {post post' : Except ε α → σ → Prop}
  {state : σ}

@[simp]
theorem ends_ok {good : α → σ → Prop} {bad : ε → σ → Prop} (value : α) :
    Ends good bad (.ok value) state ↔ good value state := Iff.rfl

@[simp]
theorem ends_error {good : α → σ → Prop} {bad : ε → σ → Prop} (error : ε) :
    Ends good bad (.error error) state ↔ bad error state := Iff.rfl

@[simp]
theorem meets_done (result : Except ε α) :
    (done result : Program Call Answer ε σ α).Meets contract post state ↔
      post result state := Iff.rfl

@[simp]
theorem meets_pure (value : α) :
    (pure value : Program Call Answer ε σ α).Meets contract post state ↔
      post (.ok value) state := Iff.rfl

@[simp]
theorem meets_raise (error : ε) :
    (raise error : Program Call Answer ε σ α).Meets contract post state ↔
      post (.error error) state := Iff.rfl

theorem Meets.mono {program : Program Call Answer ε σ α}
    (hmeets : program.Meets contract post state)
    (himp : ∀ result after, post result after → post' result after) :
    program.Meets contract post' state := by
  induction program generalizing state with
  | done result => exact himp result state hmeets
  | step update next ih =>
      intro drifted hdrift
      exact ⟨(hmeets drifted hdrift).1, ih drifted (hmeets drifted hdrift).2⟩
  | call service next ih =>
      exact ⟨hmeets.1, fun drifted hdrift answer hallows =>
        ih answer (hmeets.2 drifted hdrift answer hallows)⟩

/-- The postcondition under which a first program hands over to `next`. -/
def Hands (contract : Contract Call Answer σ) (post : Except ε β → σ → Prop)
    (next : α → Program Call Answer ε σ β) : Except ε α → σ → Prop
  | .ok value, after => (next value).Meets contract post after
  | .error error, after => post (.error error) after

@[simp]
theorem hands_ok {post : Except ε β → σ → Prop}
    {next : α → Program Call Answer ε σ β} (value : α) :
    Hands contract post next (.ok value) state ↔
      (next value).Meets contract post state := Iff.rfl

@[simp]
theorem hands_error {post : Except ε β → σ → Prop}
    {next : α → Program Call Answer ε σ β} (error : ε) :
    Hands contract post next (.error error) state ↔ post (.error error) state := Iff.rfl

theorem meets_bind {post : Except ε β → σ → Prop}
    (first : Program Call Answer ε σ α) (next : α → Program Call Answer ε σ β) :
    (first >>= next).Meets contract post state ↔
      first.Meets contract (Hands contract post next) state := by
  change (first.bind next).Meets contract post state ↔ _
  induction first generalizing state with
  | done result => cases result <;> exact Iff.rfl
  | step update rest ih =>
      exact forall_congr' fun drifted => imp_congr_right fun _ =>
        and_congr_right fun _ => ih drifted
  | call service rest ih =>
      exact and_congr_right fun _ => forall_congr' fun drifted =>
        imp_congr_right fun _ => forall_congr' fun answer =>
          imp_congr_right fun _ => ih answer

/-- A first program that ends as `middle` says, then `next`. -/
theorem Meets.bind {middle : Except ε α → σ → Prop} {post : Except ε β → σ → Prop}
    {first : Program Call Answer ε σ α} {next : α → Program Call Answer ε σ β}
    (hfirst : first.Meets contract middle state)
    (hok : ∀ value after, middle (.ok value) after →
      (next value).Meets contract post after)
    (herror : ∀ error after, middle (.error error) after →
      post (.error error) after) :
    (first >>= next).Meets contract post state := by
  rw [meets_bind]
  refine hfirst.mono fun result after hresult => ?_
  cases result with
  | ok value => exact hok value after hresult
  | error error => exact herror error after hresult

theorem meets_atomic (action : Action ε σ α) :
    (atomic action : Program Call Answer ε σ α).Meets contract post state ↔
      ∀ drifted, contract.drift none state drifted →
        contract.guarantee drifted (action.run drifted).2 ∧
          post (action.run drifted).1 (action.run drifted).2 := Iff.rfl

theorem meets_ask (service : Call) {post : Except ε (Answer service) → σ → Prop} :
    (ask service : Program Call Answer ε σ (Answer service)).Meets contract post state ↔
      contract.enters state service ∧
        ∀ drifted, contract.drift (some service) state drifted →
          ∀ answer, contract.allows drifted service answer →
            post (.ok answer) drifted := Iff.rfl

/-- An atomic step that nobody interferes with. -/
theorem meets_atomic_of_quiet (hquiet : contract.QuietAt none) {action : Action ε σ α}
    (hguarantee : contract.guarantee state (action.run state).2)
    (hpost : post (action.run state).1 (action.run state).2) :
    (atomic action : Program Call Answer ε σ α).Meets contract post state := by
  intro drifted hdrift
  cases hquiet state drifted hdrift
  exact ⟨hguarantee, hpost⟩

/-- A call during which nobody changes the state. -/
theorem meets_ask_of_quiet {service : Call} (hquiet : contract.QuietAt (some service))
    {post : Except ε (Answer service) → σ → Prop}
    (henters : contract.enters state service)
    (hpost : ∀ answer, contract.allows state service answer → post (.ok answer) state) :
    (ask service : Program Call Answer ε σ (Answer service)).Meets contract post state := by
  refine ⟨henters, fun drifted hdrift answer hallows => ?_⟩
  cases hquiet state drifted hdrift
  exact hpost answer hallows

theorem meets_require {condition : Prop} [Decidable condition] {error : ε}
    {post : Except ε Unit → σ → Prop} :
    (require condition error : Program Call Answer ε σ Unit).Meets contract post state ↔
      (condition → post (.ok ()) state) ∧ (¬ condition → post (.error error) state) := by
  unfold require
  split
  · next hcondition => simp [hcondition]
  · next hcondition => simp [hcondition]

/-- What holds before every element of a loop and is kept by its body holds
after the loop. -/
theorem meets_forEach {ι : Type} (invariant : List ι → σ → Prop)
    (bad : ε → σ → Prop) {good : Unit → σ → Prop}
    {body : ι → Program Call Answer ε σ Unit}
    (hbody : ∀ item rest current, invariant (item :: rest) current →
      (body item).Meets contract (Ends (fun _ => invariant rest) bad) current)
    (hend : ∀ after, invariant [] after → good () after)
    (items : List ι) (hstart : invariant items state) :
    (forEach items body).Meets contract (Ends good bad) state := by
  induction items generalizing state with
  | nil => exact hend state hstart
  | cons item rest ih =>
      exact (hbody item rest state hstart).bind (fun _ after hafter => ih hafter)
        fun error after herror => herror

/-- What is kept by the body of a loop, for the elements it has handled and the
results it has got, holds of all of them after the loop. -/
theorem meets_mapEach {ι : Type} (invariant : List ι → List α → σ → Prop)
    (bad : ε → σ → Prop) {good : List α → σ → Prop}
    {body : ι → Program Call Answer ε σ α} (items : List ι)
    (hbody : ∀ handled item rest values current, items = handled ++ item :: rest →
      invariant handled values current →
      (body item).Meets contract
        (Ends (fun value => invariant (handled ++ [item]) (values ++ [value])) bad)
        current)
    (hend : ∀ values after, invariant items values after → good values after)
    (hstart : invariant [] [] state) :
    (mapEach items body).Meets contract (Ends good bad) state := by
  have hrest : ∀ rest handled values current, items = handled ++ rest →
      invariant handled values current →
      (mapEach rest body).Meets contract
        (Ends (fun others => invariant items (values ++ others)) bad) current := by
    intro rest
    induction rest with
    | nil =>
        intro handled values current hitems hinvariant
        rw [List.append_nil] at hitems
        subst hitems
        simpa [mapEach] using hinvariant
    | cons item rest ih =>
        intro handled values current hitems hinvariant
        refine (hbody handled item rest values current hitems hinvariant).bind
          (fun value after hafter => ?_) (fun error after herror => herror)
        refine (ih (handled ++ [item]) (values ++ [value]) after (by simp [hitems])
          hafter).bind (fun others last hlast => ?_) (fun error last herror => herror)
        simpa [List.append_assoc] using hlast
  refine (hrest items [] [] state rfl hstart).mono fun result after hresult => ?_
  cases result with
  | ok values => exact hend values after (by simpa using hresult)
  | error error => exact hresult

/-- A program that meets its contract ends every run as the contract says. -/
theorem Meets.of_runs {program : Program Call Answer ε σ α} {result : Except ε α}
    {after : σ} (hmeets : program.Meets contract post state)
    (hruns : program.Runs contract.toSurroundings state result after) :
    post result after := by
  induction hruns with
  | done => exact hmeets
  | step hdrift _ ih => exact ih (hmeets _ hdrift).2
  | call hdrift hallows _ ih => exact ih (hmeets.2 _ hdrift _ hallows)

/-- A program that has come so far keeps its contract from there. -/
theorem Meets.of_reaches {program rest : Program Call Answer ε σ α} {current : σ}
    (hmeets : program.Meets contract post state)
    (hreaches : program.Reaches contract.toSurroundings state rest current) :
    rest.Meets contract post current := by
  induction hreaches with
  | start => exact hmeets
  | step _ hdrift ih => exact (ih _ hdrift).2
  | call _ hdrift hallows ih => exact ih.2 _ hdrift _ hallows

/-- What every step, every drift and every call keeps is kept all the way. -/
theorem Meets.kept {program rest : Program Call Answer ε σ α} {current : σ}
    {kept : σ → σ → Prop} (hrefl : ∀ state, kept state state)
    (htrans : ∀ first second third, kept first second → kept second third →
      kept first third)
    (hdrift : ∀ before after, contract.drift none before after → kept before after)
    (hcall : ∀ before after service, contract.enters before service →
      contract.drift (some service) before after → kept before after)
    (hstep : ∀ before after, contract.guarantee before after → kept before after)
    (hmeets : program.Meets contract post state)
    (hreaches : program.Reaches contract.toSurroundings state rest current) :
    kept state current := by
  induction hreaches with
  | start => exact hrefl state
  | step hbefore hdrifts ih =>
      have hnext := (hmeets.of_reaches hbefore) _ hdrifts
      exact htrans _ _ _ (htrans _ _ _ ih (hdrift _ _ hdrifts)) (hstep _ _ hnext.1)
  | call hbefore hdrifts _ ih =>
      exact htrans _ _ _ ih (hcall _ _ _ (hmeets.of_reaches hbefore).1 hdrifts)

theorem Reaches.trans {env : Surroundings Call Answer σ}
    {first second third : Program Call Answer ε σ α} {before between after : σ}
    (hfirst : first.Reaches env before second between)
    (hsecond : second.Reaches env between third after) :
    first.Reaches env before third after := by
  induction hsecond with
  | start => exact hfirst
  | step _ hdrift ih => exact .step ih hdrift
  | call _ hdrift hallows ih => exact .call ih hdrift hallows

theorem reaches_advance {env : Surroundings Call Answer σ}
    {react : σ → (service : Call) → σ × Answer service}
    (hquiet : ∀ state, env.drift none state state)
    (hreact : ∀ state service, env.drift (some service) state (react state service).1 ∧
      env.allows (react state service).1 service (react state service).2)
    (rounds : Nat) (program : Program Call Answer ε σ α) (state : σ) :
    Reaches env program state (program.advance react rounds state).1
      (program.advance react rounds state).2 := by
  induction rounds generalizing program state with
  | zero => exact .start
  | succ rounds ih =>
      cases program with
      | done result => exact .start
      | step update next => exact (Reaches.step .start (hquiet state)).trans (ih _ _)
      | call service next =>
          exact (Reaches.call .start (hreact state service).1 (hreact state service).2).trans
            (ih _ _)

/-- A complete run comes to its result. -/
theorem Runs.reaches {env : Surroundings Call Answer σ} {program : Program Call Answer ε σ α}
    {result : Except ε α} {after : σ} (hruns : program.Runs env state result after) :
    program.Reaches env state (.done result) after := by
  induction hruns with
  | done => exact .start
  | step hdrift _ ih => exact (Reaches.step .start hdrift).trans ih
  | call hdrift hallows _ ih => exact (Reaches.call .start hdrift hallows).trans ih

theorem Reaches.runs_of_runs {env : Surroundings Call Answer σ}
    {first second : Program Call Answer ε σ α} {before between after : σ}
    {result : Except ε α} (hreaches : first.Reaches env before second between)
    (hruns : second.Runs env between result after) : first.Runs env before result after := by
  induction hreaches with
  | start => exact hruns
  | step _ hdrift ih => exact ih (.step hdrift hruns)
  | call _ hdrift hallows ih => exact ih (.call hdrift hallows hruns)

/-- A program that has come to a result has run completely. -/
theorem Reaches.runs {env : Surroundings Call Answer σ} {program : Program Call Answer ε σ α}
    {result : Except ε α} {after : σ}
    (hreaches : program.Reaches env state (.done result) after) :
    program.Runs env state result after :=
  hreaches.runs_of_runs .done

end Contracts

section Possibilities

/-- Some run from `state` ends as `post` says. -/
def May (env : Surroundings Call Answer σ) (post : Except ε α → σ → Prop)
    (program : Program Call Answer ε σ α) (state : σ) : Prop :=
  ∃ result after, program.Runs env state result after ∧ post result after

variable {env : Surroundings Call Answer σ} {post : Except ε α → σ → Prop} {state : σ}

theorem may_done {result : Except ε α} (hpost : post result state) :
    (done result : Program Call Answer ε σ α).May env post state :=
  ⟨result, state, .done, hpost⟩

theorem may_atomic {action : Action ε σ α} (hquiet : env.drift none state state)
    (hpost : post (action.run state).1 (action.run state).2) :
    (atomic action : Program Call Answer ε σ α).May env post state :=
  ⟨_, _, .step hquiet .done, hpost⟩

theorem may_ask {service : Call} {post : Except ε (Answer service) → σ → Prop} {drifted : σ}
    (answer : Answer service) (hdrift : env.drift (some service) state drifted)
    (hallows : env.allows drifted service answer) (hpost : post (.ok answer) drifted) :
    (ask service : Program Call Answer ε σ (Answer service)).May env post state :=
  ⟨_, _, .call hdrift hallows .done, hpost⟩

/-- A run of a first program that returns goes on with a run of `next`. -/
theorem Runs.bind {first : Program Call Answer ε σ α} {next : α → Program Call Answer ε σ β}
    {value : α} {between after : σ} {result : Except ε β}
    (hfirst : first.Runs env state (.ok value) between)
    (hnext : (next value).Runs env between result after) :
    (first >>= next).Runs env state result after := by
  generalize hvalue : Except.ok value = returned at hfirst
  induction hfirst with
  | done =>
      cases hvalue
      exact hnext
  | step hdrift _ ih => exact .step hdrift (ih hnext hvalue)
  | call hdrift hallows _ ih => exact .call hdrift hallows (ih hnext hvalue)

/-- A run of a first program that raises is all there is. -/
theorem Runs.bind_error {first : Program Call Answer ε σ α}
    {next : α → Program Call Answer ε σ β} {error : ε} {after : σ}
    (hfirst : first.Runs env state (.error error) after) :
    (first >>= next).Runs env state (.error error) after := by
  generalize herror : Except.error error = raised at hfirst
  induction hfirst with
  | done =>
      cases herror
      exact .done
  | step hdrift _ ih => exact .step hdrift (ih herror)
  | call hdrift hallows _ ih => exact .call hdrift hallows (ih herror)

/-- The postcondition under which some run of a first program can go on with `next`. -/
def HandsSome (env : Surroundings Call Answer σ) (post : Except ε β → σ → Prop)
    (next : α → Program Call Answer ε σ β) : Except ε α → σ → Prop
  | .ok value, after => (next value).May env post after
  | .error error, after => post (.error error) after

theorem May.bind {post : Except ε β → σ → Prop} {first : Program Call Answer ε σ α}
    {next : α → Program Call Answer ε σ β}
    (hfirst : first.May env (HandsSome env post next) state) :
    (first >>= next).May env post state := by
  obtain ⟨result, between, hruns, hhands⟩ := hfirst
  cases result with
  | ok value =>
      obtain ⟨result, after, hnext, hpost⟩ := hhands
      exact ⟨result, after, hruns.bind hnext, hpost⟩
  | error error => exact ⟨_, between, hruns.bind_error, hhands⟩

theorem May.mono {post' : Except ε α → σ → Prop} {program : Program Call Answer ε σ α}
    (hmay : program.May env post state)
    (himp : ∀ result after, post result after → post' result after) :
    program.May env post' state := by
  obtain ⟨result, after, hruns, hpost⟩ := hmay
  exact ⟨result, after, hruns, himp _ _ hpost⟩

/-- What every run keeps holds of the run that there is. -/
theorem May.and {contract : Contract Call Answer σ} {post' : Except ε α → σ → Prop}
    {program : Program Call Answer ε σ α}
    (hmay : program.May contract.toSurroundings post state)
    (hmeets : program.Meets contract post' state) :
    program.May contract.toSurroundings (fun result after => post result after ∧
      post' result after) state := by
  obtain ⟨result, after, hruns, hpost⟩ := hmay
  exact ⟨result, after, hruns, hpost, hmeets.of_runs hruns⟩

end Possibilities

end Program

end PyWorkflowKit.Core
