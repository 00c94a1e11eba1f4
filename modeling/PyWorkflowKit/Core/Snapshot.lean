import Mathlib.Data.List.Induction
import Mathlib.Logic.Function.Basic

/-!
# Units of work on a copied state

Units of work that copy a shared state when they open, write to their copy and put it
in place of the state when they commit.  With changes to different keys no change is
lost exactly when every commit finds the state as its unit of work copied it.
-/

namespace PyWorkflowKit.Core

/-- A state that is read by key and written one key at a time. -/
structure Keyed (σ κ ν ω ε : Type) where
  get : σ → κ → ν
  write : ω → σ → Except ε σ
  target : ω → κ
  frame : ∀ {change : ω} {before after : σ}, write change before = .ok after →
    ∀ key, key ≠ target change → get after key = get before key

/-- The steps of the units of work. -/
inductive UnitStep (ι ω : Type) where
  | enter (unit : ι)
  | write (unit : ι) (change : ω)
  | commit (unit : ι)
  | leave (unit : ι)
deriving DecidableEq

/-- An open unit of work: the state it copied, its copy now, and the keys it wrote. -/
structure Staged (σ κ : Type) where
  copied : σ
  staged : σ
  touched : List κ

/-- The shared state and the open units of work. -/
structure Units (ι σ κ : Type) where
  store : σ
  active : ι → Option (Staged σ κ)

namespace Keyed

variable {ι σ κ ν ω ε : Type} [DecidableEq ι] (keyed : Keyed σ κ ν ω ε)

/-- One step; a step that the unit of work is not in a state for does nothing. -/
def step (units : Units ι σ κ) : UnitStep ι ω → Units ι σ κ
  | .enter unit =>
      match units.active unit with
      | some _ => units
      | none =>
          { units with
            active := Function.update units.active unit (some ⟨units.store, units.store, []⟩) }
  | .write unit change =>
      match units.active unit with
      | none => units
      | some opened =>
          match keyed.write change opened.staged with
          | .error _ => units
          | .ok staged =>
              { units with
                active := Function.update units.active unit (some
                  { opened with
                    staged := staged
                    touched := keyed.target change :: opened.touched }) }
  | .commit unit =>
      match units.active unit with
      | none => units
      | some opened => ⟨opened.staged, Function.update units.active unit none⟩
  | .leave unit => { units with active := Function.update units.active unit none }

/-- Nothing is open. -/
def idle (store : σ) : Units ι σ κ := ⟨store, fun _ => none⟩

def run (store : σ) (steps : List (UnitStep ι ω)) : Units ι σ κ :=
  steps.foldl keyed.step (idle store)

/-- The unit of work commits after these steps. -/
def Commits (store : σ) (before : List (UnitStep ι ω)) (unit : ι) (opened : Staged σ κ) :
    Prop :=
  (keyed.run store before).active unit = some opened

/-- The units of work that commit, in turn. -/
def committed : Units ι σ κ → List (UnitStep ι ω) → List (Staged σ κ)
  | _, [] => []
  | units, next :: rest =>
      match next with
      | .commit unit => (units.active unit).toList ++ committed (keyed.step units next) rest
      | _ => committed (keyed.step units next) rest

/-- No two units of work that commit write one key. -/
def Apart (store : σ) (steps : List (UnitStep ι ω)) : Prop :=
  (keyed.committed (idle store) steps).Pairwise fun first second =>
    ∀ key ∈ first.touched, key ∉ second.touched

/-- Committed changes stay, and nothing else is ever seen in the store. -/
structure KeepsUpdates (store : σ) (steps : List (UnitStep ι ω)) : Prop where
  kept : ∀ before unit opened between after,
    steps = before ++ .commit unit :: (between ++ after) →
      keyed.Commits store before unit opened → ∀ key ∈ opened.touched,
        keyed.get (keyed.run store (before ++ .commit unit :: between)).store key =
          keyed.get opened.staged key
  traced : ∀ before after, steps = before ++ after → ∀ key,
    keyed.get (keyed.run store before).store key = keyed.get store key ∨
      ∃ earlier unit opened later, before = earlier ++ .commit unit :: later ∧
        keyed.Commits store earlier unit opened ∧ key ∈ opened.touched ∧
          keyed.get (keyed.run store before).store key = keyed.get opened.staged key

/-- Every commit finds the store as its unit of work copied it. -/
def Undisturbed (store : σ) (steps : List (UnitStep ι ω)) : Prop :=
  ∀ before unit opened after, steps = before ++ .commit unit :: after →
    keyed.Commits store before unit opened →
      ∀ key, keyed.get (keyed.run store before).store key = keyed.get opened.copied key

variable {keyed} {store : σ}

theorem committed_append (first : List (UnitStep ι ω)) :
    ∀ (units : Units ι σ κ) (second : List (UnitStep ι ω)),
      keyed.committed units (first ++ second) =
        keyed.committed units first ++
          keyed.committed (first.foldl keyed.step units) second := by
  induction first with
  | nil => exact fun _ _ => rfl
  | cons next rest ih =>
      intro units second
      cases next <;> simp [committed, ih]

theorem Apart.touched {steps : List (UnitStep ι ω)} (hapart : keyed.Apart store steps)
    {before between after : List (UnitStep ι ω)} {first second : ι} {opened opened' : Staged σ κ}
    (hsteps : steps = before ++ .commit first :: (between ++ .commit second :: after))
    (hfirst : keyed.Commits store before first opened)
    (hsecond : keyed.Commits store (before ++ .commit first :: between) second opened') :
    ∀ key ∈ opened.touched, key ∉ opened'.touched := by
  have hlist : keyed.committed (idle store) steps =
      keyed.committed (idle store) before ++ opened ::
        (keyed.committed (keyed.run store (before ++ [.commit first])) between ++ opened' ::
          keyed.committed (keyed.run store (before ++ .commit first :: (between ++
            [.commit second]))) after) := by
    unfold Commits run at hfirst hsecond
    have hcommit : ∀ (units : Units ι σ κ) (unit : ι) (found : Staged σ κ) rest,
        units.active unit = some found →
          keyed.committed units (.commit unit :: rest) =
            found :: keyed.committed (keyed.step units (.commit unit)) rest := by
      intro units unit found rest hactive
      rw [committed, hactive]
      rfl
    rw [hsteps, committed_append, hcommit _ first opened _ hfirst, committed_append,
      hcommit _ second opened' after]
    · simp [run, List.foldl_append]
    · rw [List.foldl_append] at hsecond
      exact hsecond
  unfold Apart at hapart
  rw [hlist, List.pairwise_append] at hapart
  exact (List.pairwise_cons.mp hapart.2.1).1 opened'
    (List.mem_append_right _ List.mem_cons_self)

theorem run_append (first second : List (UnitStep ι ω)) :
    keyed.run store (first ++ second) = second.foldl keyed.step (keyed.run store first) :=
  List.foldl_append

theorem run_commit {before : List (UnitStep ι ω)} {unit : ι} {opened : Staged σ κ}
    (hcommits : keyed.Commits store before unit opened) :
    (keyed.run store (before ++ [.commit unit])).store = opened.staged := by
  rw [run_append]
  simp only [List.foldl_cons, List.foldl_nil, step]
  rw [hcommits]

/-- Only a commit changes the store. -/
theorem store_step (units : Units ι σ κ) (next : UnitStep ι ω) :
    (keyed.step units next).store = units.store ∨
      ∃ unit opened, next = .commit unit ∧ units.active unit = some opened ∧
        (keyed.step units next).store = opened.staged := by
  cases next with
  | enter unit =>
      apply Or.inl
      simp only [step]
      split <;> rfl
  | write unit change =>
      apply Or.inl
      simp only [step]
      split
      · rfl
      · split <;> rfl
  | commit unit =>
      simp only [step]
      split
      · exact Or.inl rfl
      · next opened hactive => exact Or.inr ⟨unit, opened, rfl, hactive, rfl⟩
  | leave unit => exact Or.inl rfl

/-- An open unit of work stays as it is, was just opened, or has written one key. -/
theorem active_step {units : Units ι σ κ} {next : UnitStep ι ω} {unit : ι}
    {opened : Staged σ κ} (hactive : (keyed.step units next).active unit = some opened) :
    units.active unit = some opened ∨ opened = ⟨units.store, units.store, []⟩ ∨
      ∃ before change staged, units.active unit = some before ∧
        keyed.write change before.staged = .ok staged ∧
        opened = ⟨before.copied, staged, keyed.target change :: before.touched⟩ := by
  have hupdate : ∀ {other : ι} {value : Option (Staged σ κ)},
      Function.update units.active other value unit = some opened →
        units.active unit = some opened ∨ unit = other ∧ value = some opened := by
    intro other value hvalue
    by_cases heq : unit = other
    · subst heq
      rw [Function.update_self] at hvalue
      exact Or.inr ⟨rfl, hvalue⟩
    · rw [Function.update_of_ne heq] at hvalue
      exact Or.inl hvalue
  cases next with
  | enter other =>
      simp only [step] at hactive
      split at hactive
      · exact Or.inl hactive
      · rcases hupdate hactive with hold | ⟨_, hnew⟩
        · exact Or.inl hold
        · exact Or.inr (Or.inl (Option.some.inj hnew).symm)
  | write other change =>
      simp only [step] at hactive
      split at hactive
      · exact Or.inl hactive
      · next before hbefore =>
        split at hactive
        · exact Or.inl hactive
        · next staged hwrite =>
          rcases hupdate hactive with hold | ⟨rfl, hnew⟩
          · exact Or.inl hold
          · exact Or.inr (Or.inr
              ⟨before, change, staged, hbefore, hwrite, (Option.some.inj hnew).symm⟩)
  | commit other =>
      simp only [step] at hactive
      split at hactive
      · exact Or.inl hactive
      · rcases hupdate hactive with hold | ⟨_, hnew⟩
        · exact Or.inl hold
        · cases hnew
  | leave other =>
      rcases hupdate hactive with hold | ⟨_, hnew⟩
      · exact Or.inl hold
      · cases hnew

/-- What holds of every open unit of work of a run. -/
theorem opened_of_active (before : List (UnitStep ι ω)) : ∀ {unit : ι} {opened : Staged σ κ},
    keyed.Commits store before unit opened →
      (∀ key, key ∉ opened.touched →
        keyed.get opened.staged key = keyed.get opened.copied key) ∧
      ∃ earlier since, before = earlier ++ since ∧
        opened.copied = (keyed.run store earlier).store := by
  induction before using List.reverseRecOn with
  | nil =>
      intro unit opened hcommits
      cases hcommits
  | append_singleton before next ih =>
      intro unit opened hcommits
      unfold Commits at hcommits
      rw [run_append] at hcommits
      rcases active_step hcommits with
        hold | rfl | ⟨previous, change, staged, hprevious, hwrite, rfl⟩
      · obtain ⟨hstaged, earlier, since, rfl, hcopied⟩ := ih hold
        exact ⟨hstaged, earlier, since ++ [next], by rw [List.append_assoc], hcopied⟩
      · exact ⟨fun _ _ => rfl, before, [next], rfl, rfl⟩
      · obtain ⟨hstaged, earlier, since, rfl, hcopied⟩ := ih hprevious
        refine ⟨fun key hkey => ?_, earlier, since ++ [next], by rw [List.append_assoc], hcopied⟩
        have hne : key ≠ keyed.target change := fun heq => hkey (heq ▸ List.mem_cons_self)
        calc
          keyed.get staged key = keyed.get previous.staged key := keyed.frame hwrite key hne
          _ = keyed.get previous.copied key :=
            hstaged key fun hmem => hkey (List.mem_cons_of_mem _ hmem)

/-- A commit that finds the store as it was copied changes the keys it wrote only. -/
theorem get_commit {before : List (UnitStep ι ω)} {unit : ι} {opened : Staged σ κ}
    (hcommits : keyed.Commits store before unit opened)
    (hsame : ∀ key, keyed.get (keyed.run store before).store key = keyed.get opened.copied key)
    {key : κ} (hkey : key ∉ opened.touched) :
    keyed.get (keyed.run store (before ++ [.commit unit])).store key =
      keyed.get (keyed.run store before).store key := by
  rw [run_commit hcommits, hsame, (opened_of_active before hcommits).1 key hkey]

/-- Without disturbance committed changes stay. -/
theorem Undisturbed.kept {steps : List (UnitStep ι ω)}
    (hundisturbed : keyed.Undisturbed store steps) (hapart : keyed.Apart store steps)
    {before : List (UnitStep ι ω)} {unit : ι} {opened : Staged σ κ}
    (hcommits : keyed.Commits store before unit opened) {key : κ}
    (hkey : key ∈ opened.touched) (between : List (UnitStep ι ω)) :
    ∀ after, steps = before ++ .commit unit :: (between ++ after) →
      keyed.get (keyed.run store (before ++ .commit unit :: between)).store key =
        keyed.get opened.staged key := by
  induction between using List.reverseRecOn with
  | nil =>
      intro after _
      rw [run_commit hcommits]
  | append_singleton between next ih =>
      intro after hsteps
      have hsteps' : steps = before ++ .commit unit :: (between ++ next :: after) := by
        rw [hsteps, List.append_assoc, List.singleton_append]
      have hlast : before ++ .commit unit :: (between ++ [next]) =
          (before ++ .commit unit :: between) ++ [next] := by simp
      rw [hlast, ← ih (next :: after) hsteps']
      rcases store_step (keyed.run store (before ++ .commit unit :: between)) next with
        hsame | ⟨other, opened', rfl, hactive, _⟩
      · rw [run_append]
        exact congrArg (fun state => keyed.get state key) hsame
      · have hother := hapart.touched hsteps' hcommits hactive key hkey
        have hfound := hundisturbed (before ++ .commit unit :: between) other opened' after
          (by rw [hsteps']; simp) hactive
        exact get_commit hactive hfound hother

/-- Without disturbance the store shows committed changes only. -/
theorem Undisturbed.traced {steps : List (UnitStep ι ω)}
    (hundisturbed : keyed.Undisturbed store steps) (key : κ) (before : List (UnitStep ι ω)) :
    ∀ after, steps = before ++ after →
      keyed.get (keyed.run store before).store key = keyed.get store key ∨
        ∃ earlier unit opened later, before = earlier ++ .commit unit :: later ∧
          keyed.Commits store earlier unit opened ∧ key ∈ opened.touched ∧
            keyed.get (keyed.run store before).store key = keyed.get opened.staged key := by
  induction before using List.reverseRecOn with
  | nil => exact fun _ _ => Or.inl rfl
  | append_singleton before next ih =>
      intro after hsteps
      have hsteps' : steps = before ++ next :: after := by simpa using hsteps
      have hlift : keyed.get (keyed.run store (before ++ [next])).store key =
          keyed.get (keyed.run store before).store key →
          keyed.get (keyed.run store (before ++ [next])).store key = keyed.get store key ∨
            ∃ earlier unit opened later,
              before ++ [next] = earlier ++ .commit unit :: later ∧
              keyed.Commits store earlier unit opened ∧ key ∈ opened.touched ∧
                keyed.get (keyed.run store (before ++ [next])).store key =
                  keyed.get opened.staged key := by
        intro hsame
        rw [hsame]
        rcases ih (next :: after) hsteps' with
          hold | ⟨earlier, unit, opened, later, hbefore, hcommits, hkey, hvalue⟩
        · exact Or.inl hold
        · exact Or.inr ⟨earlier, unit, opened, later ++ [next], by rw [hbefore]; simp,
            hcommits, hkey, hvalue⟩
      rcases store_step (keyed.run store before) next with
        hsame | ⟨unit, opened, rfl, hactive, _⟩
      · apply hlift
        rw [run_append]
        exact congrArg (fun state => keyed.get state key) hsame
      · by_cases hkey : key ∈ opened.touched
        · exact Or.inr ⟨before, unit, opened, [], rfl, hactive, hkey, by rw [run_commit hactive]⟩
        · exact hlift (get_commit hactive (hundisturbed before unit opened after hsteps' hactive)
            hkey)

/-- Where committed changes stay, every commit finds the store as it was copied. -/
theorem KeepsUpdates.undisturbed {steps : List (UnitStep ι ω)}
    (hkeeps : keyed.KeepsUpdates store steps) (hapart : keyed.Apart store steps) :
    keyed.Undisturbed store steps := by
  intro before
  -- The commits before this one find the store as they copied it.
  induction hsize : before.length using Nat.strongRecOn generalizing before with
  | ind size ih =>
      intro unit opened after hsteps hcommits key
      obtain ⟨hstaged, earlier, since, hbefore, hcopied⟩ := opened_of_active before hcommits
      have hwalk : ∀ done rest, since = done ++ rest →
          keyed.get (keyed.run store (earlier ++ done)).store key =
            keyed.get opened.copied key := by
        intro done
        induction done using List.reverseRecOn with
        | nil =>
            intro rest _
            rw [List.append_nil, hcopied]
        | append_singleton done next ihdone =>
            intro rest hsince
            have hsince' : since = done ++ next :: rest := by simpa using hsince
            have hold := ihdone (next :: rest) hsince'
            rw [← List.append_assoc]
            rcases store_step (keyed.run store (earlier ++ done)) next with
              hsame | ⟨other, opened', rfl, hactive, _⟩
            · rw [run_append, ← hold]
              exact congrArg (fun state => keyed.get state key) hsame
            · have hsteps' : steps = (earlier ++ done) ++ .commit other ::
                  (rest ++ .commit unit :: after) := by
                rw [hsteps, hbefore, hsince']
                simp
              by_cases hkey : key ∈ opened'.touched
              · have hbefore' : before = (earlier ++ done) ++ .commit other :: rest := by
                  rw [hbefore, hsince', List.append_assoc]
                have hother : key ∉ opened.touched := by
                  apply hapart.touched hsteps' hactive _ key hkey
                  rw [← hbefore']
                  exact hcommits
                have hlast := hkeeps.kept (earlier ++ done) other opened' (rest ++ [.commit unit])
                  after (by rw [hsteps']; simp) hactive key hkey
                have hend : (earlier ++ done) ++ .commit other :: (rest ++ [.commit unit]) =
                    before ++ [.commit unit] := by
                  rw [hbefore']
                  simp
                rw [hend, run_commit hcommits, hstaged key hother] at hlast
                rw [run_commit hactive, ← hlast]
              · have hshorter : (earlier ++ done).length < size := by
                  rw [← hsize, hbefore, hsince']
                  simp
                have hfound := ih _ hshorter (earlier ++ done) rfl other opened' _ hsteps' hactive
                rw [get_commit hactive hfound hkey, hold]
      rw [hbefore]
      exact hwalk since [] (List.append_nil _).symm

/-- No change is lost exactly when every commit finds the store as it was copied. -/
theorem keepsUpdates_iff_undisturbed {steps : List (UnitStep ι ω)} (hapart : keyed.Apart store steps) :
    keyed.KeepsUpdates store steps ↔ keyed.Undisturbed store steps := by
  constructor
  · exact fun hkeeps => hkeeps.undisturbed hapart
  · intro hundisturbed
    exact {
      kept := fun _ _ _ between after hsteps hcommits _ hkey =>
        hundisturbed.kept hapart hcommits hkey between after hsteps
      traced := fun before after hsteps key => hundisturbed.traced key before after hsteps }

end Keyed

end PyWorkflowKit.Core
