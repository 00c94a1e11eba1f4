import Mathlib.Data.List.Nodup
import Mathlib.Data.List.Basic

/-!
# Chains of steps

A partial successor function leads from key to key along labelled steps.  A search for a
target follows it for a bounded number of steps and gives up where it comes back to a key
that it has seen.
-/

namespace PyWorkflowKit.Core

variable {κ ε : Type} {next : κ → Option (ε × κ)}

/-- The steps with these labels lead from a key over the listed sources to a last key. -/
inductive Leads (next : κ → Option (ε × κ)) : κ → List ε → List κ → κ → Prop
  | here (key : κ) : Leads next key [] [] key
  | step {key later last : κ} {label : ε} {labels : List ε} {sources : List κ} :
      next key = some (label, later) → Leads next later labels sources last →
        Leads next key (label :: labels) (key :: sources) last

theorem Leads.length_eq {key last : κ} {labels : List ε} {sources : List κ}
    (hleads : Leads next key labels sources last) : labels.length = sources.length := by
  induction hleads with
  | here => rfl
  | step _ _ ih => simp [ih]

/-- The sources are distinct, none is the target and none is among the keys seen. -/
structure Fresh (seen : List κ) (target : κ) (sources : List κ) : Prop where
  distinct : sources.Nodup
  target : target ∉ sources
  unseen : ∀ key ∈ sources, key ∉ seen

variable [DecidableEq κ]

/-- The labels of the steps that a search for the target takes, and whether it gets there
before it runs out of rounds. -/
def trail (next : κ → Option (ε × κ)) (target : κ) : Nat → List κ → κ → List ε × Bool
  | 0, _, _ => ([], false)
  | rounds + 1, seen, key =>
      if key = target then ([], true)
      else if key ∈ seen then ([], false)
      else
        match next key with
        | none => ([], false)
        | some (label, later) =>
            let rest := trail next target rounds (key :: seen) later
            (label :: rest.1, rest.2)

section Trails

variable {target : κ}

omit [DecidableEq κ] in
theorem fresh_cons {seen sources : List κ} {key : κ} :
    Fresh seen target (key :: sources) ↔
      key ≠ target ∧ key ∉ seen ∧ Fresh (key :: seen) target sources := by
  constructor
  · intro hfresh
    obtain ⟨hkey, hdistinct⟩ := List.nodup_cons.mp hfresh.distinct
    obtain ⟨hne, htarget⟩ := List.ne_and_not_mem_of_not_mem_cons hfresh.target
    refine ⟨hne.symm, hfresh.unseen key List.mem_cons_self, hdistinct, htarget, ?_⟩
    intro other hother hseen
    rcases List.mem_cons.mp hseen with rfl | hold
    · exact hkey hother
    · exact hfresh.unseen other (List.mem_cons_of_mem _ hother) hold
  · rintro ⟨hne, hunseen, hfresh⟩
    refine ⟨List.nodup_cons.mpr ⟨fun hmem => ?_, hfresh.distinct⟩, ?_, ?_⟩
    · exact hfresh.unseen key hmem List.mem_cons_self
    · exact List.not_mem_cons_of_ne_of_not_mem hne.symm hfresh.target
    · intro other hother
      rcases List.mem_cons.mp hother with rfl | hrest
      · exact hunseen
      · exact fun hseen => hfresh.unseen other hrest (List.mem_cons_of_mem _ hseen)

/-- A chain without a repetition is followed for as many rounds as there are. -/
theorem prefix_trail {rounds : Nat} {seen : List κ} {key last : κ} {labels : List ε}
    {sources : List κ} (hleads : Leads next key labels sources last)
    (hfresh : Fresh seen target sources) (hlength : labels.length ≤ rounds) :
    labels <+: (trail next target rounds seen key).1 := by
  induction hleads generalizing rounds seen with
  | here => exact List.nil_prefix
  | step hnext _ ih =>
      obtain ⟨hne, hunseen, hrest⟩ := fresh_cons.mp hfresh
      cases rounds with
      | zero => simp at hlength
      | succ rounds =>
          simp only [trail, if_neg hne, if_neg hunseen, hnext]
          exact List.cons_prefix_cons.mpr ⟨rfl, ih hrest (by simpa using hlength)⟩

/-- A chain that leads to the target within the rounds is the one the search takes. -/
theorem trail_of_leads {rounds : Nat} {seen : List κ} {key last : κ} {labels : List ε}
    {sources : List κ} (hleads : Leads next key labels sources last) (hlast : last = target)
    (hfresh : Fresh seen target sources) (hlength : labels.length < rounds) :
    trail next target rounds seen key = (labels, true) := by
  induction hleads generalizing rounds seen with
  | here key =>
      obtain ⟨rounds, rfl⟩ : ∃ fewer, rounds = fewer + 1 := ⟨rounds - 1, by
        simp at hlength
        omega⟩
      simp [trail, hlast]
  | step hnext _ ih =>
      obtain ⟨hne, hunseen, hrest⟩ := fresh_cons.mp hfresh
      cases rounds with
      | zero => simp at hlength
      | succ rounds =>
          simp only [trail, if_neg hne, if_neg hunseen, hnext]
          rw [ih hlast hrest (by simpa using hlength)]

/-- One chain without a repetition leads to the target. -/
theorem labels_unique {key : κ} {labels others : List ε} {sources otherSources : List κ}
    (hleads : Leads next key labels sources target) (hfresh : Fresh [] target sources)
    (hother : Leads next key others otherSources target)
    (hotherFresh : Fresh [] target otherSources) : labels = others := by
  have hfirst : trail next target (labels.length + others.length + 1) [] key = (labels, true) := by
    apply trail_of_leads hleads rfl hfresh
    omega
  have hsecond : trail next target (labels.length + others.length + 1) [] key =
      (others, true) := by
    apply trail_of_leads hother rfl hotherFresh
    omega
  exact congrArg Prod.fst (hfirst.symm.trans hsecond)

/-- What the search takes is a chain without a repetition; it gets to the target before
the last round. -/
theorem leads_trail (target : κ) (rounds : Nat) (seen : List κ) (key : κ) :
    ∃ sources last, Leads next key (trail next target rounds seen key).1 sources last ∧
      Fresh seen target sources ∧ (trail next target rounds seen key).1.length ≤ rounds ∧
      ((trail next target rounds seen key).2 = true →
        last = target ∧ (trail next target rounds seen key).1.length < rounds) := by
  have hnone : Fresh seen target ([] : List κ) := ⟨List.nodup_nil, by simp, by simp⟩
  induction rounds generalizing seen key with
  | zero => exact ⟨[], key, .here key, hnone, by simp [trail], by simp [trail]⟩
  | succ rounds ih =>
      simp only [trail]
      split
      · next htarget => exact ⟨[], key, .here key, hnone, by simp, fun _ => ⟨htarget, by simp⟩⟩
      · next hne =>
        split
        · exact ⟨[], key, .here key, hnone, by simp, by simp⟩
        · next hunseen =>
          split
          · exact ⟨[], key, .here key, hnone, by simp, by simp⟩
          · next label later hnext =>
            obtain ⟨sources, last, hleads, hfresh, hlength, harrives⟩ :=
              ih (key :: seen) later ⟨List.nodup_nil, by simp, by simp⟩
            refine ⟨key :: sources, last, .step hnext hleads,
              fresh_cons.mpr ⟨hne, hunseen, hfresh⟩, by simpa using hlength, fun htrue => ?_⟩
            obtain ⟨hlast, hshorter⟩ := harrives htrue
            exact ⟨hlast, by simpa using hshorter⟩

end Trails

end PyWorkflowKit.Core
