import Mathlib.Algebra.Order.BigOperators.Group.List
import Mathlib.Algebra.GroupWithZero.Nat
import Mathlib.Algebra.Order.Group.Nat
import Mathlib.Logic.Relation

/-!
# Depth-first search

A search with an explicit stack finds exactly what can be reached along a
successor function.
-/

namespace PyWorkflowKit.Core

open Relation

variable {α : Type} [DecidableEq α]

/-- Take candidates from the stack and push the successors of the new ones. -/
def search (next : α → List α) : Nat → List α → List α → List α
  | 0, _, discovered => discovered
  | _ + 1, [], discovered => discovered
  | rounds + 1, candidate :: pending, discovered =>
      if candidate ∈ discovered then search next rounds pending discovered
      else search next rounds (next candidate ++ pending) (discovered ++ [candidate])

/-- The search, unless the rounds run out before the stack is empty. -/
def searchWithin (next : α → List α) : Nat → List α → List α → Option (List α)
  | _, [], discovered => some discovered
  | 0, _ :: _, _ => none
  | rounds + 1, candidate :: pending, discovered =>
      if candidate ∈ discovered then searchWithin next rounds pending discovered
      else searchWithin next rounds (next candidate ++ pending) (discovered ++ [candidate])

/-- The number of candidates that a search can still take from its stack. -/
def searchCost (next : α → List α) (nodes pending discovered : List α) : Nat :=
  pending.length +
    ((nodes.filter fun node => node ∉ discovered).map fun node => (next node).length).sum

variable {next : α → List α} {nodes : List α}

theorem filter_ne_sublist_erase (values : List α) (removed : α) :
    (values.filter fun value => value ≠ removed).Sublist (values.erase removed) := by
  induction values with
  | nil => exact List.Sublist.refl _
  | cons value rest ih =>
      by_cases heq : value = removed
      · subst heq
        simp
      · rw [List.filter_cons_of_pos (by simpa using heq), List.erase_cons_tail (by simpa using heq)]
        exact ih.cons_cons value

/-- Discovering a node pays for pushing its successors. -/
theorem searchCost_discover (next : α → List α) {candidate : α} (pending : List α)
    {discovered : List α} (hnode : candidate ∈ nodes) (hnew : candidate ∉ discovered) :
    searchCost next nodes (next candidate ++ pending) (discovered ++ [candidate]) + 1 ≤
      searchCost next nodes (candidate :: pending) discovered := by
  have hrest : nodes.filter (fun node => node ∉ discovered ++ [candidate]) =
      (nodes.filter fun node => node ∉ discovered).filter fun node => node ≠ candidate := by
    rw [List.filter_filter]
    apply List.filter_congr
    intro node _
    simp [not_or, and_comm]
  have hmem : candidate ∈ nodes.filter fun node => node ∉ discovered := by
    simp [hnode, hnew]
  have hsum := ((List.perm_cons_erase hmem).map fun node => (next node).length).sum_eq
  have hless := ((filter_ne_sublist_erase (nodes.filter fun node => node ∉ discovered)
    candidate).map fun node => (next node).length).sum_le_sum fun _ _ => Nat.zero_le _
  rw [List.map_cons, List.sum_cons] at hsum
  rw [searchCost, searchCost, hrest, hsum, List.length_append, List.length_cons]
  omega

/-- Whatever is found was discovered before or can be reached from the stack. -/
theorem reachable_of_mem_search (rounds : Nat) (pending discovered : List α) {found : α}
    (hfound : found ∈ search next rounds pending discovered) :
    found ∈ discovered ∨
      ∃ start ∈ pending, ReflTransGen (fun node other => other ∈ next node) start found := by
  induction rounds generalizing pending discovered with
  | zero => exact Or.inl hfound
  | succ rounds ih =>
      cases pending with
      | nil => exact Or.inl hfound
      | cons candidate pending =>
          rw [search] at hfound
          split at hfound
          · rcases ih pending discovered hfound with hdiscovered | ⟨start, hstart, hreach⟩
            · exact Or.inl hdiscovered
            · exact Or.inr ⟨start, List.mem_cons_of_mem _ hstart, hreach⟩
          · rcases ih _ _ hfound with hdiscovered | ⟨start, hstart, hreach⟩
            · rcases List.mem_append.mp hdiscovered with hdiscovered | hcandidate
              · exact Or.inl hdiscovered
              · rw [List.mem_singleton.mp hcandidate]
                exact Or.inr ⟨candidate, List.mem_cons_self, .refl⟩
            · rcases List.mem_append.mp hstart with hnext | hpending
              · exact Or.inr ⟨candidate, List.mem_cons_self, .head hnext hreach⟩
              · exact Or.inr ⟨start, List.mem_cons_of_mem _ hpending, hreach⟩

/-- A search with enough rounds keeps what it has and follows every successor. -/
theorem search_closed (hnodes : ∀ node, next node ⊆ nodes)
    (rounds : Nat) (pending discovered : List α) (hpending : pending ⊆ nodes)
    (hrounds : searchCost next nodes pending discovered < rounds)
    (hclosed : ∀ node ∈ discovered, next node ⊆ discovered ++ pending) :
    (discovered ++ pending ⊆ search next rounds pending discovered) ∧
      ∀ node ∈ search next rounds pending discovered,
        next node ⊆ search next rounds pending discovered := by
  induction rounds generalizing pending discovered with
  | zero => omega
  | succ rounds ih =>
      cases pending with
      | nil =>
          rw [List.append_nil] at hclosed ⊢
          exact ⟨List.Subset.refl _, hclosed⟩
      | cons candidate pending =>
          have hrest : pending ⊆ nodes := fun _ hmem => hpending (List.mem_cons_of_mem _ hmem)
          rw [search]
          split
          · next hold =>
            have hsame : discovered ++ candidate :: pending ⊆ discovered ++ pending := by
              intro node hnode
              rcases List.mem_append.mp hnode with hdiscovered | hmem
              · exact List.mem_append_left _ hdiscovered
              · rcases List.mem_cons.mp hmem with rfl | hmem
                · exact List.mem_append_left _ hold
                · exact List.mem_append_right _ hmem
            have hcost : searchCost next nodes pending discovered < rounds := by
              unfold searchCost at hrounds ⊢
              rw [List.length_cons] at hrounds
              omega
            obtain ⟨hkept, hfollows⟩ := ih pending discovered hrest hcost
              fun node hnode => List.Subset.trans (hclosed node hnode) hsame
            exact ⟨List.Subset.trans hsame hkept, hfollows⟩
          · next hnew =>
            have hcost := searchCost_discover next pending (hpending List.mem_cons_self) hnew
            have hsame : ∀ node, node ∈ discovered ++ candidate :: pending →
                node ∈ discovered ++ [candidate] ++ (next candidate ++ pending) := by
              intro node hnode
              simp only [List.mem_append, List.mem_cons] at hnode ⊢
              tauto
            obtain ⟨hkept, hfollows⟩ := ih (next candidate ++ pending)
              (discovered ++ [candidate])
              (List.append_subset.mpr ⟨hnodes candidate, hrest⟩) (by omega) (by
                intro node hnode
                rcases List.mem_append.mp hnode with hdiscovered | hcandidate
                · exact fun other hother => hsame other (hclosed node hdiscovered hother)
                · rw [List.mem_singleton.mp hcandidate]
                  intro other hother
                  exact List.mem_append_right _ (List.mem_append_left _ hother))
            exact ⟨fun node hnode => hkept (hsame node hnode), hfollows⟩

/-- From the successors of a node the search finds exactly what the node leads
to. -/
theorem mem_search_iff (hnodes : ∀ node, next node ⊆ nodes)
    {root found : α} {rounds : Nat} (hrounds : searchCost next nodes (next root) [] < rounds) :
    found ∈ search next rounds (next root) [] ↔
      TransGen (fun node other => other ∈ next node) root found := by
  constructor
  · intro hfound
    rcases reachable_of_mem_search rounds _ _ hfound with habsurd | ⟨start, hstart, hreach⟩
    · cases habsurd
    · exact TransGen.head' hstart hreach
  · intro hreach
    obtain ⟨hkept, hfollows⟩ := search_closed hnodes rounds (next root) []
      (hnodes root) hrounds (by simp)
    induction hreach with
    | single hstep => exact hkept (by simpa using hstep)
    | tail _ hstep ih => exact hfollows _ ih hstep

/-- A search with enough rounds ends with an empty stack. -/
theorem searchWithin_eq_some (hnodes : ∀ node, next node ⊆ nodes) (rounds : Nat)
    (pending discovered : List α) (hpending : pending ⊆ nodes)
    (hrounds : searchCost next nodes pending discovered < rounds) :
    searchWithin next rounds pending discovered =
      some (search next rounds pending discovered) := by
  induction rounds generalizing pending discovered with
  | zero => omega
  | succ rounds ih =>
      cases pending with
      | nil => rfl
      | cons candidate pending =>
          have hrest : pending ⊆ nodes := fun _ hmem => hpending (List.mem_cons_of_mem _ hmem)
          rw [searchWithin, search]
          split
          · have hcost : searchCost next nodes pending discovered < rounds := by
              rw [searchCost, List.length_cons] at hrounds
              rw [searchCost]
              omega
            exact ih pending discovered hrest hcost
          · next hnew =>
            have hcost := searchCost_discover next pending (hpending List.mem_cons_self) hnew
            exact ih _ _ (List.append_subset.mpr ⟨hnodes candidate, hrest⟩) (by omega)

/-- More rounds do not change how a search ends. -/
theorem searchWithin_mono {rounds more : Nat} {pending discovered found : List α}
    (hfound : searchWithin next rounds pending discovered = some found) (hmore : rounds ≤ more) :
    searchWithin next more pending discovered = some found := by
  induction more generalizing rounds pending discovered with
  | zero =>
      rw [Nat.le_zero.mp hmore] at hfound
      exact hfound
  | succ more ih =>
      cases pending with
      | nil => cases rounds <;> exact hfound
      | cons candidate pending =>
          cases rounds with
          | zero => cases hfound
          | succ rounds =>
              have hless := Nat.le_of_succ_le_succ hmore
              rw [searchWithin] at hfound ⊢
              split at hfound
              · next hold =>
                rw [if_pos hold]
                exact ih hfound hless
              · next hnew =>
                rw [if_neg hnew]
                exact ih hfound hless

/-- With enough rounds the search from a node ends, with what the node leads to. -/
theorem exists_searchWithin (hnodes : ∀ node, next node ⊆ nodes) (root : α) :
    ∃ found rounds, (∀ more, rounds ≤ more → searchWithin next more (next root) [] = some found) ∧
      ∀ node, node ∈ found ↔ TransGen (fun node other => other ∈ next node) root node := by
  have hcost := Nat.lt_succ_self (searchCost next nodes (next root) [])
  have hended := searchWithin_eq_some hnodes _ _ _ (hnodes root) hcost
  exact ⟨_, _, fun _ hmore => searchWithin_mono hended hmore,
    fun _ => mem_search_iff hnodes hcost⟩

end PyWorkflowKit.Core
