import Mathlib.Data.List.Nodup
import Mathlib.Data.Fintype.Card
import Mathlib.Logic.Relation

/-!
# Paths, cycles and breadth-first search

A breadth-first search that remembers its paths finds one exactly when there is one.
A pair closes a cycle exactly when its relation already leads back.
-/

namespace PyWorkflowKit.Core

open Relation

section Cycles

variable {α : Type} {r : α → α → Prop}

/-- No node leads back to itself. -/
def Acyclic (r : α → α → Prop) : Prop := ∀ node, ¬ TransGen r node node

/-- A relation with one more pair. -/
def withPair (r : α → α → Prop) (first second : α) : α → α → Prop :=
  fun left right => r left right ∨ left = first ∧ right = second

/-- A way through a relation with one more pair either avoids the pair or leads to
and from it without it. -/
theorem TransGen.of_withPair {first second left right : α}
    (hreach : TransGen (withPair r first second) left right) :
    TransGen r left right ∨ ReflTransGen r left first ∧ ReflTransGen r second right := by
  induction hreach with
  | single hstep =>
      rcases hstep with hstep | ⟨rfl, rfl⟩
      · exact Or.inl (.single hstep)
      · exact Or.inr ⟨.refl, .refl⟩
  | tail _ hstep ih =>
      rcases hstep with hstep | ⟨rfl, rfl⟩
      · exact ih.imp (fun hold => hold.tail hstep) fun hold => ⟨hold.1, hold.2.tail hstep⟩
      · rcases ih with hold | hold
        · exact Or.inr ⟨hold.to_reflTransGen, .refl⟩
        · exact Or.inr ⟨hold.1, .refl⟩

/-- A pair that the relation does not lead back over closes no cycle. -/
theorem Acyclic.withPair {first second : α} (hacyclic : Acyclic r)
    (hopen : ¬ ReflTransGen r second first) : Acyclic (withPair r first second) := by
  intro node hcycle
  rcases TransGen.of_withPair hcycle with hold | ⟨hto, hfrom⟩
  · exact hacyclic node hold
  · exact hopen (hfrom.trans hto)

end Cycles

section Search

variable {α : Type} [DecidableEq α]

/-- What a breadth-first search keeps: the paths to extend, each with its last node
first, and the nodes it has met. -/
structure Frontier (α : Type) where
  queue : List (α × List α)
  visited : List α

namespace Frontier

/-- Extend a path by a node that was not met before. -/
def discover (path : α × List α) (frontier : Frontier α) (node : α) : Frontier α :=
  if node ∈ frontier.visited then frontier
  else ⟨frontier.queue ++ [(node, path.1 :: path.2)], frontier.visited ++ [node]⟩

/-- Take the oldest path until one ends in the target. -/
def findPath (next : α → List α) (target : α) : Nat → Frontier α → Option (List α)
  | 0, _ => none
  | rounds + 1, frontier =>
      match frontier.queue with
      | [] => none
      | path :: queue =>
          if path.1 = target then some (path.1 :: path.2).reverse
          else
            findPath next target rounds
              ((next path.1).foldl (discover path) ⟨queue, frontier.visited⟩)

/-- The number of paths that a search can still take. -/
def cost (frontier : Frontier α) (size : Nat) : Nat :=
  frontier.queue.length + (size - frontier.visited.length)

variable {next : α → List α} {start target : α}

/-- What holds whenever a search takes a path: every node was reached, and each one
waits in the queue or was passed. -/
structure Searching (next : α → List α) (start target : α) (frontier : Frontier α) :
    Prop where
  nodup : frontier.visited.Nodup
  started : start ∈ frontier.visited
  queued : ∀ path ∈ frontier.queue,
    ReflTransGen (fun node other => other ∈ next node) start path.1
  passed : ∀ node ∈ frontier.visited, (∃ path ∈ frontier.queue, path.1 = node) ∨
    node ≠ target ∧ next node ⊆ frontier.visited

/-- What a search knows while it looks at the successors of one node. -/
structure Extending (next : α → List α) (start target : α) (path : α × List α)
    (seen : List α) (frontier : Frontier α) : Prop where
  nodup : frontier.visited.Nodup
  started : start ∈ frontier.visited
  reached : ReflTransGen (fun node other => other ∈ next node) start path.1
  missed : path.1 ≠ target
  seen : ∀ node ∈ seen, node ∈ frontier.visited
  queued : ∀ path ∈ frontier.queue,
    ReflTransGen (fun node other => other ∈ next node) start path.1
  passed : ∀ node ∈ frontier.visited, node = path.1 ∨
    (∃ path ∈ frontier.queue, path.1 = node) ∨
      node ≠ target ∧ next node ⊆ frontier.visited

theorem Extending.discover {path : α × List α} {seen : List α} {frontier : Frontier α}
    (hextending : Extending next start target path seen frontier) {node : α}
    (hnode : node ∈ next path.1) :
    Extending next start target path (seen ++ [node]) (frontier.discover path node) := by
  unfold Frontier.discover
  split
  · next hmet =>
    exact { hextending with
      seen := by
        intro other hother
        rcases List.mem_append.mp hother with hother | hother
        · exact hextending.seen other hother
        · rw [List.mem_singleton.mp hother]
          exact hmet }
  · next hnew =>
    exact {
      nodup := by
        apply List.nodup_append.mpr
        apply And.intro hextending.nodup
        apply And.intro (List.nodup_singleton node)
        intro left hleft right hright heq
        rw [List.mem_singleton.mp hright] at heq
        exact hnew (heq ▸ hleft)
      started := List.mem_append_left _ hextending.started
      reached := hextending.reached
      missed := hextending.missed
      seen := by
        intro other hother
        rcases List.mem_append.mp hother with hother | hother
        · exact List.mem_append_left _ (hextending.seen other hother)
        · exact List.mem_append_right _ hother
      queued := by
        intro other hother
        rcases List.mem_append.mp hother with hother | hother
        · exact hextending.queued other hother
        · rw [List.mem_singleton.mp hother]
          exact hextending.reached.tail hnode
      passed := by
        intro other hother
        rcases List.mem_append.mp hother with hother | hother
        · rcases hextending.passed other hother with hcurrent | ⟨queued, hqueued, heq⟩ | hold
          · exact Or.inl hcurrent
          · exact Or.inr (Or.inl ⟨queued, List.mem_append_left _ hqueued, heq⟩)
          · exact Or.inr (Or.inr
              ⟨hold.1, fun _ hnext => List.mem_append_left _ (hold.2 hnext)⟩)
        · rw [List.mem_singleton.mp hother]
          exact Or.inr (Or.inl ⟨_, List.mem_append_right _ (List.mem_singleton.mpr rfl), rfl⟩) }

theorem Extending.discoverAll {path : α × List α} (nodes : List α) :
    ∀ {seen : List α} {frontier : Frontier α},
      Extending next start target path seen frontier → nodes ⊆ next path.1 →
      Extending next start target path (seen ++ nodes)
        (nodes.foldl (Frontier.discover path) frontier) := by
  induction nodes with
  | nil =>
      intro seen frontier hextending _
      simpa using hextending
  | cons node nodes ih =>
      intro seen frontier hextending hnodes
      have hstep := hextending.discover (hnodes List.mem_cons_self)
      simpa using ih hstep fun _ hother => hnodes (List.mem_cons_of_mem _ hother)

/-- One round of a search that has not found its target keeps what it knows. -/
theorem Searching.round {path : α × List α} {queue : List (α × List α)} {visited : List α}
    (hsearching : Searching next start target ⟨path :: queue, visited⟩)
    (hmissed : path.1 ≠ target) :
    Searching next start target
      ((next path.1).foldl (discover path) ⟨queue, visited⟩) := by
  have hbegin : Extending next start target path [] ⟨queue, visited⟩ := {
    nodup := hsearching.nodup
    started := hsearching.started
    reached := hsearching.queued path List.mem_cons_self
    missed := hmissed
    seen := by simp
    queued := fun other hother => hsearching.queued other (List.mem_cons_of_mem _ hother)
    passed := by
      intro node hnode
      rcases hsearching.passed node hnode with ⟨other, hother, heq⟩ | hold
      · rcases List.mem_cons.mp hother with rfl | hother
        · exact Or.inl heq.symm
        · exact Or.inr (Or.inl ⟨other, hother, heq⟩)
      · exact Or.inr (Or.inr hold) }
  have hend := hbegin.discoverAll (next path.1) (List.Subset.refl _)
  exact {
    nodup := hend.nodup
    started := hend.started
    queued := hend.queued
    passed := by
      intro node hnode
      rcases hend.passed node hnode with rfl | hold
      · exact Or.inr ⟨hmissed, fun other hother => hend.seen other (by simpa using hother)⟩
      · exact hold }

/-- Looking at a node costs nothing: what is pushed was not met before. -/
theorem cost_foldl_discover (path : α × List α) {every : List α} (nodes : List α) :
    ∀ frontier : Frontier α, frontier.visited.Nodup → frontier.visited ⊆ every →
      nodes ⊆ every →
      (nodes.foldl (discover path) frontier).cost every.length =
          frontier.cost every.length ∧
        (nodes.foldl (discover path) frontier).visited ⊆ every := by
  induction nodes with
  | nil => exact fun _ _ hvisited _ => ⟨rfl, hvisited⟩
  | cons node nodes ih =>
      intro frontier hnodup hvisited hnodes
      have hrest : nodes ⊆ every := fun _ hother => hnodes (List.mem_cons_of_mem _ hother)
      rw [List.foldl_cons]
      by_cases hmet : node ∈ frontier.visited
      · rw [discover, if_pos hmet]
        exact ih frontier hnodup hvisited hrest
      · rw [discover, if_neg hmet]
        have hnodup' : (frontier.visited ++ [node]).Nodup := by
          apply List.nodup_append.mpr
          apply And.intro hnodup
          apply And.intro (List.nodup_singleton node)
          intro left hleft right hright heq
          rw [List.mem_singleton.mp hright] at heq
          exact hmet (heq ▸ hleft)
        have hvisited' : frontier.visited ++ [node] ⊆ every :=
          List.append_subset.mpr ⟨hvisited, by simpa using hnodes List.mem_cons_self⟩
        obtain ⟨hcost, hkept⟩ := ih ⟨frontier.queue ++ [(node, path.1 :: path.2)],
          frontier.visited ++ [node]⟩ hnodup' hvisited' hrest
        apply And.intro _ hkept
        rw [hcost]
        have hsize := (List.Nodup.subperm hnodup' hvisited').length_le
        simp only [cost, List.length_append, List.length_singleton] at hsize ⊢
        omega

/-- A search with enough rounds finds a path exactly when one leads to the target. -/
theorem isSome_findPath_iff {every : List α} (hnext : ∀ node, next node ⊆ every)
    (rounds : Nat) :
    ∀ frontier : Frontier α, Searching next start target frontier →
      frontier.visited ⊆ every → frontier.cost every.length < rounds →
      ((findPath next target rounds frontier).isSome ↔
        ReflTransGen (fun node other => other ∈ next node) start target) := by
  induction rounds with
  | zero => omega
  | succ rounds ih =>
      rintro ⟨queue, visited⟩ hsearching hvisited hcost
      rw [findPath]
      cases queue with
      | nil =>
          constructor
          · intro habsurd
            cases habsurd
          · intro hreach
            have hclosed : ∀ node ∈ visited, node ≠ target ∧ next node ⊆ visited := by
              intro node hnode
              rcases hsearching.passed node hnode with ⟨path, hpath, _⟩ | hpassed
              · cases hpath
              · exact hpassed
            have hvisits : ∀ other, ReflTransGen (fun node other => other ∈ next node)
                start other → other ∈ visited := by
              intro other hother
              induction hother with
              | refl => exact hsearching.started
              | tail _ hstep hmem => exact (hclosed _ hmem).2 hstep
            exact absurd rfl (hclosed target (hvisits target hreach)).1
      | cons path queue =>
          by_cases hfound : path.1 = target
          · simp only [if_pos hfound, Option.isSome_some, true_iff]
            rw [← hfound]
            exact hsearching.queued path List.mem_cons_self
          · simp only [if_neg hfound]
            obtain ⟨hsame, hkept⟩ := cost_foldl_discover path (next path.1)
              ⟨queue, visited⟩ hsearching.nodup hvisited (hnext path.1)
            apply ih _ (hsearching.round hfound) hkept
            rw [hsame]
            simp only [cost, List.length_cons] at hcost ⊢
            omega

end Frontier

/-- A breadth-first search from one node. -/
def findPath (next : α → List α) (rounds : Nat) (start target : α) : Option (List α) :=
  Frontier.findPath next target rounds ⟨[(start, [])], [start]⟩

/-- The search finds a path exactly when there is one. -/
theorem isSome_findPath_iff [Fintype α] {next : α → List α} {start target : α} :
    (findPath next (Fintype.card α + 1) start target).isSome ↔
      ReflTransGen (fun node other => other ∈ next node) start target := by
  have hall : ∀ nodes : List α, nodes ⊆ Finset.univ.toList :=
    fun _ _ _ => Finset.mem_toList.mpr (Finset.mem_univ _)
  apply Frontier.isSome_findPath_iff (fun node => hall (next node))
  · exact {
      nodup := List.nodup_singleton start
      started := List.mem_singleton.mpr rfl
      queued := by
        intro path hpath
        rw [List.mem_singleton.mp hpath]
      passed := fun node hnode =>
        Or.inl ⟨_, List.mem_singleton.mpr rfl, (List.mem_singleton.mp hnode).symm⟩ }
  · exact hall _
  · have hpos : 0 < Fintype.card α := Fintype.card_pos_iff.mpr ⟨start⟩
    simp only [Frontier.cost, Finset.length_toList, Finset.card_univ, List.length_singleton]
    omega

end Search

end PyWorkflowKit.Core
