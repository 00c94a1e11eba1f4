import PyWorkflowKit.Core.Layers

/-!
# Depth-first search for a cycle

The search enters a node before its neighbours and leaves it after them.  A neighbour that it
is still inside of closes a cycle; what it has left is grounded.
-/

namespace PyWorkflowKit.Core

open Relation

variable {α : Type} [DecidableEq α]

/-- The nodes that a search has entered, and those that it is still inside of. -/
structure Descent (α : Type) where
  visited : List α
  recStack : List α

/-- The loop over the neighbours of a node, given the search from one of them. -/
def descendAll (dfs : α → Descent α → Descent α × Option (List α)) :
    List α → Descent α → Descent α × Option (List α)
  | [], descent => (descent, none)
  | neighbor :: rest, descent =>
      if neighbor ∉ descent.visited then
        match dfs neighbor descent with
        | (after, some cycle) => (after, some cycle)
        | (after, none) => descendAll dfs rest after
      else if neighbor ∈ descent.recStack then
        (descent, some (descent.recStack.drop (descent.recStack.idxOf neighbor) ++ [neighbor]))
      else descendAll dfs rest descent

/-- The search from a node, which enters at most `depth` nodes one inside the other. -/
def dfs (neighbors : α → List α) : Nat → α → Descent α → Descent α × Option (List α)
  | 0, _, descent => (descent, none)
  | depth + 1, node, descent =>
      match descendAll (dfs neighbors depth) (neighbors node)
        ⟨descent.visited ++ [node], descent.recStack ++ [node]⟩ with
      | (after, some cycle) => (after, some cycle)
      | (after, none) => (⟨after.visited, after.recStack.dropLast⟩, none)

/-- The search from every node that it has not entered. -/
def findCycle (neighbors : α → List α) (depth : Nat) :
    List α → Descent α → Option (List α)
  | [], _ => none
  | node :: rest, descent =>
      if node ∈ descent.visited then findCycle neighbors depth rest descent
      else
        match dfs neighbors depth node descent with
        | (_, some cycle) => some cycle
        | (after, none) => findCycle neighbors depth rest after

variable {neighbors : α → List α} {nodes : List α}

/-- One node is a neighbour of another. -/
def Adjoins (neighbors : α → List α) (node neighbor : α) : Prop := neighbor ∈ neighbors node

/-- The search has entered nodes once, and those that it has left are grounded. -/
structure Descent.Sound (neighbors : α → List α) (nodes : List α) (descent : Descent α) :
    Prop where
  distinct : descent.visited.Nodup
  known : descent.visited ⊆ nodes
  inside : descent.recStack ⊆ descent.visited
  grounded : ∀ node ∈ descent.visited, node ∉ descent.recStack →
    Grounded (Adjoins neighbors) node

/-- What a part of the search does: it leaves all wanted nodes, or it finds a cycle. -/
def Explores (neighbors : α → List α) (nodes wanted : List α) (before : Descent α) :
    Descent α × Option (List α) → Prop
  | (after, none) => after.Sound neighbors nodes ∧ after.recStack = before.recStack ∧
      before.visited ⊆ after.visited ∧
      ∀ node ∈ wanted, node ∈ after.visited ∧ node ∉ after.recStack
  | (_, some _) => ¬ Acyclic (Adjoins neighbors)

theorem explores_descendAll {search : α → Descent α → Descent α × Option (List α)}
    (size : Nat) (hsearch : ∀ neighbor descent, descent.Sound neighbors nodes →
      neighbor ∈ nodes → neighbor ∉ descent.visited →
      (∀ other ∈ descent.recStack, TransGen (Adjoins neighbors) other neighbor) →
      size ≤ descent.visited.length →
      Explores neighbors nodes [neighbor] descent (search neighbor descent))
    (wanted : List α) {descent : Descent α} (hsound : descent.Sound neighbors nodes)
    (hwanted : wanted ⊆ nodes)
    (hpaths : ∀ other ∈ descent.recStack, ∀ neighbor ∈ wanted,
      TransGen (Adjoins neighbors) other neighbor)
    (hsize : size ≤ descent.visited.length) :
    Explores neighbors nodes wanted descent (descendAll search wanted descent) := by
  induction wanted generalizing descent with
  | nil => exact ⟨hsound, rfl, List.Subset.refl _, by simp⟩
  | cons neighbor rest ih =>
      have hrest : rest ⊆ nodes := fun node hnode => hwanted (List.mem_cons_of_mem _ hnode)
      rw [descendAll]
      split
      · next hnew =>
        have hfirst := hsearch neighbor descent hsound (hwanted List.mem_cons_self) hnew
          (fun other hother => hpaths other hother neighbor List.mem_cons_self) hsize
        split
        · next after cycle hfound =>
          rw [hfound] at hfirst
          exact hfirst
        · next after hfound =>
          rw [hfound] at hfirst
          obtain ⟨hafter, hstack, hgrown, hleft⟩ := hfirst
          have hlonger : size ≤ after.visited.length :=
            hsize.trans (hsound.distinct.subperm hgrown).length_le
          have hothers := ih hafter hrest (by
            rw [hstack]
            exact fun other hother node hnode =>
              hpaths other hother node (List.mem_cons_of_mem _ hnode)) hlonger
          revert hothers
          rcases descendAll search rest after with ⟨last, cycle⟩
          cases cycle with
          | some cycle => exact id
          | none =>
              rintro ⟨hlast, hlastStack, hlastGrown, hall⟩
              refine ⟨hlast, hlastStack.trans hstack, List.Subset.trans hgrown hlastGrown, ?_⟩
              rw [List.forall_mem_cons]
              obtain ⟨hentered, houtside⟩ := hleft neighbor List.mem_cons_self
              exact ⟨⟨hlastGrown hentered, hlastStack ▸ houtside⟩, hall⟩
      · next hold =>
        rw [not_not] at hold
        split
        · next hinside =>
          exact fun hacyclic => hacyclic neighbor
            (hpaths neighbor hinside neighbor List.mem_cons_self)
        · next houtside =>
          have hothers := ih hsound hrest
            (fun other hother node hnode =>
              hpaths other hother node (List.mem_cons_of_mem _ hnode)) hsize
          revert hothers
          rcases descendAll search rest descent with ⟨last, cycle⟩
          cases cycle with
          | some cycle => exact id
          | none =>
              rintro ⟨hlast, hlastStack, hlastGrown, hall⟩
              refine ⟨hlast, hlastStack, hlastGrown, ?_⟩
              rw [List.forall_mem_cons]
              exact ⟨⟨hlastGrown hold, hlastStack ▸ houtside⟩, hall⟩

/-- The search from a node leaves it grounded, or it finds a cycle. -/
theorem explores_dfs (hneighbors : ∀ node, neighbors node ⊆ nodes) (depth : Nat) {node : α}
    {descent : Descent α} (hsound : descent.Sound neighbors nodes) (hnode : node ∈ nodes)
    (hnew : node ∉ descent.visited)
    (hpaths : ∀ other ∈ descent.recStack, TransGen (Adjoins neighbors) other node)
    (hdepth : nodes.length ≤ depth + descent.visited.length) :
    Explores neighbors nodes [node] descent (dfs neighbors depth node descent) := by
  induction depth generalizing node descent with
  | zero =>
      have hdistinct : (node :: descent.visited).Nodup :=
        List.nodup_cons.mpr ⟨hnew, hsound.distinct⟩
      have hknown : node :: descent.visited ⊆ nodes := List.cons_subset.mpr ⟨hnode, hsound.known⟩
      have hlength := (hdistinct.subperm hknown).length_le
      rw [List.length_cons] at hlength
      omega
  | succ depth ih =>
      have hentered : Descent.Sound neighbors nodes
          ⟨descent.visited ++ [node], descent.recStack ++ [node]⟩ := by
        refine ⟨?_, ?_, ?_, fun other hother houtside => ?_⟩
        · rw [List.nodup_append_comm]
          exact List.nodup_cons.mpr ⟨hnew, hsound.distinct⟩
        · rw [List.append_subset]
          exact ⟨hsound.known, by simpa using hnode⟩
        · exact List.append_subset.mpr ⟨List.Subset.trans hsound.inside
            (List.subset_append_left _ _), List.subset_append_right _ _⟩
        · simp only [List.mem_append, List.mem_singleton, not_or] at hother houtside
          exact hsound.grounded other (hother.resolve_right houtside.2) houtside.1
      have hloop := explores_descendAll (nodes.length - depth)
        (fun neighbor inner hinner hneighbor hunvisited hbefore hsize =>
          ih hinner hneighbor hunvisited hbefore (by omega))
        (neighbors node) hentered (hneighbors node) (by
          intro other hother neighbor hneighbor
          rcases List.mem_append.mp hother with hold | hlast
          · exact (hpaths other hold).tail hneighbor
          · obtain rfl := List.mem_singleton.mp hlast
            exact .single hneighbor) (by
          rw [List.length_append, List.length_singleton]
          omega)
      rw [dfs]
      revert hloop
      rcases descendAll (dfs neighbors depth) (neighbors node)
        ⟨descent.visited ++ [node], descent.recStack ++ [node]⟩ with ⟨after, cycle⟩
      cases cycle with
      | some cycle => exact id
      | none =>
          rintro ⟨hafter, hstack, hgrown, hall⟩
          simp only at hstack hgrown
          have hnodeGrounded : Grounded (Adjoins neighbors) node :=
            ⟨_, fun neighbor hneighbor =>
              hafter.grounded neighbor (hall neighbor hneighbor).1 (hall neighbor hneighbor).2⟩
          have hnodeVisited : node ∈ after.visited := hgrown (by simp)
          have houtside : node ∉ descent.recStack := fun hinside => hnew (hsound.inside hinside)
          refine ⟨⟨hafter.distinct, hafter.known, ?_, ?_⟩, ?_, ?_, ?_⟩
          · simp only [hstack, List.dropLast_concat]
            exact fun other hother =>
              hgrown (List.mem_append_left _ (hsound.inside hother))
          · simp only [hstack, List.dropLast_concat]
            intro other hother hleft
            by_cases hsame : other = node
            · rwa [hsame]
            · apply hafter.grounded other hother
              rw [hstack]
              simp [hleft, hsame]
          · simp only [hstack, List.dropLast_concat]
          · exact fun other hother => hgrown (List.mem_append_left _ hother)
          · simp only [hstack, List.dropLast_concat, List.forall_mem_singleton]
            exact ⟨hnodeVisited, houtside⟩

/-- The search from all nodes finds a cycle exactly when there is one. -/
theorem findCycle_eq_none_iff (hneighbors : ∀ node, neighbors node ⊆ nodes)
    (hlists : Lists (Adjoins neighbors) nodes) :
    findCycle neighbors nodes.length nodes ⟨[], []⟩ = none ↔ Acyclic (Adjoins neighbors) := by
  have hrest : ∀ rest before, nodes = before ++ rest → ∀ descent : Descent α,
      descent.Sound neighbors nodes → descent.recStack = [] → before ⊆ descent.visited →
      (findCycle neighbors nodes.length rest descent = none ↔ Acyclic (Adjoins neighbors)) := by
    intro rest
    induction rest with
    | nil =>
        intro before hnodes descent hsound hstack hbefore
        rw [List.append_nil] at hnodes
        refine iff_of_true rfl ((acyclic_iff_grounded hlists).mpr fun node hnode => ?_)
        apply hsound.grounded node (hbefore (hnodes ▸ hnode))
        rw [hstack]
        exact List.not_mem_nil
    | cons node rest ih =>
        intro before hnodes descent hsound hstack hbefore
        have hsplit : nodes = (before ++ [node]) ++ rest := by simp [hnodes]
        rw [findCycle]
        split
        · next hvisited =>
          apply ih (before ++ [node]) hsplit descent hsound hstack
          rw [List.append_subset]
          exact ⟨hbefore, by simpa using hvisited⟩
        · next hnew =>
          have hmem : node ∈ nodes := by simp [hnodes]
          have hdfs := explores_dfs hneighbors nodes.length hsound hmem hnew (by simp [hstack])
            (Nat.le_add_right _ _)
          split
          · next after cycle hfound =>
            rw [hfound] at hdfs
            exact iff_of_false (by simp) hdfs
          · next after hfound =>
            rw [hfound] at hdfs
            obtain ⟨hafter, hafterStack, hgrown, hleft⟩ := hdfs
            apply ih (before ++ [node]) hsplit after hafter (hafterStack.trans hstack)
            rw [List.append_subset]
            exact ⟨List.Subset.trans hbefore hgrown, by simpa using (hleft node List.mem_cons_self).1⟩
  apply hrest nodes [] rfl ⟨[], []⟩ _ rfl (List.nil_subset _)
  exact ⟨List.nodup_nil, List.nil_subset _, List.nil_subset _, by simp⟩

end PyWorkflowKit.Core
