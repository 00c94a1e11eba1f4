import PyWorkflowKit.Core.Paths
import Mathlib.Order.Bounds.Basic
import Mathlib.Order.WellFounded
import Mathlib.Data.Set.Finite.Basic

/-!
# Finite dependency relations

A procedure that only finishes nodes without open dependencies, until there are none,
finishes the nodes whose dependencies are well-founded: all nodes, exactly when there is no
cycle.  One that finishes all such nodes at once finishes them by depth.
-/

namespace PyWorkflowKit.Core

open Relation

variable {α : Type} {needs : α → α → Prop} {nodes : List α}

/-- The dependencies of a node lead down to nodes without any. -/
def Grounded (needs : α → α → Prop) (node : α) : Prop :=
  Acc (fun dependency node => needs node dependency) node

/-- A chain of dependencies of this length ends in the node. -/
inductive EndsChain (needs : α → α → Prop) : Nat → α → Prop
  | start (node : α) : EndsChain needs 0 node
  | step {length : Nat} {node dependency : α} :
      needs node dependency → EndsChain needs length dependency →
        EndsChain needs (length + 1) node

/-- All related nodes are listed. -/
def Lists (needs : α → α → Prop) (nodes : List α) : Prop :=
  ∀ node dependency, needs node dependency → node ∈ nodes ∧ dependency ∈ nodes

/-- A finite relation has no cycle exactly when all its nodes are grounded. -/
theorem acyclic_iff_grounded (hlists : Lists needs nodes) :
    Acyclic needs ↔ ∀ node ∈ nodes, Grounded needs node := by
  constructor
  · intro hacyclic
    let below : {node // node ∈ nodes} → {node // node ∈ nodes} → Prop :=
      fun dependency node => TransGen needs node.1 dependency.1
    have : IsTrans {node // node ∈ nodes} below :=
      ⟨fun _ _ _ hfirst hsecond => hsecond.trans hfirst⟩
    have : Std.Irrefl below := ⟨fun node hcycle => hacyclic node.1 hcycle⟩
    have : Finite {node // node ∈ nodes} := List.finite_toSet nodes
    have hfounded : WellFounded below := Finite.wellFounded_of_trans_of_irrefl below
    intro node hnode
    have hgrounded : ∀ listed : {node // node ∈ nodes}, Grounded needs listed.1 := by
      intro listed
      induction listed using hfounded.induction with
      | _ listed ih =>
          refine ⟨_, fun dependency hneeds => ?_⟩
          exact ih ⟨dependency, (hlists _ _ hneeds).2⟩ (.single hneeds)
    exact hgrounded ⟨node, hnode⟩
  · intro hgrounded node hcycle
    have hnode : node ∈ nodes := by
      obtain ⟨dependency, hneeds, -⟩ := TransGen.head'_iff.mp hcycle
      exact (hlists _ _ hneeds).1
    have hacc := (hgrounded node hnode).transGen
    have hswapped : TransGen (fun dependency node => needs node dependency) node node :=
      transGen_swap.mpr hcycle
    clear hcycle hnode
    induction hacc with
    | intro node _ ih => exact ih node hswapped hswapped

/-- What comes after all its dependencies is grounded. -/
theorem grounded_of_mem {finished : List α}
    (hfirst : ∀ before node after, finished = before ++ node :: after →
      ∀ dependency, needs node dependency → dependency ∈ before) :
    ∀ node ∈ finished, Grounded needs node := by
  induction finished using List.reverseRecOn with
  | nil => simp
  | append_singleton finished last ih =>
      have hearlier : ∀ node ∈ finished, Grounded needs node := by
        apply ih
        intro before node after hsplit
        exact hfirst before node (after ++ [last]) (by simp [hsplit])
      intro node hnode
      rcases List.mem_append.mp hnode with hold | hnew
      · exact hearlier node hold
      · obtain rfl := List.mem_singleton.mp hnew
        refine ⟨_, fun dependency hneeds => hearlier dependency ?_⟩
        exact hfirst finished node [] rfl dependency hneeds

/-- Where every node that is left waits for another one that is left, the finished nodes are
the grounded ones. -/
theorem mem_finished_iff (hlists : Lists needs nodes) {finished : List α}
    (hgrounded : ∀ node ∈ finished, Grounded needs node)
    (hstuck : ∀ node ∈ nodes, node ∉ finished →
      ∃ dependency, needs node dependency ∧ dependency ∉ finished) :
    ∀ node ∈ nodes, node ∈ finished ↔ Grounded needs node := by
  intro node hnode
  refine ⟨hgrounded node, fun hthis => ?_⟩
  induction hthis with
  | intro node _ ih =>
      by_contra hopen
      obtain ⟨dependency, hneeds, hleft⟩ := hstuck node hnode hopen
      exact hleft (ih dependency hneeds (hlists _ _ hneeds).2)

/-- Such a procedure finishes all nodes exactly when there is no cycle. -/
theorem finishes_iff_acyclic (hlists : Lists needs nodes) {finished : List α}
    (hgrounded : ∀ node ∈ finished, Grounded needs node)
    (hstuck : ∀ node ∈ nodes, node ∉ finished →
      ∃ dependency, needs node dependency ∧ dependency ∉ finished) :
    nodes ⊆ finished ↔ Acyclic needs := by
  have hmem := mem_finished_iff hlists hgrounded hstuck
  rw [acyclic_iff_grounded hlists]
  constructor
  · intro hall node hnode
    exact (hmem node hnode).mp (hall hnode)
  · intro hgrounded node hnode
    exact (hmem node hnode).mpr (hgrounded node hnode)

section Chains

theorem EndsChain.of_succ {length : Nat} {node : α}
    (hchain : EndsChain needs (length + 1) node) : EndsChain needs length node := by
  induction length generalizing node with
  | zero => exact .start node
  | succ length ih =>
      cases hchain with
      | step hneeds hrest => exact .step hneeds (ih hrest)

theorem EndsChain.of_le {shorter length : Nat} {node : α} (hle : shorter ≤ length)
    (hchain : EndsChain needs length node) : EndsChain needs shorter node := by
  induction hle with
  | refl => exact hchain
  | step _ ih => exact ih hchain.of_succ

/-- The longest chain is the one that cannot be made longer. -/
theorem isGreatest_endsChain {length : Nat} {node : α}
    (hchain : EndsChain needs length node) (hlast : ¬ EndsChain needs (length + 1) node) :
    IsGreatest {other | EndsChain needs other node} length := by
  refine ⟨hchain, fun other hother => ?_⟩
  by_contra hlonger
  exact hlast (EndsChain.of_le (not_le.mp hlonger) hother)

end Chains

/-- Each layer lists the open nodes whose dependencies are finished, and in the end there
are none. -/
def Peels (needs : α → α → Prop) (nodes : List α) : List α → List (List α) → Prop
  | finished, [] => ∀ node ∈ nodes, node ∉ finished →
      ∃ dependency, needs node dependency ∧ dependency ∉ finished
  | finished, layer :: rest =>
      (∀ node, node ∈ layer ↔ node ∈ nodes ∧ node ∉ finished ∧
        ∀ dependency, needs node dependency → dependency ∈ finished) ∧
      Peels needs nodes (finished ++ layer) rest

section Peels

variable {finished : List α} {layers : List (List α)}

theorem Peels.subset (hpeels : Peels needs nodes finished layers) : layers.flatten ⊆ nodes := by
  induction layers generalizing finished with
  | nil => simp
  | cons layer rest ih =>
      rw [List.flatten_cons, List.append_subset]
      exact ⟨fun node hnode => ((hpeels.1 node).mp hnode).1, ih hpeels.2⟩

theorem Peels.nodup (hpeels : Peels needs nodes finished layers)
    (hlayers : ∀ layer ∈ layers, layer.Nodup) (hfinished : finished.Nodup) :
    (finished ++ layers.flatten).Nodup := by
  induction layers generalizing finished with
  | nil => simpa using hfinished
  | cons layer rest ih =>
      rw [List.flatten_cons, ← List.append_assoc]
      apply ih hpeels.2 fun other hother => hlayers other (List.mem_cons_of_mem _ hother)
      refine List.Nodup.append hfinished (hlayers layer List.mem_cons_self) ?_
      intro node hold hnew
      exact ((hpeels.1 node).mp hnew).2.1 hold

theorem Peels.grounded (hpeels : Peels needs nodes finished layers)
    (hfinished : ∀ node ∈ finished, Grounded needs node) :
    ∀ node ∈ finished ++ layers.flatten, Grounded needs node := by
  induction layers generalizing finished with
  | nil => simpa using hfinished
  | cons layer rest ih =>
      rw [List.flatten_cons, ← List.append_assoc]
      apply ih hpeels.2
      intro node hnode
      rcases List.mem_append.mp hnode with hold | hnew
      · exact hfinished node hold
      · exact ⟨_, fun dependency hneeds =>
          hfinished dependency (((hpeels.1 node).mp hnew).2.2 dependency hneeds)⟩

theorem Peels.stuck (hpeels : Peels needs nodes finished layers) :
    ∀ node ∈ nodes, node ∉ finished ++ layers.flatten →
      ∃ dependency, needs node dependency ∧ dependency ∉ finished ++ layers.flatten := by
  induction layers generalizing finished with
  | nil => simpa [Peels] using hpeels
  | cons layer rest ih =>
      rw [List.flatten_cons, ← List.append_assoc]
      exact ih hpeels.2

/-- The layers list all nodes exactly when there is no cycle. -/
theorem Peels.subset_iff_acyclic (hpeels : Peels needs nodes [] layers)
    (hlists : Lists needs nodes) : nodes ⊆ layers.flatten ↔ Acyclic needs := by
  apply finishes_iff_acyclic hlists
  · simpa using hpeels.grounded (by simp)
  · simpa using hpeels.stuck

end Peels

/-- The layers list the nodes by depth. -/
theorem Peels.depth {finished : List α} {layers : List (List α)}
    (hpeels : Peels needs nodes finished layers) (hlists : Lists needs nodes) (depth : Nat)
    (hfinished : ∀ node ∈ nodes, node ∈ finished ↔ ¬ EndsChain needs depth node) :
    ∀ index layer, layers[index]? = some layer → ∀ node ∈ layer,
      IsGreatest {length | EndsChain needs length node} (depth + index) := by
  induction layers generalizing finished depth with
  | nil => simp
  | cons first rest ih =>
      obtain ⟨hfirst, hrest⟩ := hpeels
      have hlayer : ∀ node ∈ nodes, node ∈ finished ++ first ↔
          ¬ EndsChain needs (depth + 1) node := by
        intro node hnode
        rw [List.mem_append, hfirst]
        constructor
        · rintro (hold | ⟨-, -, hdependencies⟩) hchain
          · exact (hfinished node hnode).mp hold hchain.of_succ
          · cases hchain with
            | step hneeds hshorter =>
                exact (hfinished _ (hlists _ _ hneeds).2).mp (hdependencies _ hneeds) hshorter
        · intro hnone
          by_cases hopen : node ∈ finished
          · exact Or.inl hopen
          · refine Or.inr ⟨hnode, hopen, fun dependency hneeds => ?_⟩
            rw [hfinished _ (hlists _ _ hneeds).2]
            exact fun hshorter => hnone (.step hneeds hshorter)
      intro index layer hlookup node hnode
      cases index with
      | zero =>
          cases hlookup
          obtain ⟨hknown, hopen, -⟩ := (hfirst node).mp hnode
          apply isGreatest_endsChain
          · by_contra hnone
            exact hopen ((hfinished node hknown).mpr hnone)
          · exact (hlayer node hknown).mp (List.mem_append_right _ hnode)
      | succ index =>
          have hdeeper := ih hrest (depth + 1) hlayer index layer hlookup node hnode
          rwa [Nat.add_right_comm] at hdeeper

end PyWorkflowKit.Core
