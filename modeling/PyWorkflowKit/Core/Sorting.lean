import PyWorkflowKit.Core.Table
import Mathlib.Data.List.Perm.Basic
import Mathlib.Data.List.Sort
import Mathlib.Data.Prod.Lex
import Mathlib.Data.String.Basic

/-!
# Stable sorting by a key

`sortBy key values` is the stable sort that orders values by `key`.  When the
keys of the values are distinct the result depends on the multiset of values
only.
-/

namespace PyWorkflowKit.Core

variable {α β κ : Type} [LinearOrder κ]

def sortBy (key : α → κ) (values : List α) : List α :=
  values.insertionSort fun left right => key left ≤ key right

section Basic

variable (key : α → κ)

instance sortByTotal :
    Std.Total fun left right : α => key left ≤ key right :=
  ⟨fun left right => le_total (key left) (key right)⟩

instance sortByTrans :
    IsTrans α fun left right : α => key left ≤ key right :=
  ⟨fun _ _ _ => le_trans⟩

@[simp]
theorem sortBy_nil : sortBy key ([] : List α) = [] := rfl

theorem sortBy_perm (values : List α) : (sortBy key values).Perm values :=
  List.perm_insertionSort _ values

@[simp]
theorem mem_sortBy (values : List α) (value : α) :
    value ∈ sortBy key values ↔ value ∈ values :=
  (sortBy_perm key values).mem_iff

@[simp]
theorem length_sortBy (values : List α) :
    (sortBy key values).length = values.length :=
  (sortBy_perm key values).length_eq

theorem nodup_sortBy {values : List α} (hnodup : values.Nodup) :
    (sortBy key values).Nodup :=
  (sortBy_perm key values).nodup_iff.mpr hnodup

theorem sortBy_pairwise (values : List α) :
    (sortBy key values).Pairwise fun left right => key left ≤ key right :=
  List.pairwise_insertionSort _ values

/-- Sorting leaves a list that is already in key order unchanged. -/
theorem sortBy_eq_self {values : List α}
    (hsorted : values.Pairwise fun left right => key left ≤ key right) :
    sortBy key values = values :=
  List.Pairwise.insertionSort_eq hsorted

/-- An enumeration in key order of distinct keys is the sorted list. -/
theorem sortBy_eq_of_perm {values sorted : List α}
    (hperm : sorted.Perm values)
    (hsorted : sorted.Pairwise fun left right => key left < key right) :
    sortBy key values = sorted := by
  have hle : sorted.Pairwise fun left right => key left ≤ key right :=
    hsorted.imp le_of_lt
  have hinjective : ∀ left ∈ sorted, ∀ right ∈ sorted,
      key left = key right → left = right := by
    have hnodup : (sorted.map key).Nodup := by
      rw [List.Nodup, List.pairwise_map]
      exact hsorted.imp ne_of_lt
    intro left hleft right hright hkey
    exact List.inj_on_of_nodup_map hnodup hleft hright hkey
  refine List.Perm.eq_of_pairwise ?_ (sortBy_pairwise key values) hle
    ((sortBy_perm key values).trans hperm.symm)
  intro left right hleft hright hlr hrl
  have hleft' : left ∈ sorted :=
    hperm.mem_iff.mpr ((mem_sortBy key values left).mp hleft)
  exact hinjective left hleft' right hright (le_antisymm hlr hrl)

theorem sortBy_pairwise_lt {values : List α}
    (hnodup : (values.map key).Nodup) :
    (sortBy key values).Pairwise fun left right => key left < key right := by
  have hkeys : ((sortBy key values).map key).Nodup :=
    ((sortBy_perm key values).map key).nodup_iff.mpr hnodup
  rw [List.Nodup, List.pairwise_map] at hkeys
  exact (sortBy_pairwise key values).and hkeys |>.imp
    fun ⟨hle, hne⟩ => lt_of_le_of_ne hle hne

/-- Sorting depends on the multiset of values only when keys are distinct. -/
theorem sortBy_congr_perm {left right : List α} (hperm : left.Perm right)
    (hnodup : (left.map key).Nodup) : sortBy key left = sortBy key right :=
  (sortBy_eq_of_perm key ((sortBy_perm key left).trans hperm)
    (sortBy_pairwise_lt key hnodup)).symm

theorem sortBy_filter (keep : α → Bool) {values : List α}
    (hnodup : (values.map key).Nodup) :
    sortBy key (values.filter keep) = (sortBy key values).filter keep :=
  sortBy_eq_of_perm key ((sortBy_perm key values).filter keep)
    ((sortBy_pairwise_lt key hnodup).sublist List.filter_sublist)

end Basic

theorem sortBy_map (key : β → κ) (f : α → β) (values : List α) :
    sortBy key (values.map f) = (sortBy (fun value => key (f value)) values).map f := by
  induction values with
  | nil => rfl
  | cons first rest ih =>
      have hinsert : ∀ sorted : List α,
          List.orderedInsert (fun left right : β => key left ≤ key right)
            (f first) (sorted.map f) =
          (List.orderedInsert
            (fun left right : α => key (f left) ≤ key (f right))
            first sorted).map f := by
        intro sorted
        induction sorted with
        | nil => rfl
        | cons next others ihsorted =>
            by_cases hle : key (f first) ≤ key (f next)
            · simp [List.orderedInsert, hle]
            · simpa [List.orderedInsert, hle] using ihsorted
      have hrest := hinsert (sortBy (fun value => key (f value)) rest)
      rw [← ih] at hrest
      exact hrest

theorem sortBy_congr {left right : α → κ} {values : List α}
    (hkeys : ∀ value ∈ values, left value = right value) :
    sortBy left values = sortBy right values := by
  induction values with
  | nil => rfl
  | cons first rest ih =>
      have hrest := ih fun value hvalue =>
        hkeys value (List.mem_cons_of_mem _ hvalue)
      have hfirst := hkeys first List.mem_cons_self
      have hinsert : ∀ sorted : List α, (∀ value ∈ sorted, value ∈ rest) →
          List.orderedInsert (fun a b : α => left a ≤ left b) first sorted =
          List.orderedInsert (fun a b : α => right a ≤ right b) first sorted := by
        intro sorted hsorted
        induction sorted with
        | nil => rfl
        | cons next others ihsorted =>
            have hnext := hkeys next
              (List.mem_cons_of_mem _ (hsorted next List.mem_cons_self))
            have hothers := ihsorted fun value hvalue =>
              hsorted value (List.mem_cons_of_mem _ hvalue)
            simp only [List.orderedInsert, hfirst, hnext]
            split
            · rfl
            · rw [hothers]
      have hmem : ∀ value ∈ sortBy right rest, value ∈ rest :=
        fun value hvalue => (mem_sortBy right rest value).mp hvalue
      calc
        sortBy left (first :: rest)
          = List.orderedInsert (fun a b : α => left a ≤ left b) first
              (sortBy left rest) := rfl
        _ = List.orderedInsert (fun a b : α => left a ≤ left b) first
              (sortBy right rest) := by rw [hrest]
        _ = List.orderedInsert (fun a b : α => right a ≤ right b) first
              (sortBy right rest) := hinsert _ hmem
        _ = sortBy right (first :: rest) := rfl

/-- The values of two lists are related one to one, in any order. -/
def Shuffled (related : α → β → Prop) (left : List α) (right : List β) : Prop :=
  ∃ middle, left.Perm middle ∧ List.Forall₂ related middle right

/-- Sorting undoes a shuffle that keeps the keys. -/
theorem map_sortBy_of_shuffled {key : α → κ} {f : α → β} {related : α → α → Prop}
    {left right : List α} (hnodup : (left.map key).Nodup)
    (hrelated : ∀ first second, related first second → key first = key second ∧
      f first = f second) (hshuffled : Shuffled related left right) :
    (sortBy key left).map f = (sortBy key right).map f := by
  obtain ⟨middle, hperm, hmiddle⟩ := hshuffled
  have hpairs : ∀ values : List α, (sortBy key values).map f =
      (sortBy Prod.fst (values.map fun value => (key value, f value))).map Prod.snd := by
    intro values
    rw [sortBy_map, List.map_map]
    rfl
  have hsame : (middle.map fun value => (key value, f value)) =
      right.map fun value => (key value, f value) := by
    rw [← List.forall₂_eq_eq_eq, List.forall₂_map_left_iff, List.forall₂_map_right_iff]
    exact hmiddle.imp fun first second hthis => Prod.ext_iff.mpr (hrelated first second hthis)
  rw [sortBy_congr_perm key hperm hnodup, hpairs, hpairs, hsame]

/-- Lists whose sorted values are related one to one are related up to order. -/
theorem shuffled_of_sorted {key : α → κ} {related : α → α → Prop} {left right : List α}
    (hrelated : List.Forall₂ related (sortBy key left) (sortBy key right)) :
    Shuffled related left right := by
  have hcomp : Relation.Comp (List.Forall₂ related) List.Perm (sortBy key left) right :=
    ⟨sortBy key right, hrelated, sortBy_perm key right⟩
  rw [List.forall₂_comp_perm_eq_perm_comp_forall₂] at hcomp
  obtain ⟨middle, hperm, hmiddle⟩ := hcomp
  exact ⟨middle, (sortBy_perm key left).symm.trans hperm, hmiddle⟩

/-- Every value on the right is related to one on the left. -/
theorem exists_of_forall₂_right {related : α → β → Prop} {lefts : List α}
    {rights : List β} (hrelated : List.Forall₂ related lefts rights) {right : β}
    (hright : right ∈ rights) : ∃ left ∈ lefts, related left right := by
  induction hrelated with
  | nil => cases hright
  | cons hhead _ ih =>
      rcases List.mem_cons.mp hright with rfl | htail
      · exact ⟨_, List.mem_cons_self, hhead⟩
      · obtain ⟨left, hleft, hthis⟩ := ih htail
        exact ⟨left, List.mem_cons_of_mem _ hleft, hthis⟩

/-- Every value on the right comes from one on the left. -/
theorem Shuffled.exists_left {related : α → β → Prop} {left : List α} {right : List β}
    (hshuffled : Shuffled related left right) {value : β} (hvalue : value ∈ right) :
    ∃ other ∈ left, related other value := by
  obtain ⟨middle, hperm, hmiddle⟩ := hshuffled
  obtain ⟨other, hother, hrelated⟩ := exists_of_forall₂_right hmiddle hvalue
  exact ⟨other, hperm.mem_iff.mpr hother, hrelated⟩

/-- Related values are found under the same keys. -/
theorem find?_of_forall₂ {κ : Type} [DecidableEq κ] {left : α → κ} {right : β → κ}
    {related : α → β → Prop} {lefts : List α} {rights : List β}
    (hsame : ∀ first second, related first second → left first = right second)
    (hrelated : List.Forall₂ related lefts rights) (wanted : κ) :
    Option.Rel related (lefts.find? fun value => left value = wanted)
      (rights.find? fun value => right value = wanted) := by
  induction hrelated with
  | nil => exact .none
  | @cons first second _ _ hhead _ ih =>
      rw [List.find?_cons, List.find?_cons, hsame first second hhead]
      by_cases hkey : right second = wanted
      · rw [decide_eq_true hkey]
        exact .some hhead
      · rw [decide_eq_false hkey]
        exact ih

/-- Shuffled values are found under the same keys. -/
theorem find?_of_shuffled {κ : Type} [DecidableEq κ] {key : α → κ} {related : α → α → Prop}
    {left right : List α} (hnodup : (left.map key).Nodup)
    (hrelated : ∀ first second, related first second → key first = key second)
    (hshuffled : Shuffled related left right) (wanted : κ) :
    Option.Rel related (left.find? fun value => key value = wanted)
      (right.find? fun value => key value = wanted) := by
  obtain ⟨middle, hperm, hmiddle⟩ := hshuffled
  have hfound : (left.find? fun value => key value = wanted) =
      middle.find? fun value => key value = wanted := by
    have hnodup' := (hperm.map key).nodup_iff.mp hnodup
    apply Option.ext
    intro value
    exact ((⟨left, hnodup⟩ : Table key).find?_eq_some_iff wanted value).trans
      ((and_congr_left' hperm.mem_iff).trans
        ((⟨middle, hnodup'⟩ : Table key).find?_eq_some_iff wanted value).symm)
  rw [hfound]
  exact find?_of_forall₂ hrelated hmiddle wanted

/-- In a strictly ordered list the position of a value is the number of values
before it in the order. -/
theorem mem_zipIdx_iff (key : α → κ) {values : List α}
    (hsorted : values.Pairwise fun left right => key left < key right)
    (start rank : Nat) (value : α) :
    (value, rank) ∈ values.zipIdx start ↔
      value ∈ values ∧
        rank = start + values.countP fun other => key other < key value := by
  induction values generalizing start with
  | nil => simp
  | cons first rest ih =>
      have hfirst := (List.pairwise_cons.mp hsorted).1
      have hrest := (List.pairwise_cons.mp hsorted).2
      rw [List.zipIdx_cons, List.mem_cons, ih hrest (start + 1), List.mem_cons,
        Prod.mk.injEq]
      have hcount : (first :: rest).countP (fun other => key other < key first) =
          0 := by
        rw [List.countP_eq_zero]
        intro other hother
        rcases List.mem_cons.mp hother with rfl | hmem
        · simp
        · simpa using le_of_lt (hfirst other hmem)
      constructor
      · rintro (⟨rfl, rfl⟩ | ⟨hmem, rfl⟩)
        · exact ⟨Or.inl rfl, by rw [hcount, Nat.add_zero]⟩
        · refine ⟨Or.inr hmem, ?_⟩
          rw [List.countP_cons_of_pos (by simpa using hfirst value hmem)]
          omega
      · rintro ⟨rfl | hmem, hrank⟩
        · exact Or.inl ⟨rfl, by rw [hrank, hcount, Nat.add_zero]⟩
        · refine Or.inr ⟨hmem, ?_⟩
          rw [hrank, List.countP_cons_of_pos (by simpa using hfirst value hmem)]
          omega

section Ranks

variable {γ : Type} [DecidableEq γ]

/-- The position, counted from one, of a value among the values of its group. -/
def rankBy (group : α → γ) (key : α → κ) (values : List α) (value : α) : Nat :=
  1 + values.countP fun other => group other = group value ∧ key other < key value

/-- Enumerating one sorted group gives each of its members its rank. -/
theorem mem_zipIdx_group_iff (group : α → γ) (key : α → κ) {values : List α}
    (hnodup : (values.map key).Nodup) (name : γ) (value : α) (rank : Nat) :
    (value, rank) ∈
        (sortBy key (values.filter fun other => group other = name)).zipIdx 1 ↔
      value ∈ values ∧ group value = name ∧
        rank = rankBy group key values value := by
  have hgroup : ((values.filter fun other => group other = name).map key).Nodup :=
    hnodup.sublist (List.filter_sublist.map key)
  rw [mem_zipIdx_iff key (sortBy_pairwise_lt key hgroup), mem_sortBy,
    List.mem_filter, (sortBy_perm key _).countP_eq, List.countP_filter]
  have hcount : group value = name →
      values.countP (fun other => decide (key other < key value) &&
          decide (group other = name)) =
        values.countP fun other =>
          decide (group other = group value ∧ key other < key value) := by
    intro hname
    apply List.countP_congr
    intro other _
    simp [hname, and_comm]
  constructor
  · rintro ⟨⟨hmem, hname⟩, hrank⟩
    have hname' : group value = name := by simpa using hname
    exact ⟨hmem, hname', by rw [hrank, rankBy, hcount hname']⟩
  · rintro ⟨hmem, hname, hrank⟩
    exact ⟨⟨hmem, by simpa using hname⟩, by rw [hrank, rankBy, hcount hname]⟩

end Ranks

end PyWorkflowKit.Core
