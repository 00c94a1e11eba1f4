import PyWorkflowKit.Domain.Json

/-!
# JSON up to key order

Values with the same members in any order, at every depth, and what the JSON functions make of
them.
-/

namespace PyWorkflowKit.Domain

open PyWorkflowKit.Core

mutual

/-- The values differ at most in the order of their dictionary keys. -/
def PyValue.Reordered : PyValue → PyValue → Prop
  | .none, .none => True
  | .bool left, .bool right => left = right
  | .int left, .int right => left = right
  | .float left finite, .float right finite' => left = right ∧ finite = finite'
  | .str left, .str right => left = right
  | .list left, .list right => ReorderedItems left right
  | .tuple left, .tuple right => ReorderedItems left right
  | .dict left, .dict right => ∃ listed, ReorderedMembers left listed ∧ listed.Perm right
  | .enum left, .enum right => left.Reordered right
  | .other left, .other right => left = right
  | _, _ => False

def ReorderedItems : List PyValue → List PyValue → Prop
  | [], [] => True
  | left :: lefts, right :: rights => left.Reordered right ∧ ReorderedItems lefts rights
  | _, _ => False

def ReorderedMembers : List (PyKey × PyValue) → List (PyKey × PyValue) → Prop
  | [], [] => True
  | (leftKey, left) :: lefts, (rightKey, right) :: rights =>
      (leftKey = rightKey ∧ left.Reordered right) ∧ ReorderedMembers lefts rights
  | _, _ => False

end

mutual

/-- Dictionaries with text keys, lists and finite scalars. -/
def PyValue.PlainJson : PyValue → Prop
  | .float _ finite => finite = true
  | .list items => PlainJsonItems items
  | .dict members =>
      (members.map fun member => member.1.text).Nodup ∧ PlainJsonMembers members
  | .tuple _ | .enum _ | .other _ => False
  | _ => True

def PlainJsonItems : List PyValue → Prop
  | [] => True
  | item :: rest => item.PlainJson ∧ PlainJsonItems rest

def PlainJsonMembers : List (PyKey × PyValue) → Prop
  | [] => True
  | (.str _, value) :: rest => value.PlainJson ∧ PlainJsonMembers rest
  | (.other _, _) :: _ => False

end

mutual

/-- The immutable values differ at most in the order of their keys. -/
def JsonValue.Reordered : JsonValue → JsonValue → Prop
  | .null, .null => True
  | .bool left, .bool right => left = right
  | .int left, .int right => left = right
  | .float left, .float right => left = right
  | .str left, .str right => left = right
  | .tuple left, .tuple right => JsonReorderedItems left right
  | .mapping left, .mapping right =>
      ∃ listed, JsonReorderedMembers left listed ∧ listed.Perm right
  | _, _ => False

def JsonReorderedItems : List JsonValue → List JsonValue → Prop
  | [], [] => True
  | left :: lefts, right :: rights => left.Reordered right ∧ JsonReorderedItems lefts rights
  | _, _ => False

def JsonReorderedMembers : List (String × JsonValue) → List (String × JsonValue) → Prop
  | [], [] => True
  | (leftKey, left) :: lefts, (rightKey, right) :: rights =>
      (leftKey = rightKey ∧ left.Reordered right) ∧ JsonReorderedMembers lefts rights
  | _, _ => False

end

mutual

/-- Every mapping has each key once, as a Python mapping has. -/
def JsonValue.DistinctKeys : JsonValue → Prop
  | .tuple items => DistinctKeysItems items
  | .mapping members => (members.map Prod.fst).Nodup ∧ DistinctKeysMembers members
  | _ => True

def DistinctKeysItems : List JsonValue → Prop
  | [] => True
  | item :: rest => item.DistinctKeys ∧ DistinctKeysItems rest

def DistinctKeysMembers : List (String × JsonValue) → Prop
  | [] => True
  | (_, value) :: rest => value.DistinctKeys ∧ DistinctKeysMembers rest

end

theorem reorderedMembers_iff {left right : List (PyKey × PyValue)} :
    ReorderedMembers left right ↔
      List.Forall₂ (fun first second => first.1 = second.1 ∧ first.2.Reordered second.2)
        left right := by
  induction left generalizing right with
  | nil => cases right <;> simp [ReorderedMembers]
  | cons first rest ih =>
      cases right with
      | nil => simp [ReorderedMembers]
      | cons second others => simp [ReorderedMembers, ih]

theorem plainMembers_eq_map (members : List (String × JsonValue)) :
    plainMembers members =
      members.map fun member => (PyKey.str member.1, plainJsonValue member.2) := by
  induction members with
  | nil => rfl
  | cons first rest ih => rw [plainMembers, ih, List.map_cons]

theorem canonicalMembers_eq_map (members : List (String × JsonValue)) :
    canonicalMembers members =
      members.map fun member => (member.1, canonicalJsonText member.2) := by
  induction members with
  | nil => rfl
  | cons first rest ih => rw [canonicalMembers, ih, List.map_cons]

theorem normalizeMembers_eq_map (path : String) (members : List (PyKey × PyValue)) :
    normalizeMembers path members = members.map fun member => (member.1.text,
      match member.1 with
      | .str name => (normalizeJsonValue (path ++ "." ++ name) member.2).map fun normalized =>
          (name, normalized)
      | .other _ => .error (.typeError (path ++ " mapping keys must be strings"))) := by
  induction members with
  | nil => rfl
  | cons first rest ih =>
      obtain ⟨key, value⟩ := first
      cases key <;> simp only [normalizeMembers, ih, List.map_cons]

theorem keys_of_reordered {left right : List (String × JsonValue)}
    (hsame : JsonReorderedMembers left right) : left.map Prod.fst = right.map Prod.fst := by
  induction left generalizing right with
  | nil =>
      cases right with
      | nil => rfl
      | cons second others => exact hsame.elim
  | cons first rest ih =>
      cases right with
      | nil => exact hsame.elim
      | cons second others =>
          obtain ⟨⟨hkey, -⟩, hrest⟩ := hsame
          rw [List.map_cons, List.map_cons, ih hrest]
          exact congrArg (· :: others.map Prod.fst) hkey

/-- Members of a mapping under distinct keys, collected in key order. -/
theorem gather_sorted_members {members : List (String × JsonValue)}
    (hdistinct : (members.map Prod.fst).Nodup) :
    (gather ((sortBy Prod.fst (members.map fun member =>
        (member.1, (.ok member : Except PyError (String × JsonValue))))).map Prod.snd)).map
      (fun normalized => JsonValue.mapping (dictOf normalized)) =
      .ok (.mapping (sortBy Prod.fst members)) := by
  have hok := gather_map_ok id (β := String × JsonValue) (sortBy Prod.fst members)
  have hstrict := sortBy_pairwise_lt Prod.fst hdistinct
  rw [sortBy_map, List.map_map]
  simp only [Function.comp_def]
  simp only [id] at hok
  rw [hok]
  simp [Except.map, dictOf_eq_self hstrict]

mutual

/-- Normalised plain JSON, as plain JSON again, is the same up to key order. -/
theorem exists_normalize_of_plain (path : String) (value : PyValue) (hplain : value.PlainJson) :
    ∃ json, normalizeJsonValue path value = .ok json ∧ (plainJsonValue json).Reordered value := by
  cases value with
  | none => exact ⟨_, rfl, trivial⟩
  | bool flag => exact ⟨_, rfl, rfl⟩
  | int number => exact ⟨_, rfl, rfl⟩
  | str text => exact ⟨_, rfl, rfl⟩
  | float repr finite =>
      rw [PyValue.PlainJson] at hplain
      subst hplain
      exact ⟨_, rfl, rfl, rfl⟩
  | list items =>
      obtain ⟨normalized, hnormalized, hsame⟩ := exists_normalizeItems_of_plain path 0 items hplain
      rw [normalizeJsonValue, hnormalized]
      exact ⟨_, rfl, hsame⟩
  | dict members =>
      obtain ⟨hdistinct, hmembers⟩ := hplain
      obtain ⟨normalized, hnormalized, hkeys, hsame⟩ :=
        exists_normalizeMembers_of_plain path members hmembers
      rw [← hkeys] at hdistinct
      rw [normalizeJsonValue, hnormalized, gather_sorted_members hdistinct]
      refine ⟨_, rfl, ?_⟩
      rw [plainMembers_eq_map] at hsame
      have hperm := ((sortBy_perm Prod.fst normalized).map
        fun member => (PyKey.str member.1, plainJsonValue member.2))
      obtain ⟨listed, hlisted, hshuffled⟩ :=
        List.perm_comp_forall₂ hperm (reorderedMembers_iff.mp hsame)
      rw [plainJsonValue, plainMembers_eq_map]
      exact ⟨listed, reorderedMembers_iff.mpr hlisted, hshuffled⟩
  | tuple items => exact hplain.elim
  | enum inner => exact hplain.elim
  | other typeName => exact hplain.elim

theorem exists_normalizeItems_of_plain (path : String) (index : Nat) (items : List PyValue)
    (hplain : PlainJsonItems items) :
    ∃ normalized, gather (normalizeItems path index items) = .ok normalized ∧
      ReorderedItems (plainItems normalized) items := by
  cases items with
  | nil => exact ⟨[], rfl, trivial⟩
  | cons item rest =>
      obtain ⟨json, hjson, hsame⟩ :=
        exists_normalize_of_plain (path ++ "[" ++ toString index ++ "]") item hplain.1
      obtain ⟨others, hothers, hrest⟩ :=
        exists_normalizeItems_of_plain path (index + 1) rest hplain.2
      rw [normalizeItems, gather, hjson, hothers]
      exact ⟨json :: others, rfl, hsame, hrest⟩

theorem exists_normalizeMembers_of_plain (path : String) (members : List (PyKey × PyValue))
    (hplain : PlainJsonMembers members) :
    ∃ normalized : List (String × JsonValue),
      normalizeMembers path members = normalized.map (fun member => (member.1, .ok member)) ∧
      normalized.map Prod.fst = members.map (fun member => member.1.text) ∧
      ReorderedMembers (plainMembers normalized) members := by
  cases members with
  | nil => exact ⟨[], rfl, rfl, trivial⟩
  | cons first rest =>
      obtain ⟨key, value⟩ := first
      cases key with
      | other text => exact hplain.elim
      | str name =>
          obtain ⟨json, hjson, hsame⟩ :=
            exists_normalize_of_plain (path ++ "." ++ name) value hplain.1
          obtain ⟨others, hothers, hkeys, hrest⟩ :=
            exists_normalizeMembers_of_plain path rest hplain.2
          refine ⟨(name, json) :: others, ?_, ?_, ⟨rfl, hsame⟩, hrest⟩
          · rw [normalizeMembers, hothers]
            simp only [hjson, Except.map, PyKey.text, List.map_cons]
          · rw [List.map_cons, List.map_cons, hkeys]
            rfl

end

mutual

/-- The plain form of sorted portable JSON normalises to it, in whatever order its keys stand. -/
theorem normalize_of_reordered (path : String) (json : JsonValue) (value : PyValue)
    (hsorted : json.Sorted) (hsame : (plainJsonValue json).Reordered value) :
    normalizeJsonValue path value = .ok json := by
  cases json with
  | null =>
      cases value <;> first | rfl | exact hsame.elim
  | bool flag =>
      cases value <;> first | exact hsame.elim | (cases hsame; rfl)
  | int number =>
      cases value <;> first | exact hsame.elim | (cases hsame; rfl)
  | float repr =>
      cases value <;> first | exact hsame.elim | (obtain ⟨rfl, rfl⟩ := hsame; rfl)
  | str text =>
      cases value <;> first | exact hsame.elim | (cases hsame; rfl)
  | tuple items =>
      cases value with
      | list others =>
          rw [normalizeJsonValue, normalizeItems_of_reordered path 0 items others hsorted hsame]
          rfl
      | _ => exact hsame.elim
  | mapping members =>
      cases value with
      | dict others =>
          obtain ⟨listed, hlisted, hperm⟩ := hsame
          have hdistinct : (members.map Prod.fst).Nodup :=
            List.pairwise_map.mpr (hsorted.1.imp ne_of_lt)
          have hmembers := normalizeMembers_of_reordered path members listed hsorted.2 hlisted
          have hshuffled : (members.map fun member =>
              (member.1, (.ok member : Except PyError (String × JsonValue)))).Perm
                (normalizeMembers path others) := by
            rw [← hmembers, normalizeMembers_eq_map, normalizeMembers_eq_map]
            exact hperm.map _
          have hkeys : ((members.map fun member =>
              (member.1, (.ok member : Except PyError (String × JsonValue)))).map
                Prod.fst).Nodup := by
            rw [List.map_map]
            exact hdistinct
          rw [normalizeJsonValue, ← sortBy_congr_perm Prod.fst hshuffled hkeys,
            gather_sorted_members hdistinct,
            sortBy_eq_self Prod.fst (hsorted.1.imp le_of_lt)]
      | _ => exact hsame.elim

theorem normalizeItems_of_reordered (path : String) (index : Nat) (items : List JsonValue)
    (others : List PyValue) (hsorted : SortedItems items)
    (hsame : ReorderedItems (plainItems items) others) :
    gather (normalizeItems path index others) = .ok items := by
  cases items with
  | nil =>
      cases others with
      | nil => rfl
      | cons second rest => exact hsame.elim
  | cons first rest =>
      cases others with
      | nil => exact hsame.elim
      | cons second others =>
          rw [normalizeItems, gather, normalize_of_reordered _ first second hsorted.1 hsame.1,
            normalizeItems_of_reordered path (index + 1) rest others hsorted.2 hsame.2]
          rfl

theorem normalizeMembers_of_reordered (path : String) (members : List (String × JsonValue))
    (others : List (PyKey × PyValue)) (hsorted : SortedMembers members)
    (hsame : ReorderedMembers (plainMembers members) others) :
    normalizeMembers path others = members.map fun member => (member.1, .ok member) := by
  cases members with
  | nil =>
      cases others with
      | nil => rfl
      | cons second rest => exact hsame.elim
  | cons first rest =>
      cases others with
      | nil => exact hsame.elim
      | cons second others =>
          obtain ⟨key, value⟩ := second
          obtain ⟨⟨hkey, hvalue⟩, hrest⟩ := hsame
          subst hkey
          rw [normalizeMembers, normalize_of_reordered _ first.2 value hsorted.1 hvalue,
            normalizeMembers_of_reordered path rest others hsorted.2 hrest]
          rfl

end

mutual

/-- The canonical text does not show in which order the keys stand. -/
theorem canonicalJsonText_of_reordered {left right : JsonValue} (hsame : left.Reordered right)
    (hdistinct : left.DistinctKeys) : canonicalJsonText left = canonicalJsonText right := by
  cases left with
  | null =>
      cases right <;> first | rfl | exact hsame.elim
  | bool value =>
      cases right <;> first | exact hsame.elim | (cases hsame; rfl)
  | int value =>
      cases right <;> first | exact hsame.elim | (cases hsame; rfl)
  | float value =>
      cases right <;> first | exact hsame.elim | (cases hsame; rfl)
  | str value =>
      cases right <;> first | exact hsame.elim | (cases hsame; rfl)
  | tuple items =>
      cases right with
      | tuple others =>
          rw [canonicalJsonText, canonicalJsonText,
            canonicalItems_of_reordered items others hsame hdistinct]
      | _ => exact hsame.elim
  | mapping members =>
      cases right with
      | mapping others =>
          obtain ⟨listed, hlisted, hperm⟩ := hsame
          have hsorted : sortBy Prod.fst (canonicalMembers members) =
              sortBy Prod.fst (canonicalMembers others) := by
            rw [canonicalMembers_of_reordered members listed hlisted hdistinct.2,
              canonicalMembers_eq_map, canonicalMembers_eq_map]
            apply sortBy_congr_perm _ (hperm.map _)
            rw [List.map_map]
            have hkeys := keys_of_reordered hlisted
            exact hkeys ▸ hdistinct.1
          rw [canonicalJsonText, canonicalJsonText, hsorted]
      | _ => exact hsame.elim

theorem canonicalItems_of_reordered (left right : List JsonValue)
    (hsame : JsonReorderedItems left right) (hdistinct : DistinctKeysItems left) :
    canonicalItems left = canonicalItems right := by
  cases left with
  | nil =>
      cases right with
      | nil => rfl
      | cons second others => exact hsame.elim
  | cons first rest =>
      cases right with
      | nil => exact hsame.elim
      | cons second others =>
          rw [canonicalItems, canonicalItems,
            canonicalJsonText_of_reordered hsame.1 hdistinct.1,
            canonicalItems_of_reordered rest others hsame.2 hdistinct.2]

theorem canonicalMembers_of_reordered (left right : List (String × JsonValue))
    (hsame : JsonReorderedMembers left right) (hdistinct : DistinctKeysMembers left) :
    canonicalMembers left = canonicalMembers right := by
  cases left with
  | nil =>
      cases right with
      | nil => rfl
      | cons second others => exact hsame.elim
  | cons first rest =>
      cases right with
      | nil => exact hsame.elim
      | cons second others =>
          obtain ⟨⟨hkey, hvalue⟩, hrest⟩ := hsame
          rw [canonicalMembers, canonicalMembers, hkey,
            canonicalJsonText_of_reordered hvalue hdistinct.1,
            canonicalMembers_of_reordered rest others hrest hdistinct.2]

end

end PyWorkflowKit.Domain
