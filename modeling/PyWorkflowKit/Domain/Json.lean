import PyWorkflowKit.Core.Sha256
import PyWorkflowKit.Core.Sorting
import PyWorkflowKit.Core.Table
import PyWorkflowKit.Domain.Errors

/-!
# Portable JSON values

The values a task may return, their normalisation into immutable portable
JSON, the way back to plain containers, and the canonical digest.  A finite
float is represented by its `repr`, which determines it.
-/

namespace PyWorkflowKit.Domain

open PyWorkflowKit.Core

inductive PyKey where
  | str (value : String)
  | other (text : String)
deriving DecidableEq, Repr

/-- `str(key)`. -/
def PyKey.text : PyKey → String
  | str value => value
  | other text => text

/-- A Python object, as far as normalisation looks at it. -/
inductive PyValue where
  | none
  | bool (value : Bool)
  | int (value : Int)
  | float (repr : String) (finite : Bool)
  | str (value : String)
  | list (items : List PyValue)
  | tuple (items : List PyValue)
  | dict (members : List (PyKey × PyValue))
  | enum (value : PyValue)
  | other (typeName : String)

/-- Immutable portable JSON. -/
inductive JsonValue where
  | null
  | bool (value : Bool)
  | int (value : Int)
  | float (repr : String)
  | str (value : String)
  | tuple (items : List JsonValue)
  | mapping (members : List (String × JsonValue))

namespace JsonValue

mutual

def beq : JsonValue → JsonValue → Bool
  | null, null => true
  | bool left, bool right => left == right
  | int left, int right => left == right
  | float left, float right => left == right
  | str left, str right => left == right
  | tuple left, tuple right => beqItems left right
  | mapping left, mapping right => beqMembers left right
  | _, _ => false

def beqItems : List JsonValue → List JsonValue → Bool
  | [], [] => true
  | left :: lefts, right :: rights => beq left right && beqItems lefts rights
  | _, _ => false

def beqMembers : List (String × JsonValue) → List (String × JsonValue) → Bool
  | [], [] => true
  | (leftKey, left) :: lefts, (rightKey, right) :: rights =>
      leftKey == rightKey && beq left right && beqMembers lefts rights
  | _, _ => false

end

mutual

theorem beq_iff (left right : JsonValue) : beq left right = true ↔ left = right := by
  cases left <;> cases right <;> simp [beq, beqItems_iff, beqMembers_iff]

theorem beqItems_iff (left right : List JsonValue) :
    beqItems left right = true ↔ left = right := by
  cases left <;> cases right <;> simp [beqItems, beq_iff, beqItems_iff]

theorem beqMembers_iff (left right : List (String × JsonValue)) :
    beqMembers left right = true ↔ left = right := by
  cases left <;> cases right <;>
    simp [beqMembers, beq_iff, beqMembers_iff, Prod.ext_iff, and_assoc]

end

instance : DecidableEq JsonValue := fun left right =>
  decidable_of_iff (beq left right = true) (beq_iff left right)

end JsonValue

/-- Collect results in order; the first error wins. -/
def gather {α : Type} : List (Except PyError α) → Except PyError (List α)
  | [] => .ok []
  | first :: rest => do
      let value ← first
      let values ← gather rest
      return value :: values

/-- A sequence that returns had a first step that returned. -/
theorem bind_eq_ok {ε α β : Type} {first : Except ε α} {next : α → Except ε β} {value : β}
    (hbind : (first >>= next) = .ok value) :
    ∃ inner, first = .ok inner ∧ next inner = .ok value := by
  cases first with
  | error error => cases hbind
  | ok inner => exact ⟨inner, rfl, hbind⟩

/-- A mapped result that is a value comes from a value. -/
theorem map_eq_ok {ε α β : Type} {f : α → β} {result : Except ε α} {value : β}
    (hmap : result.map f = .ok value) : ∃ inner, result = .ok inner ∧ f inner = value := by
  cases result with
  | error error => cases hmap
  | ok inner =>
      cases hmap
      exact ⟨inner, rfl, rfl⟩

theorem gather_map_ok {α β : Type} (f : α → β) (values : List α) :
    gather (values.map fun value => (.ok (f value) : Except PyError β)) =
      .ok (values.map f) := by
  induction values with
  | nil => rfl
  | cons first rest ih =>
      simp only [List.map_cons, gather, ih]
      rfl

theorem gather_map_eq_ok {α β : Type} {f : α → Except PyError β} {inputs : List α}
    {values : List β}
    (hvalues : List.Forall₂ (fun input value => f input = .ok value) inputs values) :
    gather (inputs.map f) = .ok values := by
  induction hvalues with
  | nil => rfl
  | cons hhead _ ih =>
      simp only [List.map_cons, gather, ih, hhead]
      rfl

/-- The dictionary that a sequence of assignments leaves. -/
def dictOf {α : Type} (members : List (String × α)) : List (String × α) :=
  members.foldl (assignRow Prod.fst) []

mutual

/-- `normalize_json_value`. -/
def normalizeJsonValue (path : String) : PyValue → Except PyError JsonValue
  | .enum value => normalizeJsonValue path value
  | .none => .ok .null
  | .str value => .ok (.str value)
  | .bool value => .ok (.bool value)
  | .int value => .ok (.int value)
  | .float repr finite =>
      if finite then .ok (.float repr)
      else .error (.valueError (path ++ " must contain only finite JSON numbers"))
  | .dict members =>
      (gather ((sortBy Prod.fst (normalizeMembers path members)).map Prod.snd)).map
        fun normalized => .mapping (dictOf normalized)
  | .list items => (gather (normalizeItems path 0 items)).map JsonValue.tuple
  | .tuple items => (gather (normalizeItems path 0 items)).map JsonValue.tuple
  | .other typeName =>
      .error (.typeError (path ++ " contains unsupported value type " ++ typeName))

/-- The normalisation of every item, not yet collected. -/
def normalizeItems (path : String) (index : Nat) :
    List PyValue → List (Except PyError JsonValue)
  | [] => []
  | item :: rest =>
      normalizeJsonValue (path ++ "[" ++ toString index ++ "]") item ::
        normalizeItems path (index + 1) rest

/-- The normalisation of every member under the text its key sorts by. -/
def normalizeMembers (path : String) :
    List (PyKey × PyValue) → List (String × Except PyError (String × JsonValue))
  | [] => []
  | (key, value) :: rest =>
      (key.text,
        match key with
        | .str name =>
            (normalizeJsonValue (path ++ "." ++ name) value).map fun normalized =>
              (name, normalized)
        | .other _ => .error (.typeError (path ++ " mapping keys must be strings"))) ::
        normalizeMembers path rest

end

mutual

/-- `plain_json_value`. -/
def plainJsonValue : JsonValue → PyValue
  | .null => .none
  | .bool value => .bool value
  | .int value => .int value
  | .float repr => .float repr true
  | .str value => .str value
  | .tuple items => .list (plainItems items)
  | .mapping members => .dict (plainMembers members)

def plainItems : List JsonValue → List PyValue
  | [] => []
  | item :: rest => plainJsonValue item :: plainItems rest

def plainMembers : List (String × JsonValue) → List (PyKey × PyValue)
  | [] => []
  | (key, value) :: rest => (.str key, plainJsonValue value) :: plainMembers rest

end

mutual

/-- An immutable value as a Python object.  A read-only mapping equals the dictionary
it wraps and stands as that dictionary. -/
def JsonValue.object : JsonValue → PyValue
  | .null => .none
  | .bool value => .bool value
  | .int value => .int value
  | .float repr => .float repr true
  | .str value => .str value
  | .tuple items => .tuple (objectItems items)
  | .mapping members => .dict (objectMembers members)

def objectItems : List JsonValue → List PyValue
  | [] => []
  | item :: rest => item.object :: objectItems rest

def objectMembers : List (String × JsonValue) → List (PyKey × PyValue)
  | [] => []
  | (key, value) :: rest => (.str key, value.object) :: objectMembers rest

end

mutual

/-- Every mapping lists its members in strict key order. -/
def JsonValue.Sorted : JsonValue → Prop
  | .tuple items => SortedItems items
  | .mapping members =>
      members.Pairwise (fun left right => left.1 < right.1) ∧ SortedMembers members
  | _ => True

def SortedItems : List JsonValue → Prop
  | [] => True
  | item :: rest => item.Sorted ∧ SortedItems rest

def SortedMembers : List (String × JsonValue) → Prop
  | [] => True
  | (_, value) :: rest => value.Sorted ∧ SortedMembers rest

end

/-- Escape one character of a JSON string. -/
def jsonEscape (character : Char) : List Char :=
  match character with
  | '"' => ['\\', '"']
  | '\\' => ['\\', '\\']
  | '\n' => ['\\', 'n']
  | '\r' => ['\\', 'r']
  | '\t' => ['\\', 't']
  | other =>
      if other.toNat = 8 then ['\\', 'b']
      else if other.toNat = 12 then ['\\', 'f']
      else if other.toNat < 32 then
        ['\\', 'u', '0', '0', Sha256.hexDigit (other.toNat / 16),
          Sha256.hexDigit (other.toNat % 16)]
      else [other]

def jsonString (text : String) : String :=
  "\"" ++ String.ofList (text.toList.flatMap jsonEscape) ++ "\""

mutual

/-- `json.dumps` with sorted keys and compact separators. -/
def canonicalJsonText : JsonValue → String
  | .null => "null"
  | .bool value => if value then "true" else "false"
  | .int value => toString value
  | .float repr => repr
  | .str value => jsonString value
  | .tuple items => "[" ++ ",".intercalate (canonicalItems items) ++ "]"
  | .mapping members =>
      "\x7b" ++ ",".intercalate
        ((sortBy Prod.fst (canonicalMembers members)).map fun member =>
          jsonString member.1 ++ ":" ++ member.2) ++ "\x7d"

def canonicalItems : List JsonValue → List String
  | [] => []
  | item :: rest => canonicalJsonText item :: canonicalItems rest

def canonicalMembers : List (String × JsonValue) → List (String × String)
  | [] => []
  | (key, value) :: rest => (key, canonicalJsonText value) :: canonicalMembers rest

end

/-- `canonical_json_digest`. -/
def canonicalJsonDigest (value : JsonValue) : String :=
  "sha256:" ++ Sha256.hexDigestText (canonicalJsonText value)

section Assignments

variable {α : Type}

theorem mem_of_mem_assignRow {member row : String × α}
    {rows : List (String × α)} (hmem : member ∈ assignRow Prod.fst rows row) :
    member = row ∨ member ∈ rows := by
  induction rows with
  | nil => simpa [assignRow] using hmem
  | cons first rest ih =>
      rw [assignRow] at hmem
      split at hmem
      · rcases List.mem_cons.mp hmem with rfl | hrest
        · exact Or.inl rfl
        · exact Or.inr (List.mem_cons_of_mem _ hrest)
      · rcases List.mem_cons.mp hmem with rfl | hrest
        · exact Or.inr List.mem_cons_self
        · exact (ih hrest).imp_right (List.mem_cons_of_mem _)

theorem mem_of_mem_foldl_assignRow {member : String × α}
    (members : List (String × α)) :
    ∀ rows : List (String × α),
      member ∈ members.foldl (assignRow Prod.fst) rows →
      member ∈ members ∨ member ∈ rows := by
  induction members with
  | nil => exact fun rows hmem => Or.inr hmem
  | cons first rest ih =>
      intro rows hmem
      rcases ih _ hmem with hrest | hrow
      · exact Or.inl (List.mem_cons_of_mem _ hrest)
      · rcases mem_of_mem_assignRow hrow with rfl | hrows
        · exact Or.inl List.mem_cons_self
        · exact Or.inr hrows

theorem mem_of_mem_dictOf {member : String × α} {members : List (String × α)}
    (hmem : member ∈ dictOf members) : member ∈ members := by
  rcases mem_of_mem_foldl_assignRow members [] hmem with hmember | hnil
  · exact hmember
  · cases hnil

/-- Assigning members in key order leaves a strictly ordered dictionary. -/
theorem foldl_assignRow_pairwise (members : List (String × α)) :
    ∀ rows : List (String × α),
      rows.Pairwise (fun left right => left.1 < right.1) →
      members.Pairwise (fun left right => left.1 ≤ right.1) →
      (∀ row ∈ rows, ∀ member ∈ members, row.1 ≤ member.1) →
      (members.foldl (assignRow Prod.fst) rows).Pairwise
        fun left right => left.1 < right.1 := by
  induction members with
  | nil => exact fun rows hrows _ _ => hrows
  | cons first rest ih =>
      intro rows hrows hmembers hbelow
      have hfirst := (List.pairwise_cons.mp hmembers).1
      have hrest := (List.pairwise_cons.mp hmembers).2
      refine ih (assignRow Prod.fst rows first) ?_ hrest ?_
      · have hkeys : (rows.map Prod.fst).Pairwise (· < ·) :=
          List.pairwise_map.mpr hrows
        have hassigned :
            ((assignRow Prod.fst rows first).map Prod.fst).Pairwise (· < ·) := by
          rw [map_key_assignRow]
          split
          · exact hkeys
          · next habsent =>
            refine List.pairwise_append.mpr
              ⟨hkeys, List.pairwise_singleton _ _, ?_⟩
            intro key hkey other hother
            rw [List.mem_singleton.mp hother]
            obtain ⟨row, hrow, rfl⟩ := List.mem_map.mp hkey
            refine lt_of_le_of_ne (hbelow row hrow first List.mem_cons_self) ?_
            intro heq
            exact habsent (heq ▸ List.mem_map_of_mem hrow)
        exact List.pairwise_map.mp hassigned
      · intro row hrow member hmember
        rcases mem_of_mem_assignRow hrow with rfl | hrow'
        · exact hfirst member hmember
        · exact hbelow row hrow' member (List.mem_cons_of_mem _ hmember)

theorem foldl_assignRow_eq_append (members : List (String × α)) :
    ∀ rows : List (String × α), ((rows ++ members).map Prod.fst).Nodup →
      members.foldl (assignRow Prod.fst) rows = rows ++ members := by
  induction members with
  | nil => simp
  | cons first rest ih =>
      intro rows hnodup
      have hassign : assignRow Prod.fst rows first = rows ++ [first] := by
        have hprefix : ((rows ++ [first]).map Prod.fst).Nodup := by
          refine hnodup.sublist (List.Sublist.map _ ?_)
          exact List.Sublist.append_left (by simp) rows
        let table : Table (Prod.fst : String × α → String) :=
          ⟨rows, hprefix.sublist (by simp)⟩
        have habsent : table.find? first.1 = none := by
          rw [Table.find?_eq_none_iff]
          intro other hother hkey
          rw [List.map_append, List.nodup_append] at hprefix
          exact hprefix.2.2 other.1 (List.mem_map_of_mem hother) first.1
            (by simp) hkey
        exact Table.rows_set_of_absent table habsent
      rw [List.foldl_cons, hassign, ih (rows ++ [first]) (by simpa using hnodup)]
      simp

theorem dictOf_eq_self {members : List (String × α)}
    (hsorted : members.Pairwise fun left right => left.1 < right.1) :
    dictOf members = members := by
  have hnodup : (members.map Prod.fst).Nodup :=
    List.pairwise_map.mpr (hsorted.imp ne_of_lt)
  simpa [dictOf] using foldl_assignRow_eq_append members [] hnodup

end Assignments

theorem gather_eq_error {α : Type} {results : List (Except PyError α)}
    {error : PyError} (herror : gather results = .error error) :
    .error error ∈ results := by
  induction results with
  | nil => cases herror
  | cons first rest ih =>
      cases hfirst : first with
      | error thrown =>
          simp only [gather, hfirst] at herror
          cases herror
          exact List.mem_cons_self
      | ok value =>
          cases hrest : gather rest with
          | error thrown =>
              simp only [gather, hfirst, hrest] at herror
              cases herror
              exact List.mem_cons_of_mem _ (ih hrest)
          | ok others =>
              simp only [gather, hfirst, hrest] at herror
              cases herror

theorem forall₂_of_gather {α : Type} {results : List (Except PyError α)} :
    ∀ {values : List α}, gather results = .ok values →
      List.Forall₂ (fun result value => result = .ok value) results values := by
  induction results with
  | nil =>
      intro values hvalues
      cases hvalues
      exact List.Forall₂.nil
  | cons first rest ih =>
      intro values hvalues
      cases hfirst : first with
      | error error =>
          simp only [gather, hfirst] at hvalues
          cases hvalues
      | ok value =>
          cases hrest : gather rest with
          | error error =>
              simp only [gather, hfirst, hrest] at hvalues
              cases hvalues
          | ok others =>
              simp only [gather, hfirst, hrest] at hvalues
              cases hvalues
              exact List.Forall₂.cons rfl (ih hrest)

/-- Results are gathered when all of them are values. -/
theorem exists_gather_iff {α : Type} {results : List (Except PyError α)} :
    (∃ values, gather results = .ok values) ↔
      ∀ result ∈ results, ∃ value, result = .ok value := by
  induction results with
  | nil => exact iff_of_true ⟨[], rfl⟩ (by simp)
  | cons first rest ih =>
      rw [List.forall_mem_cons, ← ih]
      constructor
      · rintro ⟨values, hvalues⟩
        obtain ⟨value, hvalue, hrest⟩ := bind_eq_ok hvalues
        obtain ⟨others, hothers, -⟩ := bind_eq_ok hrest
        exact ⟨⟨value, hvalue⟩, others, hothers⟩
      · rintro ⟨⟨value, rfl⟩, others, hothers⟩
        exact ⟨value :: others, by rw [gather, hothers]; rfl⟩

theorem mem_of_gather {α : Type} {results : List (Except PyError α)} {values : List α}
    {value : α} (hvalues : gather results = .ok values) (hvalue : value ∈ values) :
    .ok value ∈ results := by
  have hall := forall₂_of_gather hvalues
  clear hvalues
  induction hall with
  | nil => cases hvalue
  | cons hhead _ ih =>
      rcases List.mem_cons.mp hvalue with rfl | hrest
      · exact hhead ▸ List.mem_cons_self
      · exact List.mem_cons_of_mem _ (ih hrest)

theorem sortedItems_iff (items : List JsonValue) :
    SortedItems items ↔ ∀ item ∈ items, item.Sorted := by
  induction items with
  | nil => simp [SortedItems]
  | cons first rest ih => simp [SortedItems, ih]

theorem sortedMembers_iff (members : List (String × JsonValue)) :
    SortedMembers members ↔ ∀ member ∈ members, member.2.Sorted := by
  induction members with
  | nil => simp [SortedMembers]
  | cons first rest ih => simp [SortedMembers, ih]

theorem keys_of_collected
    {entries : List (String × Except PyError (String × JsonValue))}
    {members : List (String × JsonValue)}
    (hcollected : List.Forall₂ (fun entry member => entry.2 = .ok member)
      entries members)
    (hentries : ∀ entry ∈ entries, ∀ member, entry.2 = .ok member →
      member.1 = entry.1 ∧ member.2.Sorted) :
    members.map Prod.fst = entries.map Prod.fst ∧
      ∀ member ∈ members, member.2.Sorted := by
  induction hcollected with
  | nil => simp
  | cons hhead _ ih =>
      have hfirst := hentries _ List.mem_cons_self _ hhead
      have hrest := ih fun entry hentry =>
        hentries entry (List.mem_cons_of_mem _ hentry)
      exact ⟨by simp [hfirst.1, hrest.1],
        by simpa using ⟨hfirst.2, by simpa using hrest.2⟩⟩

/-- Members collected from entries in key order form a sorted mapping. -/
theorem sorted_mapping_of_entries
    {entries : List (String × Except PyError (String × JsonValue))}
    {members : List (String × JsonValue)}
    (hentries : ∀ entry ∈ entries, ∀ member, entry.2 = .ok member →
      member.1 = entry.1 ∧ member.2.Sorted)
    (hmembers : gather ((sortBy Prod.fst entries).map Prod.snd) = .ok members) :
    (JsonValue.mapping (dictOf members)).Sorted := by
  have hforall := forall₂_of_gather hmembers
  rw [List.forall₂_map_left_iff] at hforall
  obtain ⟨hkeys, hvalues⟩ := keys_of_collected hforall fun entry hentry =>
    hentries entry ((mem_sortBy _ _ _).mp hentry)
  have hle : members.Pairwise fun left right => left.1 ≤ right.1 := by
    have hkeysSorted : ((sortBy Prod.fst entries).map Prod.fst).Pairwise (· ≤ ·) :=
      List.pairwise_map.mpr (sortBy_pairwise Prod.fst entries)
    rw [← hkeys] at hkeysSorted
    exact List.pairwise_map.mp hkeysSorted
  refine ⟨?_, (sortedMembers_iff _).mpr fun member hmember =>
    hvalues member (mem_of_mem_dictOf hmember)⟩
  exact foldl_assignRow_pairwise members [] List.Pairwise.nil hle (by simp)

mutual

/-- Normalisation returns mappings in strict key order, at every depth. -/
theorem sorted_of_normalize (path : String) (value : PyValue) {json : JsonValue}
    (hnormalize : normalizeJsonValue path value = .ok json) : json.Sorted := by
  cases value with
  | enum inner =>
      rw [normalizeJsonValue] at hnormalize
      exact sorted_of_normalize path inner hnormalize
  | none => cases hnormalize; trivial
  | str text => cases hnormalize; trivial
  | bool flag => cases hnormalize; trivial
  | int number => cases hnormalize; trivial
  | float repr finite =>
      rw [normalizeJsonValue] at hnormalize
      split at hnormalize
      · cases hnormalize; trivial
      · cases hnormalize
  | dict members =>
      rw [normalizeJsonValue] at hnormalize
      cases hmembers :
          gather ((sortBy Prod.fst (normalizeMembers path members)).map Prod.snd) with
      | error error => rw [hmembers] at hnormalize; cases hnormalize
      | ok normalized =>
          rw [hmembers] at hnormalize
          cases hnormalize
          exact sorted_mapping_of_entries
            (sorted_of_normalizeMembers path members) hmembers
  | list items =>
      rw [normalizeJsonValue] at hnormalize
      cases hitems : gather (normalizeItems path 0 items) with
      | error error => rw [hitems] at hnormalize; cases hnormalize
      | ok normalized =>
          rw [hitems] at hnormalize
          cases hnormalize
          exact sorted_of_normalizeItems path 0 items hitems
  | tuple items =>
      rw [normalizeJsonValue] at hnormalize
      cases hitems : gather (normalizeItems path 0 items) with
      | error error => rw [hitems] at hnormalize; cases hnormalize
      | ok normalized =>
          rw [hitems] at hnormalize
          cases hnormalize
          exact sorted_of_normalizeItems path 0 items hitems
  | other typeName => cases hnormalize

theorem sorted_of_normalizeItems (path : String) (index : Nat)
    (items : List PyValue) {normalized : List JsonValue}
    (hitems : gather (normalizeItems path index items) = .ok normalized) :
    SortedItems normalized := by
  cases items with
  | nil => cases hitems; trivial
  | cons item rest =>
      rw [normalizeItems] at hitems
      cases hforall : forall₂_of_gather hitems with
      | cons hhead htail =>
          refine ⟨sorted_of_normalize _ item hhead, ?_⟩
          refine sorted_of_normalizeItems path (index + 1) rest ?_
          rw [gather, hhead] at hitems
          cases hrest : gather (normalizeItems path (index + 1) rest) with
          | error error => rw [hrest] at hitems; cases hitems
          | ok others => rw [hrest] at hitems; cases hitems; rfl

theorem sorted_of_normalizeMembers (path : String)
    (members : List (PyKey × PyValue)) :
    ∀ entry ∈ normalizeMembers path members, ∀ member, entry.2 = .ok member →
      member.1 = entry.1 ∧ member.2.Sorted := by
  cases members with
  | nil => simp [normalizeMembers]
  | cons first rest =>
      obtain ⟨key, value⟩ := first
      intro entry hentry member hmember
      simp only [normalizeMembers, List.mem_cons] at hentry
      rcases hentry with rfl | hrest
      · cases key with
        | other text => cases hmember
        | str name =>
            cases hvalue : normalizeJsonValue (path ++ "." ++ name) value with
            | error error => simp [hvalue, Except.map] at hmember
            | ok normalized =>
                simp only [hvalue, Except.map, Except.ok.injEq] at hmember
                subst hmember
                exact ⟨rfl, sorted_of_normalize _ value hvalue⟩
      · exact sorted_of_normalizeMembers path rest entry hrest member hmember

end

mutual

/-- Normalising the plain form of sorted portable JSON gives it back. -/
theorem normalize_plain (path : String) (json : JsonValue) (hsorted : json.Sorted) :
    normalizeJsonValue path (plainJsonValue json) = .ok json := by
  cases json with
  | null => rfl
  | bool flag => rfl
  | int number => rfl
  | float repr => rfl
  | str text => rfl
  | tuple items =>
      simp only [plainJsonValue, normalizeJsonValue]
      rw [normalizeItems_plain path 0 items hsorted]
      rfl
  | mapping members =>
      simp only [plainJsonValue, normalizeJsonValue]
      have hmembers := normalizeMembers_plain path members hsorted.2
      rw [hmembers, sortBy_eq_self]
      · have hok := gather_map_ok id members
        simp only [List.map_map, Function.comp_def]
        simp only [id] at hok
        rw [hok]
        simp [Except.map, dictOf_eq_self hsorted.1]
      · exact List.pairwise_map.mpr (hsorted.1.imp le_of_lt)

theorem normalizeItems_plain (path : String) (index : Nat)
    (items : List JsonValue) (hsorted : SortedItems items) :
    gather (normalizeItems path index (plainItems items)) = .ok items := by
  cases items with
  | nil => rfl
  | cons item rest =>
      simp only [plainItems, normalizeItems, gather,
        normalize_plain _ item hsorted.1, normalizeItems_plain path _ rest hsorted.2]
      rfl

theorem normalizeMembers_plain (path : String)
    (members : List (String × JsonValue)) (hsorted : SortedMembers members) :
    normalizeMembers path (plainMembers members) =
      members.map fun member => (member.1, .ok member) := by
  cases members with
  | nil => rfl
  | cons first rest =>
      obtain ⟨key, value⟩ := first
      simp only [plainMembers, normalizeMembers, PyKey.text, List.map_cons,
        normalize_plain _ value hsorted.1, Except.map,
        normalizeMembers_plain path rest hsorted.2]

end

mutual

/-- Normalisation does not tell immutable containers from plain ones. -/
theorem normalize_object_eq_plain (path : String) (json : JsonValue) :
    normalizeJsonValue path json.object = normalizeJsonValue path (plainJsonValue json) := by
  cases json with
  | null => rfl
  | bool value => rfl
  | int number => rfl
  | float repr => rfl
  | str text => rfl
  | tuple items =>
      simp only [JsonValue.object, plainJsonValue, normalizeJsonValue,
        normalizeItems_object_eq_plain path 0 items]
  | mapping members =>
      simp only [JsonValue.object, plainJsonValue, normalizeJsonValue,
        normalizeMembers_object_eq_plain path members]

theorem normalizeItems_object_eq_plain (path : String) (index : Nat)
    (items : List JsonValue) :
    normalizeItems path index (objectItems items) =
      normalizeItems path index (plainItems items) := by
  cases items with
  | nil => rfl
  | cons item rest =>
      simp only [objectItems, plainItems, normalizeItems, normalize_object_eq_plain _ item,
        normalizeItems_object_eq_plain path _ rest]

theorem normalizeMembers_object_eq_plain (path : String)
    (members : List (String × JsonValue)) :
    normalizeMembers path (objectMembers members) =
      normalizeMembers path (plainMembers members) := by
  cases members with
  | nil => rfl
  | cons first rest =>
      obtain ⟨key, value⟩ := first
      simp only [objectMembers, plainMembers, normalizeMembers,
        normalize_object_eq_plain _ value, normalizeMembers_object_eq_plain path rest]

end

theorem normalize_object (path : String) {json : JsonValue} (hsorted : json.Sorted) :
    normalizeJsonValue path json.object = .ok json :=
  (normalize_object_eq_plain path json).trans (normalize_plain path json hsorted)

end PyWorkflowKit.Domain
