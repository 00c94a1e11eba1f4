import PyWorkflowKit.Serialization.Codec

/-!
# Dumped bodies

A body that `json.dumps` has put in key order still validates to the schema
instance that was dumped.
-/

namespace PyWorkflowKit.Serialization

open PyWorkflowKit.Core PyWorkflowKit.Domain

mutual

/-- A tree with the members of its mappings in key order. -/
def inKeyOrder : JsonValue → JsonValue
  | .mapping members => .mapping (sortBy Prod.fst (membersInKeyOrder members))
  | .tuple items => .tuple (itemsInKeyOrder items)
  | .null => .null
  | .bool value => .bool value
  | .int value => .int value
  | .float repr => .float repr
  | .str value => .str value

def itemsInKeyOrder : List JsonValue → List JsonValue
  | [] => []
  | item :: rest => inKeyOrder item :: itemsInKeyOrder rest

def membersInKeyOrder : List (String × JsonValue) → List (String × JsonValue)
  | [] => []
  | (key, value) :: rest => (key, inKeyOrder value) :: membersInKeyOrder rest

end

theorem membersInKeyOrder_eq_map (members : List (String × JsonValue)) :
    membersInKeyOrder members = members.map fun member => (member.1, inKeyOrder member.2) := by
  induction members with
  | nil => rfl
  | cons member rest ih =>
      obtain ⟨key, value⟩ := member
      rw [membersInKeyOrder, ih]
      rfl

theorem canonicalMembers_eq_map (members : List (String × JsonValue)) :
    canonicalMembers members =
      members.map fun member => (member.1, canonicalJsonText member.2) := by
  induction members with
  | nil => rfl
  | cons member rest ih =>
      obtain ⟨key, value⟩ := member
      rw [canonicalMembers, ih]
      rfl

theorem canonicalMembers_sortBy (members : List (String × JsonValue)) :
    canonicalMembers (sortBy Prod.fst members) = sortBy Prod.fst (canonicalMembers members) := by
  rw [canonicalMembers_eq_map, canonicalMembers_eq_map]
  exact (sortBy_map Prod.fst
    (fun member : String × JsonValue => (member.1, canonicalJsonText member.2)) members).symm

/-- Sorting twice is sorting once. -/
theorem sortBy_sortBy {α κ : Type} [LinearOrder κ] (key : α → κ) (values : List α) :
    sortBy key (sortBy key values) = sortBy key values :=
  sortBy_eq_self key (sortBy_pairwise key values)

mutual

/-- `json.dumps` writes the members in key order. -/
theorem canonicalJsonText_inKeyOrder (value : JsonValue) :
    canonicalJsonText (inKeyOrder value) = canonicalJsonText value := by
  match value with
  | .mapping members =>
      have hsort := canonicalMembers_sortBy (membersInKeyOrder members)
      rw [inKeyOrder, canonicalJsonText, canonicalJsonText, hsort, sortBy_sortBy,
        canonicalMembers_inKeyOrder members]
  | .tuple items =>
      rw [inKeyOrder, canonicalJsonText, canonicalJsonText, canonicalItems_inKeyOrder items]
  | .null => rfl
  | .bool _ => rfl
  | .int _ => rfl
  | .float _ => rfl
  | .str _ => rfl

theorem canonicalItems_inKeyOrder (items : List JsonValue) :
    canonicalItems (itemsInKeyOrder items) = canonicalItems items := by
  match items with
  | [] => rfl
  | item :: rest =>
      rw [itemsInKeyOrder, canonicalItems, canonicalItems, canonicalJsonText_inKeyOrder item,
        canonicalItems_inKeyOrder rest]

theorem canonicalMembers_inKeyOrder (members : List (String × JsonValue)) :
    canonicalMembers (membersInKeyOrder members) = canonicalMembers members := by
  match members with
  | [] => rfl
  | (key, value) :: rest =>
      rw [membersInKeyOrder, canonicalMembers, canonicalMembers,
        canonicalJsonText_inKeyOrder value, canonicalMembers_inKeyOrder rest]

end

theorem map_fst_membersInKeyOrder (members : List (String × JsonValue)) :
    (membersInKeyOrder members).map Prod.fst = members.map Prod.fst := by
  rw [membersInKeyOrder_eq_map, List.map_map]
  rfl

theorem textualMembers_iff (members : List (String × JsonValue)) :
    TextualMembers members ↔ ∀ member ∈ members, member.2.Textual := by
  induction members with
  | nil => simp [TextualMembers]
  | cons member rest ih =>
      obtain ⟨key, value⟩ := member
      rw [textualMembers_cons, ih, List.forall_mem_cons]

/-- A mapping with distinct keys and textual values is textual in key order. -/
theorem textual_mapping {members : List (String × JsonValue)}
    (hnodup : (members.map Prod.fst).Nodup)
    (hvalues : ∀ member ∈ members, (inKeyOrder member.2).Textual) :
    (inKeyOrder (.mapping members)).Textual := by
  rw [inKeyOrder]
  refine ⟨sortBy_pairwise_lt Prod.fst ?_, ?_⟩
  · rw [map_fst_membersInKeyOrder]
    exact hnodup
  · rw [textualMembers_iff]
    intro member hmember
    rw [mem_sortBy, membersInKeyOrder_eq_map, List.mem_map] at hmember
    obtain ⟨source, hsource, rfl⟩ := hmember
    exact hvalues source hsource

section Nesting

variable (maxDepth : Nat)

theorem membersWithin_iff (depth : Nat) (members : List (String × JsonValue)) :
    membersWithin maxDepth depth members = true ↔
      ∀ member ∈ members, withinNesting maxDepth depth member.2 = true := by
  induction members with
  | nil => simp [membersWithin]
  | cons member rest ih =>
      obtain ⟨key, value⟩ := member
      rw [membersWithin, Bool.and_eq_true, ih, List.forall_mem_cons]

mutual

/-- Key order does not change how deep a tree is. -/
theorem withinNesting_inKeyOrder (depth : Nat) (value : JsonValue) :
    withinNesting maxDepth depth (inKeyOrder value) = withinNesting maxDepth depth value := by
  match value with
  | .mapping members =>
      rw [inKeyOrder, withinNesting, withinNesting]
      congr 1
      rw [← membersWithin_inKeyOrder (depth + 1) members, Bool.eq_iff_iff, membersWithin_iff,
        membersWithin_iff]
      simp only [mem_sortBy]
  | .tuple items =>
      rw [inKeyOrder, withinNesting, withinNesting, itemsWithin_inKeyOrder (depth + 1) items]
  | .null => rfl
  | .bool _ => rfl
  | .int _ => rfl
  | .float _ => rfl
  | .str _ => rfl

theorem itemsWithin_inKeyOrder (depth : Nat) (items : List JsonValue) :
    itemsWithin maxDepth depth (itemsInKeyOrder items) = itemsWithin maxDepth depth items := by
  match items with
  | [] => rfl
  | item :: rest =>
      rw [itemsInKeyOrder, itemsWithin, itemsWithin, withinNesting_inKeyOrder depth item,
        itemsWithin_inKeyOrder depth rest]

theorem membersWithin_inKeyOrder (depth : Nat) (members : List (String × JsonValue)) :
    membersWithin maxDepth depth (membersInKeyOrder members) =
      membersWithin maxDepth depth members := by
  match members with
  | [] => rfl
  | (key, value) :: rest =>
      rw [membersInKeyOrder, membersWithin, membersWithin,
        withinNesting_inKeyOrder depth value, membersWithin_inKeyOrder depth rest]

end

end Nesting

section Lookups

/-- With distinct keys a lookup finds the member with its key. -/
theorem lookup_eq_some_iff {α : Type} {members : List (String × α)}
    (hnodup : (members.map Prod.fst).Nodup) (name : String) (value : α) :
    members.lookup name = some value ↔ (name, value) ∈ members := by
  induction members with
  | nil => simp
  | cons member rest ih =>
      obtain ⟨key, first⟩ := member
      rw [List.map_cons, List.nodup_cons] at hnodup
      rw [List.lookup_cons, List.mem_cons]
      by_cases hkey : name = key
      · subst hkey
        have habsent : (name, value) ∉ rest := fun hmem =>
          hnodup.1 (List.mem_map.mpr ⟨_, hmem, rfl⟩)
        simp [habsent, eq_comm]
      · have hbeq : (name == key) = false := beq_eq_false_iff_ne.mpr hkey
        simp [hbeq, hkey, ih hnodup.2]

/-- A body that holds exactly the present members of a dump, in key order. -/
structure Serves (body : Body) (dump : Dump) : Prop where
  lookup : ∀ name, body.lookup name = (dump.lookup name).join.map inKeyOrder
  keys : ∀ member ∈ body, member.1 ∈ dump.map Prod.fst

theorem mem_present {dump : Dump} {name : String} {value : JsonValue} :
    (name, value) ∈ dump.present ↔ (name, some value) ∈ dump := by
  unfold Dump.present
  rw [List.mem_filterMap]
  constructor
  · rintro ⟨⟨key, stored⟩, hmember, hvalue⟩
    cases stored with
    | none => cases hvalue
    | some held =>
        cases hvalue
        exact hmember
  · intro hmember
    exact ⟨(name, some value), hmember, rfl⟩

theorem keys_present_sublist (dump : Dump) :
    (dump.present.map Prod.fst).Sublist (dump.map Prod.fst) := by
  unfold Dump.present
  induction dump with
  | nil => exact List.Sublist.slnil
  | cons member rest ih =>
      obtain ⟨key, stored⟩ := member
      cases stored with
      | none => exact ih.cons _
      | some value => exact ih.cons_cons _

/-- The present members of a dump with distinct keys, put in key order. -/
theorem serves_present {dump : Dump} (hnodup : (dump.map Prod.fst).Nodup) :
    Serves (sortBy Prod.fst (membersInKeyOrder dump.present)) dump where
  lookup name := by
    have hkeys : ((sortBy Prod.fst (membersInKeyOrder dump.present)).map Prod.fst).Nodup := by
      rw [((sortBy_perm Prod.fst _).map Prod.fst).nodup_iff, map_fst_membersInKeyOrder]
      exact hnodup.sublist (keys_present_sublist dump)
    ext value
    rw [lookup_eq_some_iff hkeys, mem_sortBy, membersInKeyOrder_eq_map, List.mem_map,
      Option.map_eq_some_iff]
    constructor
    · rintro ⟨⟨key, held⟩, hmember, hpair⟩
      cases hpair
      rw [mem_present, ← lookup_eq_some_iff hnodup] at hmember
      exact ⟨held, by rw [hmember]; rfl, rfl⟩
    · rintro ⟨held, hlookup, rfl⟩
      have hmember : dump.lookup name = some (some held) := by
        rwa [Option.join_eq_some_iff] at hlookup
      rw [lookup_eq_some_iff hnodup, ← mem_present] at hmember
      exact ⟨(name, held), hmember, rfl⟩
  keys member hmember := by
    rw [mem_sortBy, membersInKeyOrder_eq_map, List.mem_map] at hmember
    obtain ⟨source, hsource, rfl⟩ := hmember
    exact (keys_present_sublist dump).subset (List.mem_map.mpr ⟨source, hsource, rfl⟩)

end Lookups

section FieldReaders

variable {body : Body} {field message : String}

theorem requiredText_of_lookup (message : String) {text : Text}
    (hlookup : body.lookup field = some (.str text.value)) :
    requiredText body field message = .ok text := by
  simp [requiredText, hlookup]

theorem optionalText_of_lookup {text : Option Text}
    (hlookup : body.lookup field = text.map fun held => .str held.value) :
    optionalText body field message = .ok text := by
  cases text with
  | none => simp [optionalText, hlookup]
  | some held =>
      have hrequired := requiredText_of_lookup message hlookup
      simp only [Option.map_some] at hlookup
      simp only [optionalText, hlookup, hrequired]
      rfl

theorem defaultText_of_lookup {text default : Text}
    (hlookup : body.lookup field = some (.str text.value)) :
    defaultText body field message default = .ok text := by
  simp only [defaultText, hlookup]
  exact requiredText_of_lookup _ hlookup

theorem stringPairs_map (pairs : Pairs) :
    stringPairs (pairs.map fun member => (member.1, .str member.2)) = some pairs := by
  induction pairs with
  | nil => rfl
  | cons member rest ih =>
      rw [List.map_cons, stringPairs, ih]
      rfl

/-- The pairs of a dictionary make that dictionary. -/
theorem pairsDict_members (dict : Baggage) : pairsDict dict.members = dict := by
  obtain ⟨members, hsorted⟩ := dict
  unfold pairsDict
  congr 1
  rw [dictOf_eq_self hsorted]
  exact sortBy_eq_self Prod.fst (hsorted.imp le_of_lt)

theorem requiredDict_of_lookup {dict : Baggage}
    (hlookup : body.lookup field = some (dictJson dict)) :
    requiredDict body field = .ok dict := by
  simp only [requiredDict, hlookup, dictJson, stringPairs_map, pairsDict_members]

theorem defaultDict_of_lookup {dict : Baggage}
    (hlookup : body.lookup field = some (dictJson dict)) :
    defaultDict body field = .ok dict := by
  simp only [defaultDict, hlookup]
  exact requiredDict_of_lookup hlookup

theorem optionalDict_of_lookup {dict : Option Baggage}
    (hlookup : body.lookup field = dict.map dictJson) :
    optionalDict body field = .ok dict := by
  cases dict with
  | none => simp [optionalDict, hlookup]
  | some held =>
      have hrequired := requiredDict_of_lookup hlookup
      simp only [Option.map_some, dictJson] at hlookup
      simp only [optionalDict, hlookup, hrequired]
      rfl

theorem enumField_of_lookup {α : Type} [StrEnum α] {member : α}
    (hlookup : body.lookup field = some (.str (StrEnum.value member))) :
    enumField body field α = .ok member := by
  simp only [enumField, hlookup, StrEnum.parse?_value]

theorem requiredTime_of_lookup {readers : Readers} {value : String}
    (hlookup : body.lookup field = some (.str value))
    (hchecked : checkedTime readers field value = .ok value) :
    requiredTime readers body field = .ok value := by
  simp only [requiredTime, hlookup, hchecked]

theorem optionalTime_of_lookup {readers : Readers} {value : Option String}
    (hlookup : body.lookup field = value.map .str)
    (hchecked : ∀ held ∈ value, checkedTime readers field held = .ok held) :
    optionalTime readers body field = .ok value := by
  cases value with
  | none => simp [optionalTime, hlookup]
  | some held =>
      have hrequired := requiredTime_of_lookup hlookup (hchecked held rfl)
      simp only [Option.map_some] at hlookup
      simp only [optionalTime, hlookup, hrequired]
      rfl

theorem forbidExtra_of_keys {fields : List String}
    (hkeys : ∀ member ∈ body, member.1 ∈ fields) : forbidExtra body fields = .ok () := by
  have hnone : (body.find? fun member => member.1 ∉ fields) = none := by
    rw [List.find?_eq_none]
    intro member hmember
    simpa using hkeys member hmember
  simp only [forbidExtra, hnone]

end FieldReaders

/-- A dictionary of strings is in key order already. -/
theorem inKeyOrder_dictJson (dict : Baggage) : inKeyOrder (dictJson dict) = dictJson dict := by
  unfold dictJson
  rw [inKeyOrder, membersInKeyOrder_eq_map, List.map_map]
  congr 1
  apply sortBy_eq_self
  rw [List.pairwise_map]
  exact dict.sorted.imp le_of_lt

theorem textual_dictJson (dict : Baggage) : (inKeyOrder (dictJson dict)).Textual := by
  apply textual_mapping
  · rw [List.map_map]
    exact List.pairwise_map.mpr (dict.sorted.imp ne_of_lt)
  · intro member hmember
    obtain ⟨pair, -, rfl⟩ := List.mem_map.mp hmember
    trivial

section Fits

/-- A dumped member is absent or textual in key order. -/
def Fits (member : Option JsonValue) : Prop := ∀ value ∈ member, (inKeyOrder value).Textual

@[simp]
theorem fits_str (text : String) : Fits (some (.str text)) := by
  rintro value ⟨⟩
  trivial

@[simp]
theorem fits_text (text : Text) : Fits (some (textJson text)) := fits_str text.value

@[simp]
theorem fits_dict (dict : Baggage) : Fits (some (dictJson dict)) := by
  rintro value ⟨⟩
  exact textual_dictJson dict

/-- An optional member fits if it does whenever it is there. -/
theorem fits_map {α : Type} {f : α → JsonValue} (hfits : ∀ held, Fits (some (f held)))
    (value : Option α) : Fits (value.map f) := by
  cases value with
  | none => rintro _ ⟨⟩
  | some held => exact hfits held

@[simp]
theorem fits_optionStr (value : Option String) : Fits (value.map .str) := fits_map fits_str value

@[simp]
theorem fits_optionText (value : Option Text) : Fits (value.map textJson) :=
  fits_map fits_text value

@[simp]
theorem fits_optionDict (value : Option Baggage) : Fits (value.map dictJson) :=
  fits_map fits_dict value

/-- A dump with distinct names whose members fit makes a textual body. -/
structure Dump.Sound (dump : Dump) : Prop where
  nodup : (dump.map Prod.fst).Nodup
  fits : ∀ member ∈ dump, Fits member.2

theorem Dump.Sound.textual {dump : Dump} (hsound : dump.Sound) :
    (inKeyOrder (.mapping dump.present)).Textual := by
  apply textual_mapping (hsound.nodup.sublist (keys_present_sublist dump))
  rintro ⟨name, value⟩ hmember
  rw [mem_present] at hmember
  exact hsound.fits _ hmember value rfl

theorem CorrelationContextSchema.sound_dump (schema : CorrelationContextSchema) :
    schema.dump.Sound where
  nodup := show fields.Nodup by decide
  fits := by simp [dump]

theorem WorkflowExecutionReferenceSchema.sound_dump
    (schema : WorkflowExecutionReferenceSchema) : schema.dump.Sound where
  nodup := show fields.Nodup by decide
  fits := by simp [dump]

theorem ExternalRunRefSchema.sound_dump (schema : ExternalRunRefSchema) :
    schema.dump.Sound where
  nodup := show fields.Nodup by decide
  fits := by simp [dump]

@[simp]
theorem fits_externalRun (run : Option ExternalRunRefSchema) :
    Fits (run.map fun held => .mapping held.dump.present) := by
  apply fits_map
  rintro held value ⟨⟩
  exact held.sound_dump.textual

theorem FailureEvidenceSchema.sound_dump (schema : FailureEvidenceSchema) :
    schema.dump.Sound where
  nodup := show fields.Nodup by decide
  fits := by simp [dump]

theorem DiagnosticSchema.sound_dump (schema : DiagnosticSchema) : schema.dump.Sound where
  nodup := show fields.Nodup by decide
  fits := by simp [dump]

end Fits

section Served

variable {body : Body} {dump : Dump}

theorem Serves.requiredText (hserves : Serves body dump) {field message : String} {text : Text}
    (hmember : dump.lookup field = some (some (textJson text))) :
    requiredText body field message = .ok text := by
  apply requiredText_of_lookup
  rw [hserves.lookup, hmember]
  rfl

theorem Serves.defaultText (hserves : Serves body dump) {field message : String}
    {text default : Text} (hmember : dump.lookup field = some (some (textJson text))) :
    defaultText body field message default = .ok text := by
  apply defaultText_of_lookup
  rw [hserves.lookup, hmember]
  rfl

theorem Serves.optionalText (hserves : Serves body dump) {field message : String}
    {text : Option Text} (hmember : dump.lookup field = some (text.map textJson)) :
    optionalText body field message = .ok text := by
  apply optionalText_of_lookup
  rw [hserves.lookup, hmember]
  cases text <;> rfl

theorem Serves.defaultDict (hserves : Serves body dump) {field : String} {dict : Baggage}
    (hmember : dump.lookup field = some (some (dictJson dict))) :
    defaultDict body field = .ok dict := by
  apply defaultDict_of_lookup
  rw [hserves.lookup, hmember]
  exact congrArg some (inKeyOrder_dictJson dict)

theorem Serves.optionalDict (hserves : Serves body dump) {field : String}
    {dict : Option Baggage} (hmember : dump.lookup field = some (dict.map dictJson)) :
    optionalDict body field = .ok dict := by
  apply optionalDict_of_lookup
  rw [hserves.lookup, hmember]
  cases dict with
  | none => rfl
  | some held => exact congrArg some (inKeyOrder_dictJson held)

theorem Serves.enumField (hserves : Serves body dump) {field : String} {α : Type} [StrEnum α]
    {member : α} (hmember : dump.lookup field = some (some (.str (StrEnum.value member)))) :
    enumField body field α = .ok member := by
  apply enumField_of_lookup
  rw [hserves.lookup, hmember]
  rfl

theorem Serves.requiredTime (hserves : Serves body dump) {field value : String}
    {readers : Readers} (hchecked : checkedTime readers field value = .ok value)
    (hmember : dump.lookup field = some (some (.str value))) :
    requiredTime readers body field = .ok value := by
  refine requiredTime_of_lookup ?_ hchecked
  rw [hserves.lookup, hmember]
  rfl

theorem Serves.optionalTime (hserves : Serves body dump) {field : String}
    {value : Option String} {readers : Readers}
    (hchecked : ∀ held ∈ value, checkedTime readers field held = .ok held)
    (hmember : dump.lookup field = some (value.map .str)) :
    optionalTime readers body field = .ok value := by
  refine optionalTime_of_lookup ?_ hchecked
  rw [hserves.lookup, hmember]
  cases value <;> rfl

theorem CorrelationContextSchema.validate_served {schema : CorrelationContextSchema}
    (hserves : Serves body schema.dump) : validate body = .ok schema := by
  have hextra : forbidExtra body fields = .ok () := forbidExtra_of_keys hserves.keys
  unfold validate
  rw [hextra, hserves.requiredText (by rfl), hserves.optionalText (by rfl),
    hserves.optionalText (by rfl), hserves.optionalText (by rfl),
    hserves.optionalText (by rfl), hserves.optionalText (by rfl),
    hserves.optionalText (by rfl), hserves.optionalText (by rfl),
    hserves.optionalText (by rfl), hserves.optionalText (by rfl),
    hserves.optionalText (by rfl), hserves.optionalText (by rfl),
    hserves.optionalDict (by rfl)]
  rfl

theorem WorkflowExecutionReferenceSchema.validate_served {readers : Readers}
    {schema : WorkflowExecutionReferenceSchema} (hserves : Serves body schema.dump)
    (hchecked : ∀ held ∈ schema.startedAt,
      checkedTime readers "started_at" held = .ok held) :
    validate readers body = .ok schema := by
  have hextra : forbidExtra body fields = .ok () := forbidExtra_of_keys hserves.keys
  have hstarted := hserves.optionalTime hchecked (by rfl)
  unfold validate
  rw [hextra, hserves.requiredText (by rfl), hserves.requiredText (by rfl),
    hserves.optionalText (by rfl), hstarted, hserves.defaultText (by rfl),
    hserves.defaultText (by rfl), hserves.defaultText (by rfl)]
  rfl

theorem ExternalRunRefSchema.validate_served {schema : ExternalRunRefSchema}
    (hserves : Serves body schema.dump) : validate body = .ok schema := by
  have hextra : forbidExtra body fields = .ok () := forbidExtra_of_keys hserves.keys
  unfold validate
  rw [hextra, hserves.requiredText (by rfl), hserves.requiredText (by rfl),
    hserves.requiredText (by rfl), hserves.optionalText (by rfl),
    hserves.optionalText (by rfl), hserves.optionalText (by rfl),
    hserves.optionalText (by rfl), hserves.defaultDict (by rfl),
    hserves.defaultText (by rfl), hserves.defaultText (by rfl)]
  rfl

theorem Serves.optionalExternalRun (hserves : Serves body dump) {field : String}
    {run : Option ExternalRunRefSchema} (hmember : dump.lookup field =
      some (run.map fun held => .mapping held.dump.present)) :
    optionalExternalRun body field = .ok run := by
  have hlookup := hserves.lookup field
  rw [hmember] at hlookup
  cases run with
  | none =>
      have hnone : body.lookup field = none := hlookup
      simp only [Serialization.optionalExternalRun, hnone]
  | some held =>
      have hsome : body.lookup field =
          some (.mapping (sortBy Prod.fst (membersInKeyOrder held.dump.present))) := hlookup
      have hvalid := ExternalRunRefSchema.validate_served
        (serves_present held.sound_dump.nodup)
      simp only [Serialization.optionalExternalRun, hsome, hvalid]

theorem FailureEvidenceSchema.validate_served {readers : Readers}
    {schema : FailureEvidenceSchema} (hserves : Serves body schema.dump)
    (hchecked : checkedTime readers "occurred_at" schema.occurredAt = .ok schema.occurredAt) :
    validate readers body = .ok schema := by
  have hextra : forbidExtra body fields = .ok () := forbidExtra_of_keys hserves.keys
  have hoccurred := hserves.requiredTime hchecked (by rfl)
  have hexternal : optionalExternalRun body "external_run" = .ok schema.externalRun :=
    hserves.optionalExternalRun (by rfl)
  unfold validate
  rw [hextra, hserves.requiredText (by rfl), hserves.enumField (by rfl),
    hserves.enumField (by rfl), hserves.enumField (by rfl), hserves.requiredText (by rfl),
    hserves.defaultText (by rfl), hserves.optionalText (by rfl),
    hserves.optionalText (by rfl), hserves.optionalText (by rfl), hexternal,
    hserves.optionalText (by rfl), hserves.optionalText (by rfl),
    hserves.optionalText (by rfl), hoccurred, hserves.defaultDict (by rfl),
    hserves.defaultText (by rfl)]
  rfl

theorem DiagnosticSchema.validate_served {schema : DiagnosticSchema}
    (hserves : Serves body schema.dump) : validate body = .ok schema := by
  have hextra : forbidExtra body fields = .ok () := forbidExtra_of_keys hserves.keys
  unfold validate
  rw [hextra, hserves.requiredText (by rfl), hserves.enumField (by rfl),
    hserves.requiredText (by rfl), hserves.defaultDict (by rfl),
    hserves.optionalText (by rfl), hserves.optionalText (by rfl),
    hserves.optionalText (by rfl), hserves.optionalText (by rfl),
    hserves.optionalText (by rfl), hserves.optionalText (by rfl),
    hserves.optionalText (by rfl), hserves.defaultText (by rfl)]
  rfl

end Served

end PyWorkflowKit.Serialization
