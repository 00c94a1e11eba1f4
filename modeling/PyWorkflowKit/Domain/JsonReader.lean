import PyWorkflowKit.Domain.IsoFormat
import PyWorkflowKit.Domain.Json

/-!
# Reading canonical JSON

`json.loads` on the texts that `json.dumps` writes for mappings and strings.
What it makes of other texts is left to a parameter.
-/

namespace PyWorkflowKit.Domain

open PyWorkflowKit.Core

mutual

/-- A tree of strings and mappings in strict key order. -/
def JsonValue.Textual : JsonValue → Prop
  | .str _ => True
  | .mapping members =>
      members.Pairwise (fun left right => left.1 < right.1) ∧ TextualMembers members
  | _ => False

def TextualMembers : List (String × JsonValue) → Prop
  | [] => True
  | (_, value) :: rest => value.Textual ∧ TextualMembers rest

end

mutual

instance decidableTextual : (value : JsonValue) → Decidable value.Textual
  | .null => isFalse id
  | .bool _ => isFalse id
  | .int _ => isFalse id
  | .float _ => isFalse id
  | .str _ => isTrue trivial
  | .tuple _ => isFalse id
  | .mapping members =>
      haveI := decidableTextualMembers members
      inferInstanceAs (Decidable
        (members.Pairwise (fun left right => left.1 < right.1) ∧ TextualMembers members))

instance decidableTextualMembers :
    (members : List (String × JsonValue)) → Decidable (TextualMembers members)
  | [] => isTrue trivial
  | (_, value) :: rest =>
      haveI := decidableTextual value
      haveI := decidableTextualMembers rest
      inferInstanceAs (Decidable (value.Textual ∧ TextualMembers rest))

end

/-- A textual tree is a string or a mapping. -/
theorem JsonValue.Textual.cases {value : JsonValue} (htextual : value.Textual) :
    (∃ text, value = .str text) ∨ ∃ members, value = .mapping members ∧
      members.Pairwise (fun left right => left.1 < right.1) ∧ TextualMembers members := by
  cases value with
  | str text => exact Or.inl ⟨text, rfl⟩
  | mapping members => exact Or.inr ⟨members, rfl, htextual⟩
  | _ => exact False.elim htextual

theorem textualMembers_cons {key : String} {value : JsonValue}
    {rest : List (String × JsonValue)} :
    TextualMembers ((key, value) :: rest) ↔ value.Textual ∧ TextualMembers rest := by
  rw [TextualMembers]

/-- The value of a hexadecimal digit. -/
def hexValue (char : Char) : Nat :=
  if char.isDigit then char.toNat - '0'.toNat else char.toNat - 'a'.toNat + 10

/-- The character that a one-letter escape stands for. -/
def unescape (char : Char) : Option Char :=
  match char with
  | '"' => some '"'
  | '\\' => some '\\'
  | 'n' => some '\n'
  | 'r' => some '\r'
  | 't' => some '\t'
  | 'b' => some (Char.ofNat 8)
  | 'f' => some (Char.ofNat 12)
  | _ => none

/-- The characters of a string up to its closing quote, and what follows it. -/
def readStringBody : List Char → Option (List Char × List Char)
  | [] => none
  | '"' :: rest => some ([], rest)
  | '\\' :: 'u' :: '0' :: '0' :: high :: low :: rest =>
      (readStringBody rest).map fun read =>
        (Char.ofNat (16 * hexValue high + hexValue low) :: read.1, read.2)
  | '\\' :: escape :: rest =>
      (unescape escape).bind fun char =>
        (readStringBody rest).map fun read => (char :: read.1, read.2)
  | char :: rest => (readStringBody rest).map fun read => (char :: read.1, read.2)

mutual

/-- A string or a mapping at the head of a text, and what follows it. -/
def readValue : Nat → List Char → Option (JsonValue × List Char)
  | 0, _ => none
  | _ + 1, '"' :: rest =>
      (readStringBody rest).map fun read => (.str (String.ofList read.1), read.2)
  | fuel + 1, '\x7b' :: rest =>
      match rest with
      | '\x7d' :: rest => some (.mapping [], rest)
      | rest => (readMembers fuel rest).map fun read => (.mapping read.1, read.2)
  | _ + 1, _ => none

/-- The members of a mapping up to its closing brace, and what follows it. -/
def readMembers : Nat → List Char → Option (List (String × JsonValue) × List Char)
  | 0, _ => none
  | fuel + 1, chars => do
      let chars ← skip '"' chars
      let (key, chars) ← readStringBody chars
      let chars ← skip ':' chars
      let (value, chars) ← readValue fuel chars
      match chars with
      | '\x7d' :: rest => some ([(String.ofList key, value)], rest)
      | ',' :: rest =>
          (readMembers fuel rest).map fun read =>
            ((String.ofList key, value) :: read.1, read.2)
      | _ => none

end

/-- The tree of strings and mappings whose `json.dumps` a text is. -/
def readCanonical (text : String) : Option JsonValue :=
  match readValue text.toList.length text.toList with
  | some (value, _) =>
      if value.Textual ∧ canonicalJsonText value = text then some value else none
  | none => none

theorem hexValue_hexDigit : ∀ digit < 16, hexValue (Sha256.hexDigit digit) = digit := by
  decide

/-- An escaped character is read back. -/
theorem readStringBody_escape (char : Char) (rest : List Char) :
    readStringBody (jsonEscape char ++ rest) =
      (readStringBody rest).map fun read => (char :: read.1, read.2) := by
  unfold jsonEscape
  split
  · simp [readStringBody, unescape]
  · simp [readStringBody, unescape]
  · simp [readStringBody, unescape]
  · simp [readStringBody, unescape]
  · simp [readStringBody, unescape]
  · next hquote hslash _ _ _ =>
    split
    · next hcode =>
      obtain rfl : Char.ofNat 8 = char := by rw [← hcode, Char.ofNat_toNat]
      simp [readStringBody, unescape]
    · split
      · next hcode =>
        obtain rfl : Char.ofNat 12 = char := by rw [← hcode, Char.ofNat_toNat]
        simp [readStringBody, unescape]
      · split
        · next hcode =>
          have hhigh := hexValue_hexDigit (char.toNat / 16) (by omega)
          have hlow := hexValue_hexDigit (char.toNat % 16) (by omega)
          have hchar : Char.ofNat (16 * (char.toNat / 16) + char.toNat % 16) = char := by
            rw [Nat.div_add_mod, Char.ofNat_toNat]
          simp [readStringBody, hhigh, hlow, hchar]
        · simp only [List.cons_append, List.nil_append]
          rw [readStringBody.eq_def]
          split <;> simp_all

theorem readStringBody_escapes (chars rest : List Char) :
    readStringBody (chars.flatMap jsonEscape ++ '"' :: rest) = some (chars, rest) := by
  induction chars with
  | nil => simp [readStringBody]
  | cons char chars ih =>
      rw [List.flatMap_cons, List.append_assoc, readStringBody_escape, ih]
      rfl

/-- What follows the opening quote of a JSON string. -/
theorem toList_jsonString (text : String) :
    (jsonString text).toList = '"' :: (text.toList.flatMap jsonEscape ++ ['"']) := by
  simp [jsonString]

/-- The members of a mapping as `json.dumps` writes them. -/
def memberChars : List (String × JsonValue) → List Char
  | [] => []
  | [(key, value)] => (jsonString key).toList ++ ':' :: (canonicalJsonText value).toList
  | (key, value) :: next :: rest =>
      (jsonString key).toList ++ ':' :: ((canonicalJsonText value).toList ++
        ',' :: memberChars (next :: rest))

theorem map_fst_canonicalMembers (members : List (String × JsonValue)) :
    (canonicalMembers members).map Prod.fst = members.map Prod.fst := by
  induction members with
  | nil => rfl
  | cons member rest ih =>
      obtain ⟨key, value⟩ := member
      simp [canonicalMembers, ih]

/-- Members in key order are written in that order. -/
theorem toList_mapping {members : List (String × JsonValue)}
    (hsorted : members.Pairwise fun left right => left.1 < right.1) :
    (canonicalJsonText (.mapping members)).toList =
      '\x7b' :: (memberChars members ++ ['\x7d']) := by
  have hself : sortBy Prod.fst (canonicalMembers members) = canonicalMembers members := by
    apply sortBy_eq_self
    rw [← List.pairwise_map (f := Prod.fst) (R := fun left right : String => left ≤ right),
      map_fst_canonicalMembers, List.pairwise_map]
    exact hsorted.imp fun hlt => le_of_lt hlt
  rw [canonicalJsonText, hself]
  clear hself hsorted
  have hmembers : (",".intercalate ((canonicalMembers members).map fun member =>
      jsonString member.1 ++ ":" ++ member.2)).toList = memberChars members := by
    induction members with
    | nil => rfl
    | cons member rest ih =>
        obtain ⟨key, value⟩ := member
        cases rest with
        | nil => simp [canonicalMembers, memberChars]
        | cons next rest =>
            obtain ⟨nextKey, nextValue⟩ := next
            simp only [canonicalMembers, List.map_cons, String.intercalate_cons_cons] at ih ⊢
            simp only [String.toList_append] at ih ⊢
            rw [memberChars, ← ih]
            simp
  simp [hmembers]

theorem memberChars_ne_brace {members : List (String × JsonValue)} (hmembers : members ≠ [])
    (rest tail : List Char) : memberChars members ++ rest ≠ '\x7d' :: tail := by
  match members, hmembers with
  | [(key, value)], _ => simp [memberChars, toList_jsonString]
  | (key, value) :: next :: others, _ => simp [memberChars, toList_jsonString]

/-- With enough fuel canonical texts of values are read back, whatever follows. -/
def ReadsValues (fuel : Nat) : Prop :=
  ∀ value : JsonValue, value.Textual → ∀ rest,
    (canonicalJsonText value).toList.length ≤ fuel →
    readValue fuel ((canonicalJsonText value).toList ++ rest) = some (value, rest)

/-- With enough fuel the members of a mapping are read back. -/
def ReadsMembers (fuel : Nat) : Prop :=
  ∀ members : List (String × JsonValue), TextualMembers members → members ≠ [] → ∀ rest,
    (memberChars members).length < fuel →
    readMembers fuel (memberChars members ++ '\x7d' :: rest) = some (members, rest)

theorem readsValues_succ {fuel : Nat} (hmembers : ReadsMembers fuel) :
    ReadsValues (fuel + 1) := by
  intro value htextual rest hfuel
  obtain ⟨text, rfl⟩ | ⟨members, rfl, hsorted, htextual⟩ := htextual.cases
  · rw [canonicalJsonText, toList_jsonString]
    simp only [List.cons_append, List.append_assoc, List.nil_append, readValue,
      readStringBody_escapes, Option.map_some, String.ofList_toList]
  · rw [toList_mapping hsorted] at hfuel ⊢
    by_cases hempty : members = []
    · subst hempty
      simp [readValue, memberChars]
    · have hlength : (memberChars members).length < fuel := by
        simp only [List.length_cons, List.length_append, List.length_nil] at hfuel
        omega
      have hread := hmembers members htextual hempty rest hlength
      simp only [List.cons_append, List.append_assoc, List.nil_append]
      rw [readValue.eq_4 fuel _ (memberChars_ne_brace hempty _), hread]
      rfl

theorem readsMembers_succ {fuel : Nat} (hvalues : ReadsValues fuel)
    (hmembers : ReadsMembers fuel) : ReadsMembers (fuel + 1) := by
  intro members htextual hempty rest hfuel
  obtain _ | ⟨⟨key, value⟩, others⟩ := members
  · exact absurd rfl hempty
  obtain ⟨hvalue, hnext⟩ := textualMembers_cons.mp htextual
  cases others with
  | nil =>
      rw [memberChars, toList_jsonString] at hfuel ⊢
      have hlength : (canonicalJsonText value).toList.length ≤ fuel := by
        simp only [List.length_cons, List.length_append, List.length_nil] at hfuel
        omega
      have hread := hvalues value hvalue ('\x7d' :: rest) hlength
      rw [readMembers]
      simp only [List.cons_append, List.append_assoc, List.nil_append, skip_cons,
        Option.bind_eq_bind, Option.bind_some, readStringBody_escapes, hread,
        String.ofList_toList]
  | cons next others =>
      rw [memberChars, toList_jsonString] at hfuel ⊢
      have hlengths : (canonicalJsonText value).toList.length ≤ fuel ∧
          (memberChars (next :: others)).length < fuel := by
        simp only [List.length_cons, List.length_append, List.length_nil] at hfuel
        omega
      have hread := hvalues value hvalue
        (',' :: (memberChars (next :: others) ++ '\x7d' :: rest)) hlengths.1
      have hothers := hmembers (next :: others) hnext (List.cons_ne_nil _ _) rest hlengths.2
      rw [readMembers]
      simp only [List.cons_append, List.append_assoc, List.nil_append, skip_cons,
        Option.bind_eq_bind, Option.bind_some, readStringBody_escapes, hread, hothers,
        Option.map_some, String.ofList_toList]

/-- The length of a canonical text is fuel enough. -/
theorem reads_canonical (fuel : Nat) : ReadsValues fuel ∧ ReadsMembers fuel := by
  induction fuel with
  | zero =>
      constructor
      · intro value htextual rest hfuel
        obtain ⟨text, rfl⟩ | ⟨members, rfl, hsorted, -⟩ := htextual.cases
        · simp [canonicalJsonText, toList_jsonString] at hfuel
        · rw [toList_mapping hsorted] at hfuel
          simp at hfuel
      · intro members _ _ rest hfuel
        omega
  | succ fuel ih => exact ⟨readsValues_succ ih.2, readsMembers_succ ih.1 ih.2⟩

/-- `json.dumps` of a textual tree is read back. -/
theorem readCanonical_canonical {value : JsonValue} (htextual : value.Textual) :
    readCanonical (canonicalJsonText value) = some value := by
  have hread := (reads_canonical _).1 value htextual [] (Nat.le_refl _)
  rw [List.append_nil] at hread
  unfold readCanonical
  rw [hread]
  simp [htextual]

end PyWorkflowKit.Domain
