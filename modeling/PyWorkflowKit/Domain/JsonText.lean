import PyWorkflowKit.Domain.JsonReader

/-!
# Reading any JSON text

`json.loads` on the texts that `json.dumps` writes with sorted keys and compact separators.
-/

namespace PyWorkflowKit.Domain

open PyWorkflowKit.Core

/-- The characters a number is written with. -/
def isNumberChar (char : Char) : Bool :=
  char.isDigit || char = '-' || char = '+' || char = '.' || char = 'e'

/-- The natural number that decimal digits denote. -/
def decimal (digits : List Char) : Option Nat :=
  if digits ≠ [] ∧ digits.all Char.isDigit = true then some (Nat.ofDigitChars 10 digits 0)
  else none

/-- The integer that a text denotes. -/
def integer (chars : List Char) : Option Int :=
  if chars.head? = some '-' then (decimal chars.tail).map fun magnitude => -(magnitude : Int)
  else (decimal chars).map fun magnitude => (magnitude : Int)

/-- The texts that `repr` gives to finite floats: numbers, and none of them an integer. -/
structure FloatTexts where
  isRepr : String → Bool
  numeric : ∀ text, isRepr text = true → text.toList ≠ [] ∧ text.toList.all isNumberChar = true
  fractional : ∀ text, isRepr text = true → integer text.toList = none

mutual

/-- Mappings are in strict key order and floats are written by their `repr`. -/
def JsonValue.Canonical (floats : FloatTexts) : JsonValue → Prop
  | .float repr => floats.isRepr repr = true
  | .tuple items => CanonicalItems floats items
  | .mapping members =>
      members.Pairwise (fun left right => left.1 < right.1) ∧ CanonicalMembers floats members
  | _ => True

def CanonicalItems (floats : FloatTexts) : List JsonValue → Prop
  | [] => True
  | item :: rest => item.Canonical floats ∧ CanonicalItems floats rest

def CanonicalMembers (floats : FloatTexts) : List (String × JsonValue) → Prop
  | [] => True
  | (_, value) :: rest => value.Canonical floats ∧ CanonicalMembers floats rest

end

mutual

instance decidableCanonical (floats : FloatTexts) :
    (value : JsonValue) → Decidable (value.Canonical floats)
  | .null => isTrue trivial
  | .bool _ => isTrue trivial
  | .int _ => isTrue trivial
  | .str _ => isTrue trivial
  | .float repr => inferInstanceAs (Decidable (floats.isRepr repr = true))
  | .tuple items => decidableCanonicalItems floats items
  | .mapping members =>
      haveI := decidableCanonicalMembers floats members
      inferInstanceAs (Decidable
        (members.Pairwise (fun left right => left.1 < right.1) ∧ CanonicalMembers floats members))

instance decidableCanonicalItems (floats : FloatTexts) :
    (items : List JsonValue) → Decidable (CanonicalItems floats items)
  | [] => isTrue trivial
  | item :: rest =>
      haveI := decidableCanonical floats item
      haveI := decidableCanonicalItems floats rest
      inferInstanceAs (Decidable (item.Canonical floats ∧ CanonicalItems floats rest))

instance decidableCanonicalMembers (floats : FloatTexts) :
    (members : List (String × JsonValue)) → Decidable (CanonicalMembers floats members)
  | [] => isTrue trivial
  | (_, value) :: rest =>
      haveI := decidableCanonical floats value
      haveI := decidableCanonicalMembers floats rest
      inferInstanceAs (Decidable (value.Canonical floats ∧ CanonicalMembers floats rest))

end

/-- Skip a word at the head of a text. -/
def skipWord : List Char → List Char → Option (List Char)
  | [], chars => some chars
  | char :: word, chars => (skip char chars).bind (skipWord word)

section Reader

variable (floats : FloatTexts)

/-- A number at the head of a text, and what follows it. -/
def readNumber (chars : List Char) : Option (JsonValue × List Char) :=
  let token := chars.takeWhile isNumberChar
  let rest := chars.dropWhile isNumberChar
  match integer token with
  | some value => some (.int value, rest)
  | none =>
      if floats.isRepr (String.ofList token) then some (.float (String.ofList token), rest)
      else none

mutual

/-- A value at the head of a text, and what follows it. -/
def readJson : Nat → List Char → Option (JsonValue × List Char)
  | 0, _ => none
  | _ + 1, [] => none
  | fuel + 1, char :: rest =>
      if char = '"' then
        (readStringBody rest).map fun read => (.str (String.ofList read.1), read.2)
      else if char = '[' then
        if rest.head? = some ']' then some (.tuple [], rest.tail)
        else (readItems fuel rest).map fun read => (.tuple read.1, read.2)
      else if char = '\x7b' then
        if rest.head? = some '\x7d' then some (.mapping [], rest.tail)
        else (readPairs fuel rest).map fun read => (.mapping read.1, read.2)
      else if char = 'n' then (skipWord ['u', 'l', 'l'] rest).map fun rest => (.null, rest)
      else if char = 't' then
        (skipWord ['r', 'u', 'e'] rest).map fun rest => (.bool true, rest)
      else if char = 'f' then
        (skipWord ['a', 'l', 's', 'e'] rest).map fun rest => (.bool false, rest)
      else readNumber floats (char :: rest)

/-- Items up to the closing bracket. -/
def readItems : Nat → List Char → Option (List JsonValue × List Char)
  | 0, _ => none
  | fuel + 1, chars => do
      let (value, chars) ← readJson fuel chars
      match chars with
      | ']' :: rest => some ([value], rest)
      | ',' :: rest => (readItems fuel rest).map fun read => (value :: read.1, read.2)
      | _ => none

/-- Members up to the closing brace. -/
def readPairs : Nat → List Char → Option (List (String × JsonValue) × List Char)
  | 0, _ => none
  | fuel + 1, chars => do
      let chars ← skip '"' chars
      let (key, chars) ← readStringBody chars
      let chars ← skip ':' chars
      let (value, chars) ← readJson fuel chars
      match chars with
      | '\x7d' :: rest => some ([(String.ofList key, value)], rest)
      | ',' :: rest =>
          (readPairs fuel rest).map fun read => ((String.ofList key, value) :: read.1, read.2)
      | _ => none

end

/-- The value whose `json.dumps` a text is. -/
def loadsCanonical (text : String) : Option JsonValue :=
  match readJson floats text.toList.length text.toList with
  | some (value, _) =>
      if value.Canonical floats ∧ canonicalJsonText value = text then some value else none
  | none => none

end Reader

section Numbers

/-- The digits of a natural number denote it. -/
theorem decimal_toDigits (number : Nat) : decimal (Nat.toDigits 10 number) = some number := by
  have hdigits : (Nat.toDigits 10 number).all Char.isDigit = true := by
    rw [List.all_eq_true]
    intro char hchar
    exact Nat.isDigit_of_mem_toDigits (by decide) (by decide) hchar
  rw [decimal, if_pos ⟨Nat.toDigits_ne_nil, hdigits⟩, Nat.ofDigitChars_ten_toDigits]

theorem isNumberChar_of_isDigit {char : Char} (hdigit : char.isDigit = true) :
    isNumberChar char = true := by
  simp [isNumberChar, hdigit]

/-- An integer is written with number characters that denote it. -/
theorem integer_toString (value : Int) :
    (toString value).toList ≠ [] ∧ (toString value).toList.all isNumberChar = true ∧
      integer (toString value).toList = some value := by
  have hnumber : ∀ number : Nat, (Nat.toDigits 10 number).all isNumberChar = true := by
    intro number
    rw [List.all_eq_true]
    intro char hchar
    exact isNumberChar_of_isDigit (Nat.isDigit_of_mem_toDigits (by decide) (by decide) hchar)
  cases value with
  | ofNat number =>
      have htext : (toString (Int.ofNat number)).toList = Nat.toDigits 10 number := by
        change (Nat.repr number).toList = _
        simp
      have hhead : (Nat.toDigits 10 number).head? ≠ some '-' := by
        intro hhead
        have hdigit := Nat.isDigit_of_mem_toDigits (b := 10) (by decide) (by decide)
          (List.mem_of_mem_head? hhead)
        exact absurd hdigit (by decide)
      rw [htext, integer, if_neg hhead, decimal_toDigits]
      exact ⟨Nat.toDigits_ne_nil, hnumber number, rfl⟩
  | negSucc number =>
      have htext : (toString (Int.negSucc number)).toList =
          '-' :: Nat.toDigits 10 (number + 1) := by
        change ("-" ++ Nat.repr (number + 1)).toList = _
        simp
      rw [htext, integer, List.head?_cons, if_pos rfl, List.tail_cons, decimal_toDigits]
      refine ⟨List.cons_ne_nil _ _, ?_, rfl⟩
      rw [List.all_cons, hnumber]
      rfl

end Numbers

section RoundTrip

variable {floats : FloatTexts}

/-- What may follow a number. -/
def Stops (rest : List Char) : Prop :=
  ∀ char ∈ rest.head?, isNumberChar char = false

theorem span_number {token rest : List Char} (htoken : token.all isNumberChar = true)
    (hstops : Stops rest) :
    (token ++ rest).takeWhile isNumberChar = token ∧
      (token ++ rest).dropWhile isNumberChar = rest := by
  rw [List.all_eq_true] at htoken
  have hrest : rest.takeWhile isNumberChar = [] ∧ rest.dropWhile isNumberChar = rest := by
    cases rest with
    | nil => exact ⟨rfl, rfl⟩
    | cons char others =>
        have hchar : isNumberChar char = false := hstops char rfl
        simp [hchar]
  constructor
  · rw [List.takeWhile_append_of_pos htoken, hrest.1, List.append_nil]
  · rw [List.dropWhile_append_of_pos htoken, hrest.2]

theorem readNumber_int (value : Int) {rest : List Char} (hstops : Stops rest) :
    readNumber floats ((toString value).toList ++ rest) = some (.int value, rest) := by
  obtain ⟨-, hchars, hinteger⟩ := integer_toString value
  obtain ⟨htoken, hrest⟩ := span_number hchars hstops
  simp only [readNumber, htoken, hrest, hinteger]

theorem readNumber_float {repr : String} (hrepr : floats.isRepr repr = true) {rest : List Char}
    (hstops : Stops rest) :
    readNumber floats (repr.toList ++ rest) = some (.float repr, rest) := by
  obtain ⟨htoken, hrest⟩ := span_number (floats.numeric repr hrepr).2 hstops
  simp only [readNumber, htoken, hrest, floats.fractional repr hrepr, String.ofList_toList, hrepr,
    if_true]

/-- A text that begins like a number is read as one. -/
theorem readJson_number {token rest : List Char} (hempty : token ≠ [])
    (htoken : token.all isNumberChar = true) (fuel : Nat) :
    readJson floats (fuel + 1) (token ++ rest) = readNumber floats (token ++ rest) := by
  obtain _ | ⟨char, others⟩ := token
  · exact absurd rfl hempty
  have hchar : isNumberChar char = true := (List.all_eq_true.mp htoken) char List.mem_cons_self
  have hother : ∀ other, isNumberChar other = false → char ≠ other := by
    rintro other hfalse rfl
    exact absurd hchar (by simp [hfalse])
  rw [List.cons_append, readJson]
  rw [if_neg (hother _ (by decide)), if_neg (hother _ (by decide)), if_neg (hother _ (by decide)),
    if_neg (hother _ (by decide)), if_neg (hother _ (by decide)), if_neg (hother _ (by decide))]

/-- The items of a list as `json.dumps` writes them. -/
def itemChars : List JsonValue → List Char
  | [] => []
  | [item] => (canonicalJsonText item).toList
  | item :: next :: rest =>
      (canonicalJsonText item).toList ++ ',' :: itemChars (next :: rest)

theorem toList_tuple (items : List JsonValue) :
    (canonicalJsonText (.tuple items)).toList = '[' :: (itemChars items ++ [']']) := by
  have hitems : (",".intercalate (canonicalItems items)).toList = itemChars items := by
    induction items with
    | nil => rfl
    | cons item rest ih =>
        cases rest with
        | nil => simp [canonicalItems, itemChars]
        | cons next rest =>
            simp only [canonicalItems, String.intercalate_cons_cons] at ih ⊢
            simp only [String.toList_append] at ih ⊢
            rw [itemChars, ← ih]
            simp
  rw [canonicalJsonText]
  simp [hitems]

/-- With enough fuel canonical texts of values are read back, whatever follows. -/
def ReadsJson (floats : FloatTexts) (fuel : Nat) : Prop :=
  ∀ value : JsonValue, value.Canonical floats → ∀ rest, Stops rest →
    (canonicalJsonText value).toList.length ≤ fuel →
    readJson floats fuel ((canonicalJsonText value).toList ++ rest) = some (value, rest)

/-- With enough fuel the items of a list are read back. -/
def ReadsItems (floats : FloatTexts) (fuel : Nat) : Prop :=
  ∀ items : List JsonValue, CanonicalItems floats items → items ≠ [] → ∀ rest,
    (itemChars items).length < fuel →
    readItems floats fuel (itemChars items ++ ']' :: rest) = some (items, rest)

/-- With enough fuel the members of a mapping are read back. -/
def ReadsPairs (floats : FloatTexts) (fuel : Nat) : Prop :=
  ∀ members : List (String × JsonValue), CanonicalMembers floats members → members ≠ [] →
    ∀ rest, (memberChars members).length < fuel →
    readPairs floats fuel (memberChars members ++ '\x7d' :: rest) = some (members, rest)

/-- No canonical text begins with a closing bracket. -/
theorem head_canonical {value : JsonValue} (hcanonical : value.Canonical floats) :
    ∃ char rest, (canonicalJsonText value).toList = char :: rest ∧ char ≠ ']' := by
  have hnumber : ∀ token : List Char, token ≠ [] → token.all isNumberChar = true →
      ∃ char rest, token = char :: rest ∧ char ≠ ']' := by
    intro token hempty htoken
    obtain _ | ⟨char, rest⟩ := token
    · exact absurd rfl hempty
    · refine ⟨char, rest, rfl, ?_⟩
      rintro rfl
      have hbracket := (List.all_eq_true.mp htoken) ']' List.mem_cons_self
      exact absurd hbracket (by decide)
  cases value with
  | null => exact ⟨_, _, rfl, by decide⟩
  | bool flag => cases flag <;> exact ⟨_, _, rfl, by decide⟩
  | int number =>
      obtain ⟨hempty, hchars, -⟩ := integer_toString number
      exact hnumber _ hempty hchars
  | float repr =>
      obtain ⟨hempty, hchars⟩ := floats.numeric repr hcanonical
      exact hnumber _ hempty hchars
  | str text => exact ⟨_, _, toList_jsonString text, by decide⟩
  | tuple items => exact ⟨_, _, toList_tuple items, by decide⟩
  | mapping members => exact ⟨_, _, toList_mapping hcanonical.1, by decide⟩

theorem head_itemChars {items : List JsonValue} (hitems : CanonicalItems floats items)
    (hempty : items ≠ []) (rest : List Char) :
    (itemChars items ++ rest).head? ≠ some ']' := by
  match items, hempty with
  | [item], _ =>
      obtain ⟨char, others, htext, hchar⟩ := head_canonical hitems.1
      simpa [itemChars, htext] using hchar
  | item :: next :: others, _ =>
      obtain ⟨char, others, htext, hchar⟩ := head_canonical hitems.1
      simpa [itemChars, htext] using hchar

theorem head_memberChars {members : List (String × JsonValue)} (hempty : members ≠ [])
    (rest : List Char) : (memberChars members ++ rest).head? ≠ some '\x7d' := by
  match members, hempty with
  | [(key, value)], _ => simp [memberChars, toList_jsonString]
  | (key, value) :: next :: others, _ => simp [memberChars, toList_jsonString]

theorem readsJson_succ {fuel : Nat} (hitems : ReadsItems floats fuel)
    (hpairs : ReadsPairs floats fuel) : ReadsJson floats (fuel + 1) := by
  intro value hcanonical rest hstops hfuel
  cases value with
  | null => rfl
  | bool flag => cases flag <;> rfl
  | int number =>
      obtain ⟨hempty, hchars, -⟩ := integer_toString number
      rw [canonicalJsonText, readJson_number hempty hchars, readNumber_int number hstops]
  | float repr =>
      obtain ⟨hempty, hchars⟩ := floats.numeric repr hcanonical
      rw [canonicalJsonText, readJson_number hempty hchars, readNumber_float hcanonical hstops]
  | str text =>
      rw [canonicalJsonText, toList_jsonString]
      simp only [List.cons_append, List.append_assoc, List.nil_append]
      rw [readJson, if_pos rfl, readStringBody_escapes]
      simp only [Option.map_some, String.ofList_toList]
  | tuple items =>
      rw [toList_tuple] at hfuel ⊢
      simp only [List.cons_append, List.append_assoc, List.nil_append]
      rw [readJson, if_neg (by decide), if_pos rfl]
      by_cases hempty : items = []
      · subst hempty
        rfl
      · have hlength : (itemChars items).length < fuel := by
          simp only [List.length_cons, List.length_append, List.length_nil] at hfuel
          omega
        rw [if_neg (head_itemChars hcanonical hempty _), hitems items hcanonical hempty rest hlength]
        rfl
  | mapping members =>
      obtain ⟨hsorted, hmembers⟩ := hcanonical
      rw [toList_mapping hsorted] at hfuel ⊢
      simp only [List.cons_append, List.append_assoc, List.nil_append]
      rw [readJson, if_neg (by decide), if_neg (by decide), if_pos rfl]
      by_cases hempty : members = []
      · subst hempty
        rfl
      · have hlength : (memberChars members).length < fuel := by
          simp only [List.length_cons, List.length_append, List.length_nil] at hfuel
          omega
        rw [if_neg (head_memberChars hempty _), hpairs members hmembers hempty rest hlength]
        rfl

theorem stops_cons {char : Char} (hchar : isNumberChar char = false) (rest : List Char) :
    Stops (char :: rest) := by
  intro other hother
  cases hother
  exact hchar

theorem readsItems_succ {fuel : Nat} (hvalues : ReadsJson floats fuel)
    (hitems : ReadsItems floats fuel) : ReadsItems floats (fuel + 1) := by
  intro items hcanonical hempty rest hfuel
  obtain _ | ⟨item, others⟩ := items
  · exact absurd rfl hempty
  obtain ⟨hitem, hnext⟩ := hcanonical
  cases others with
  | nil =>
      rw [itemChars] at hfuel ⊢
      have hread := hvalues item hitem (']' :: rest) (stops_cons (by decide) _) (by omega)
      rw [readItems, hread]
      rfl
  | cons next others =>
      rw [itemChars] at hfuel ⊢
      simp only [List.length_cons, List.length_append] at hfuel
      have hread := hvalues item hitem (',' :: (itemChars (next :: others) ++ ']' :: rest))
        (stops_cons (by decide) _) (by omega)
      have hothers := hitems (next :: others) hnext (List.cons_ne_nil _ _) rest (by omega)
      rw [readItems]
      simp only [List.cons_append, List.append_assoc, hread, Option.bind_eq_bind, Option.bind_some,
        hothers, Option.map_some]

theorem readsPairs_succ {fuel : Nat} (hvalues : ReadsJson floats fuel)
    (hpairs : ReadsPairs floats fuel) : ReadsPairs floats (fuel + 1) := by
  intro members hcanonical hempty rest hfuel
  obtain _ | ⟨⟨key, value⟩, others⟩ := members
  · exact absurd rfl hempty
  obtain ⟨hvalue, hnext⟩ := hcanonical
  cases others with
  | nil =>
      rw [memberChars, toList_jsonString] at hfuel ⊢
      simp only [List.length_cons, List.length_append, List.length_nil] at hfuel
      have hread := hvalues value hvalue ('\x7d' :: rest) (stops_cons (by decide) _) (by omega)
      rw [readPairs]
      simp only [List.cons_append, List.append_assoc, List.nil_append, skip_cons,
        Option.bind_eq_bind, Option.bind_some, readStringBody_escapes, hread, String.ofList_toList]
  | cons next others =>
      rw [memberChars, toList_jsonString] at hfuel ⊢
      simp only [List.length_cons, List.length_append, List.length_nil] at hfuel
      have hread := hvalues value hvalue
        (',' :: (memberChars (next :: others) ++ '\x7d' :: rest)) (stops_cons (by decide) _)
        (by omega)
      have hothers := hpairs (next :: others) hnext (List.cons_ne_nil _ _) rest (by omega)
      rw [readPairs]
      simp only [List.cons_append, List.append_assoc, List.nil_append, skip_cons,
        Option.bind_eq_bind, Option.bind_some, readStringBody_escapes, hread, hothers,
        Option.map_some, String.ofList_toList]

/-- The length of a canonical text is fuel enough. -/
theorem reads_json (floats : FloatTexts) (fuel : Nat) :
    ReadsJson floats fuel ∧ ReadsItems floats fuel ∧ ReadsPairs floats fuel := by
  induction fuel with
  | zero =>
      refine ⟨?_, fun items _ _ rest hfuel => by omega, fun members _ _ rest hfuel => by omega⟩
      intro value hcanonical rest _ hfuel
      obtain ⟨char, others, htext, -⟩ := head_canonical hcanonical
      simp [htext] at hfuel
  | succ fuel ih =>
      obtain ⟨hvalues, hitems, hpairs⟩ := ih
      exact ⟨readsJson_succ hitems hpairs, readsItems_succ hvalues hitems,
        readsPairs_succ hvalues hpairs⟩

/-- `json.dumps` of a value in key order is read back. -/
theorem loadsCanonical_canonical {value : JsonValue} (hcanonical : value.Canonical floats) :
    loadsCanonical floats (canonicalJsonText value) = some value := by
  have hread := (reads_json floats _).1 value hcanonical [] (by simp [Stops]) (Nat.le_refl _)
  rw [List.append_nil] at hread
  simp only [loadsCanonical, hread, hcanonical, and_self, if_true]

end RoundTrip

section Normalised

mutual

/-- Every finite float of the object is written by its `repr`. -/
def PyValue.Reprs (floats : FloatTexts) : PyValue → Prop
  | .float repr finite => finite = true → floats.isRepr repr = true
  | .list items | .tuple items => PyReprsItems floats items
  | .dict members => PyReprsMembers floats members
  | .enum value => value.Reprs floats
  | _ => True

def PyReprsItems (floats : FloatTexts) : List PyValue → Prop
  | [] => True
  | item :: rest => item.Reprs floats ∧ PyReprsItems floats rest

def PyReprsMembers (floats : FloatTexts) : List (PyKey × PyValue) → Prop
  | [] => True
  | (_, value) :: rest => value.Reprs floats ∧ PyReprsMembers floats rest

end

variable {floats : FloatTexts}

theorem canonicalMembers_iff (members : List (String × JsonValue)) :
    CanonicalMembers floats members ↔ ∀ member ∈ members, member.2.Canonical floats := by
  induction members with
  | nil => simp [CanonicalMembers]
  | cons first rest ih => simp [CanonicalMembers, ih]

theorem canonicalItems_iff (items : List JsonValue) :
    CanonicalItems floats items ↔ ∀ item ∈ items, item.Canonical floats := by
  induction items with
  | nil => simp [CanonicalItems]
  | cons first rest ih => simp [CanonicalItems, ih]

mutual

/-- Normalised objects are canonical. -/
theorem canonical_of_normalize (path : String) (value : PyValue) (hreprs : value.Reprs floats)
    {json : JsonValue} (hnormalize : normalizeJsonValue path value = .ok json) :
    json.Canonical floats := by
  have hsorted := sorted_of_normalize path value hnormalize
  cases value with
  | enum inner =>
      rw [normalizeJsonValue] at hnormalize
      exact canonical_of_normalize path inner hreprs hnormalize
  | none => cases hnormalize; trivial
  | str text => cases hnormalize; trivial
  | bool flag => cases hnormalize; trivial
  | int number => cases hnormalize; trivial
  | float repr finite =>
      rw [normalizeJsonValue] at hnormalize
      split at hnormalize
      · next hfinite =>
        cases hnormalize
        exact hreprs hfinite
      · cases hnormalize
  | dict members =>
      rw [normalizeJsonValue] at hnormalize
      obtain ⟨normalized, hmembers, rfl⟩ := map_eq_ok hnormalize
      refine ⟨hsorted.1, (canonicalMembers_iff _).mpr ?_⟩
      intro member hmember
      have hentry := mem_of_gather hmembers (mem_of_mem_dictOf hmember)
      obtain ⟨entry, hlisted, hvalue⟩ := List.mem_map.mp hentry
      rw [mem_sortBy] at hlisted
      exact canonical_of_normalizeMembers path members hreprs entry hlisted member hvalue
  | list items =>
      rw [normalizeJsonValue] at hnormalize
      obtain ⟨normalized, hitems, rfl⟩ := map_eq_ok hnormalize
      exact (canonicalItems_iff _).mpr fun item hitem =>
        canonical_of_normalizeItems path 0 items hreprs (mem_of_gather hitems hitem)
  | tuple items =>
      rw [normalizeJsonValue] at hnormalize
      obtain ⟨normalized, hitems, rfl⟩ := map_eq_ok hnormalize
      exact (canonicalItems_iff _).mpr fun item hitem =>
        canonical_of_normalizeItems path 0 items hreprs (mem_of_gather hitems hitem)
  | other typeName => cases hnormalize

theorem canonical_of_normalizeItems (path : String) (index : Nat) (items : List PyValue)
    (hreprs : PyReprsItems floats items) {json : JsonValue}
    (hitem : .ok json ∈ normalizeItems path index items) : json.Canonical floats := by
  cases items with
  | nil => cases hitem
  | cons item rest =>
      rw [normalizeItems, List.mem_cons] at hitem
      rcases hitem with hfirst | hrest
      · exact canonical_of_normalize _ item hreprs.1 hfirst.symm
      · exact canonical_of_normalizeItems path (index + 1) rest hreprs.2 hrest

theorem canonical_of_normalizeMembers (path : String) (members : List (PyKey × PyValue))
    (hreprs : PyReprsMembers floats members) :
    ∀ entry ∈ normalizeMembers path members, ∀ member, entry.2 = .ok member →
      member.2.Canonical floats := by
  cases members with
  | nil => simp [normalizeMembers]
  | cons first rest =>
      obtain ⟨key, value⟩ := first
      intro entry hentry member hmember
      simp only [normalizeMembers, List.mem_cons] at hentry
      rcases hentry with rfl | hrest
      · cases key with
        | other text => cases hmember
        | str name =>
            obtain ⟨normalized, hvalue, rfl⟩ := map_eq_ok hmember
            exact canonical_of_normalize _ value hreprs.1 hvalue
      · exact canonical_of_normalizeMembers path rest hreprs.2 entry hrest member hmember

end

end Normalised

end PyWorkflowKit.Domain
