import PyWorkflowKit.V1.Entities

/-!
# Redaction

Mappings without the values that stand under sensitive keys, and what a reader of a redacted
mapping can tell about those values.
-/

namespace PyWorkflowKit.V1

open PyWorkflowKit.Domain

/-- `_SENSITIVE_TOKENS`. -/
def sensitiveTokens : List String :=
  ["password", "passwd", "secret", "token", "api_key", "apikey", "authorization", "credential",
    "private_key"]

/-- `str.lower`, as far as a search for lower-case ASCII texts goes: besides the ASCII letters
only the Kelvin sign and the dotted capital I have ASCII letters in lower case. -/
def lowerKey (key : String) : List Char :=
  key.toList.flatMap fun character =>
    if character.toNat = 0x212a then ['k']
    else if character.toNat = 0x130 then ['i', Char.ofNat 0x307]
    else [character.toLower]

/-- `_is_sensitive_key`. -/
def isSensitiveKey (key : String) : Bool :=
  let normalized := (lowerKey key).map fun character => if character = '-' then '_' else character
  sensitiveTokens.any fun sensitive =>
    normalized.tails.any fun rest => sensitive.toList.isPrefixOf rest

/-- `_REDACTED`. -/
def redacted : PyValue := .str "<redacted>"

/-- `redact_value` of what stands under a key. -/
def redactKeyed (key : PyKey) (inner : Except Error PyValue) : Except Error PyValue :=
  match key with
  | .str name => if isSensitiveKey name then .ok redacted else inner
  | .other _ => .error (.raised "AttributeError")

mutual

/-- `redact_value` of a value without a key. -/
def redactValue : PyValue → Except Error PyValue
  | .dict members => (redactMembers members).map .dict
  | .list items => (redactItems items).map .list
  | .tuple items => (redactItems items).map .tuple
  | value => .ok value

def redactItems : List PyValue → Except Error (List PyValue)
  | [] => .ok []
  | item :: rest => do
      let first ← redactValue item
      let others ← redactItems rest
      .ok (first :: others)

/-- `redact_mapping` of a nested mapping. -/
def redactMembers : List (PyKey × PyValue) → Except Error (List (PyKey × PyValue))
  | [] => .ok []
  | (key, value) :: rest => do
      let first ← redactKeyed key (redactValue value)
      let others ← redactMembers rest
      .ok ((key, first) :: others)

end

/-- `redact_mapping`. -/
def redactMapping : Objects → Except Error Objects
  | [] => .ok []
  | (name, value) :: rest => do
      let first ← redactKeyed (.str name) (redactValue value)
      let others ← redactMapping rest
      .ok ((name, first) :: others)

/-- The value under a key may differ: the key is sensitive. -/
def PyKey.Hides : PyKey → Prop
  | .str name => isSensitiveKey name = true
  | .other _ => False

mutual

/-- The values differ at most under sensitive keys. -/
def Conceals : PyValue → PyValue → Prop
  | .dict left, .dict right => ConcealsMembers left right
  | .list left, .list right => ConcealsItems left right
  | .tuple left, .tuple right => ConcealsItems left right
  | .none, .none => True
  | .bool left, .bool right => left = right
  | .int left, .int right => left = right
  | .float left finite, .float right finite' => left = right ∧ finite = finite'
  | .str left, .str right => left = right
  | .enum left, .enum right => left = right
  | .other left, .other right => left = right
  | _, _ => False

def ConcealsItems : List PyValue → List PyValue → Prop
  | [], [] => True
  | left :: lefts, right :: rights => Conceals left right ∧ ConcealsItems lefts rights
  | _, _ => False

def ConcealsMembers : List (PyKey × PyValue) → List (PyKey × PyValue) → Prop
  | [], [] => True
  | (leftKey, left) :: lefts, (rightKey, right) :: rights =>
      (leftKey = rightKey ∧ (PyKey.Hides leftKey ∨ Conceals left right)) ∧
        ConcealsMembers lefts rights
  | _, _ => False

end

/-- The mappings differ at most under sensitive keys, at any depth. -/
def ConcealsMapping (left right : Objects) : Prop :=
  List.Forall₂ (fun first second => first.1 = second.1 ∧
    (isSensitiveKey first.1 = true ∨ Conceals first.2 second.2)) left right

mutual

/-- Every mapping inside the value has text keys. -/
def TextKeys : PyValue → Prop
  | .dict members => TextKeysMembers members
  | .list items => TextKeysItems items
  | .tuple items => TextKeysItems items
  | _ => True

def TextKeysItems : List PyValue → Prop
  | [] => True
  | item :: rest => TextKeys item ∧ TextKeysItems rest

def TextKeysMembers : List (PyKey × PyValue) → Prop
  | [] => True
  | (.str _, value) :: rest => TextKeys value ∧ TextKeysMembers rest
  | (.other _, _) :: _ => False

end

mutual

/-- Whatever stands under a sensitive key is redacted. -/
def Redacted : PyValue → Prop
  | .dict members => RedactedMembers members
  | .list items => RedactedItems items
  | .tuple items => RedactedItems items
  | _ => True

def RedactedItems : List PyValue → Prop
  | [] => True
  | item :: rest => Redacted item ∧ RedactedItems rest

def RedactedMembers : List (PyKey × PyValue) → Prop
  | [] => True
  | (key, value) :: rest =>
      ((PyKey.Hides key ∧ value = redacted) ∨ (¬PyKey.Hides key ∧ Redacted value)) ∧
        RedactedMembers rest

end

theorem redactKeyed_hidden {name : String} (hsensitive : isSensitiveKey name = true)
    (inner : Except Error PyValue) : redactKeyed (.str name) inner = .ok redacted := by
  rw [redactKeyed, if_pos hsensitive]

theorem redactKeyed_shown {name : String} (hsensitive : ¬isSensitiveKey name = true)
    (inner : Except Error PyValue) : redactKeyed (.str name) inner = inner := by
  rw [redactKeyed, if_neg hsensitive]

mutual

/-- Values that differ only under sensitive keys are redacted to the same value. -/
theorem redactValue_congr (left right : PyValue) (hsame : Conceals left right) :
    redactValue left = redactValue right := by
  cases left with
  | dict members =>
      cases right with
      | dict others =>
          rw [redactValue, redactValue, redactMembers_congr members others hsame]
      | _ => exact hsame.elim
  | list items =>
      cases right with
      | list others => rw [redactValue, redactValue, redactItems_congr items others hsame]
      | _ => exact hsame.elim
  | tuple items =>
      cases right with
      | tuple others => rw [redactValue, redactValue, redactItems_congr items others hsame]
      | _ => exact hsame.elim
  | none => cases right <;> first | rfl | exact hsame.elim
  | bool value => cases right <;> first | exact hsame.elim | (cases hsame; rfl)
  | int value => cases right <;> first | exact hsame.elim | (cases hsame; rfl)
  | float text finite =>
      cases right <;> first | exact hsame.elim | (obtain ⟨rfl, rfl⟩ := hsame; rfl)
  | str value => cases right <;> first | exact hsame.elim | (cases hsame; rfl)
  | enum value => cases right <;> first | exact hsame.elim | (cases hsame; rfl)
  | other value => cases right <;> first | exact hsame.elim | (cases hsame; rfl)

theorem redactItems_congr (left right : List PyValue) (hsame : ConcealsItems left right) :
    redactItems left = redactItems right := by
  cases left with
  | nil =>
      cases right with
      | nil => rfl
      | cons second others => exact hsame.elim
  | cons first rest =>
      cases right with
      | nil => exact hsame.elim
      | cons second others =>
          rw [redactItems, redactItems, redactValue_congr first second hsame.1,
            redactItems_congr rest others hsame.2]

theorem redactMembers_congr (left right : List (PyKey × PyValue))
    (hsame : ConcealsMembers left right) : redactMembers left = redactMembers right := by
  cases left with
  | nil =>
      cases right with
      | nil => rfl
      | cons second others => exact hsame.elim
  | cons first rest =>
      cases right with
      | nil => exact hsame.elim
      | cons second others =>
          obtain ⟨key, value⟩ := first
          obtain ⟨otherKey, other⟩ := second
          obtain ⟨⟨rfl, hvalue⟩, hrest⟩ := hsame
          rw [redactMembers, redactMembers, redactMembers_congr rest others hrest]
          cases key with
          | other typeName => rfl
          | str name =>
              rcases hvalue with hhidden | hvalue
              · rw [redactKeyed_hidden hhidden, redactKeyed_hidden hhidden]
              · rw [redactValue_congr value other hvalue]

end

theorem redactMapping_congr {left right : Objects} (hsame : ConcealsMapping left right) :
    redactMapping left = redactMapping right := by
  induction hsame with
  | nil => rfl
  | @cons first second rest others hfirst hrest ih =>
      obtain ⟨name, value⟩ := first
      obtain ⟨otherName, other⟩ := second
      obtain ⟨rfl, hvalue⟩ := hfirst
      rw [redactMapping, redactMapping, ih]
      rcases hvalue with hhidden | hvalue
      · rw [redactKeyed_hidden hhidden, redactKeyed_hidden hhidden]
      · rw [redactValue_congr value other hvalue]

mutual

/-- A redacted value keeps everything that does not stand under a sensitive key, and nothing
that does; redacting it again changes nothing. -/
theorem redactValue_spec (value : PyValue) {result : PyValue}
    (hresult : redactValue value = .ok result) :
    Conceals value result ∧ Redacted result ∧ redactValue result = .ok result := by
  cases value with
  | dict members =>
      rw [redactValue] at hresult
      obtain ⟨others, hothers, rfl⟩ := map_eq_ok hresult
      obtain ⟨hkept, hhidden, hagain⟩ := redactMembers_spec members hothers
      exact ⟨hkept, hhidden, by rw [redactValue, hagain]; rfl⟩
  | list items =>
      rw [redactValue] at hresult
      obtain ⟨others, hothers, rfl⟩ := map_eq_ok hresult
      obtain ⟨hkept, hhidden, hagain⟩ := redactItems_spec items hothers
      exact ⟨hkept, hhidden, by rw [redactValue, hagain]; rfl⟩
  | tuple items =>
      rw [redactValue] at hresult
      obtain ⟨others, hothers, rfl⟩ := map_eq_ok hresult
      obtain ⟨hkept, hhidden, hagain⟩ := redactItems_spec items hothers
      exact ⟨hkept, hhidden, by rw [redactValue, hagain]; rfl⟩
  | none => cases hresult; exact ⟨trivial, trivial, rfl⟩
  | bool flag => cases hresult; exact ⟨rfl, trivial, rfl⟩
  | int number => cases hresult; exact ⟨rfl, trivial, rfl⟩
  | float text finite => cases hresult; exact ⟨⟨rfl, rfl⟩, trivial, rfl⟩
  | str text => cases hresult; exact ⟨rfl, trivial, rfl⟩
  | enum inner => cases hresult; exact ⟨rfl, trivial, rfl⟩
  | other typeName => cases hresult; exact ⟨rfl, trivial, rfl⟩

theorem redactItems_spec (items : List PyValue) {result : List PyValue}
    (hresult : redactItems items = .ok result) :
    ConcealsItems items result ∧ RedactedItems result ∧ redactItems result = .ok result := by
  cases items with
  | nil => cases hresult; exact ⟨trivial, trivial, rfl⟩
  | cons item rest =>
      rw [redactItems] at hresult
      obtain ⟨first, hfirst, hresult⟩ := bind_eq_ok hresult
      obtain ⟨others, hothers, hresult⟩ := bind_eq_ok hresult
      cases hresult
      obtain ⟨hkept, hhidden, hagain⟩ := redactValue_spec item hfirst
      obtain ⟨hkeptRest, hhiddenRest, hagainRest⟩ := redactItems_spec rest hothers
      exact ⟨⟨hkept, hkeptRest⟩, ⟨hhidden, hhiddenRest⟩,
        by rw [redactItems, hagain, hagainRest]; rfl⟩

theorem redactMembers_spec (members : List (PyKey × PyValue)) {result : List (PyKey × PyValue)}
    (hresult : redactMembers members = .ok result) :
    ConcealsMembers members result ∧ RedactedMembers result ∧
      redactMembers result = .ok result := by
  cases members with
  | nil => cases hresult; exact ⟨trivial, trivial, rfl⟩
  | cons member rest =>
      obtain ⟨key, value⟩ := member
      rw [redactMembers] at hresult
      obtain ⟨first, hfirst, hresult⟩ := bind_eq_ok hresult
      obtain ⟨others, hothers, hresult⟩ := bind_eq_ok hresult
      cases hresult
      obtain ⟨hkeptRest, hhiddenRest, hagainRest⟩ := redactMembers_spec rest hothers
      cases key with
      | other typeName => cases hfirst
      | str name =>
          by_cases hsensitive : isSensitiveKey name = true
          · rw [redactKeyed_hidden hsensitive] at hfirst
            cases hfirst
            refine ⟨⟨⟨rfl, Or.inl hsensitive⟩, hkeptRest⟩,
              ⟨Or.inl ⟨hsensitive, rfl⟩, hhiddenRest⟩, ?_⟩
            rw [redactMembers, hagainRest, redactKeyed_hidden hsensitive]
            rfl
          · rw [redactKeyed_shown hsensitive] at hfirst
            obtain ⟨hkept, hhidden, hagain⟩ := redactValue_spec value hfirst
            refine ⟨⟨⟨rfl, Or.inr hkept⟩, hkeptRest⟩,
              ⟨Or.inr ⟨hsensitive, hhidden⟩, hhiddenRest⟩, ?_⟩
            rw [redactMembers, hagainRest, redactKeyed_shown hsensitive, hagain]
            rfl

end

/-- What `redact_mapping` keeps, hides and leaves when it is applied again. -/
theorem redactMapping_spec {values result : Objects} (hresult : redactMapping values = .ok result) :
    ConcealsMapping values result ∧
      (∀ member ∈ result, (isSensitiveKey member.1 = true ∧ member.2 = redacted) ∨
        (¬isSensitiveKey member.1 = true ∧ Redacted member.2)) ∧
      redactMapping result = .ok result := by
  induction values generalizing result with
  | nil =>
      cases hresult
      exact ⟨.nil, nofun, rfl⟩
  | cons member rest ih =>
      obtain ⟨name, value⟩ := member
      rw [redactMapping] at hresult
      obtain ⟨first, hfirst, hresult⟩ := bind_eq_ok hresult
      obtain ⟨others, hothers, hresult⟩ := bind_eq_ok hresult
      cases hresult
      obtain ⟨hkeptRest, hhiddenRest, hagainRest⟩ := ih hothers
      by_cases hsensitive : isSensitiveKey name = true
      · rw [redactKeyed_hidden hsensitive] at hfirst
        cases hfirst
        refine ⟨.cons ⟨rfl, Or.inl hsensitive⟩ hkeptRest,
          List.forall_mem_cons.mpr ⟨Or.inl ⟨hsensitive, rfl⟩, hhiddenRest⟩, ?_⟩
        rw [redactMapping, hagainRest, redactKeyed_hidden hsensitive]
        rfl
      · rw [redactKeyed_shown hsensitive] at hfirst
        obtain ⟨hkept, hhidden, hagain⟩ := redactValue_spec value hfirst
        refine ⟨.cons ⟨rfl, Or.inr hkept⟩ hkeptRest,
          List.forall_mem_cons.mpr ⟨Or.inr ⟨hsensitive, hhidden⟩, hhiddenRest⟩, ?_⟩
        rw [redactMapping, hagainRest, redactKeyed_shown hsensitive, hagain]
        rfl

mutual

/-- Only a key that is no text is rejected. -/
theorem exists_redactValue (value : PyValue) (hkeys : TextKeys value) :
    ∃ result, redactValue value = .ok result := by
  cases value with
  | dict members =>
      obtain ⟨others, hothers⟩ := exists_redactMembers members hkeys
      exact ⟨_, by rw [redactValue, hothers]; rfl⟩
  | list items =>
      obtain ⟨others, hothers⟩ := exists_redactItems items hkeys
      exact ⟨_, by rw [redactValue, hothers]; rfl⟩
  | tuple items =>
      obtain ⟨others, hothers⟩ := exists_redactItems items hkeys
      exact ⟨_, by rw [redactValue, hothers]; rfl⟩
  | none => exact ⟨_, rfl⟩
  | bool flag => exact ⟨_, rfl⟩
  | int number => exact ⟨_, rfl⟩
  | float text finite => exact ⟨_, rfl⟩
  | str text => exact ⟨_, rfl⟩
  | enum inner => exact ⟨_, rfl⟩
  | other typeName => exact ⟨_, rfl⟩

theorem exists_redactItems (items : List PyValue) (hkeys : TextKeysItems items) :
    ∃ result, redactItems items = .ok result := by
  cases items with
  | nil => exact ⟨[], rfl⟩
  | cons item rest =>
      obtain ⟨first, hfirst⟩ := exists_redactValue item hkeys.1
      obtain ⟨others, hothers⟩ := exists_redactItems rest hkeys.2
      exact ⟨first :: others, by rw [redactItems, hfirst, hothers]; rfl⟩

theorem exists_redactMembers (members : List (PyKey × PyValue)) (hkeys : TextKeysMembers members) :
    ∃ result, redactMembers members = .ok result := by
  cases members with
  | nil => exact ⟨[], rfl⟩
  | cons member rest =>
      obtain ⟨key, value⟩ := member
      cases key with
      | other typeName => exact hkeys.elim
      | str name =>
          obtain ⟨first, hfirst⟩ := exists_redactValue value hkeys.1
          obtain ⟨others, hothers⟩ := exists_redactMembers rest hkeys.2
          rw [redactMembers, hothers, hfirst]
          by_cases hsensitive : isSensitiveKey name = true
          · rw [redactKeyed_hidden hsensitive]
            exact ⟨_, rfl⟩
          · rw [redactKeyed_shown hsensitive]
            exact ⟨_, rfl⟩

end

theorem exists_redactMapping {values : Objects} (hkeys : ∀ member ∈ values, TextKeys member.2) :
    ∃ result, redactMapping values = .ok result := by
  induction values with
  | nil => exact ⟨[], rfl⟩
  | cons member rest ih =>
      obtain ⟨name, value⟩ := member
      obtain ⟨hvalue, hrest⟩ := List.forall_mem_cons.mp hkeys
      obtain ⟨first, hfirst⟩ := exists_redactValue value hvalue
      obtain ⟨others, hothers⟩ := ih hrest
      rw [redactMapping, hothers, hfirst]
      by_cases hsensitive : isSensitiveKey name = true
      · rw [redactKeyed_hidden hsensitive]
        exact ⟨_, rfl⟩
      · rw [redactKeyed_shown hsensitive]
        exact ⟨_, rfl⟩

example : isSensitiveKey "X-API-Key" = true := by decide
example : isSensitiveKey "author" = false := by decide

end PyWorkflowKit.V1
