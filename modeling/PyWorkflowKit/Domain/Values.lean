import Mathlib.Data.Int.Basic
import Mathlib.Order.Basic

/-!
# Textual and temporal values

The scalar values that every persisted entity is made of: non-blank text, the
opaque identifiers built from it, timezone-aware datetimes and the instants
they denote.
-/

namespace PyWorkflowKit.Domain

/-- The characters `str.strip` removes. -/
def isSpace (character : Char) : Bool :=
  let code := character.toNat
  (0x09 ≤ code && code ≤ 0x0d) || (0x1c ≤ code && code ≤ 0x20) ||
    code == 0x85 || code == 0xa0 || code == 0x1680 ||
    (0x2000 ≤ code && code ≤ 0x200a) || code == 0x2028 || code == 0x2029 ||
    code == 0x202f || code == 0x205f || code == 0x3000

def isBlank (text : String) : Bool :=
  text.toList.all isSpace

/-- A string that is not blank after `strip`. -/
structure Text where
  value : String
  notBlank : isBlank value = false
deriving DecidableEq

namespace Text

@[ext]
theorem ext {left right : Text} (hvalue : left.value = right.value) :
    left = right := by
  cases left
  cases right
  subst hvalue
  rfl

/-- The text of a literal of the source. -/
def lit (value : String)
    (notBlank : isBlank value = false := by exact @Eq.refl Bool false) : Text :=
  ⟨value, notBlank⟩

def ofString? (value : String) : Option Text :=
  if h : isBlank value = false then some ⟨value, h⟩ else none

@[simp]
theorem ofString?_value (text : Text) : ofString? text.value = some text := by
  simp [ofString?, text.notBlank]

theorem ofString?_eq_none {value : String} (hblank : ofString? value = none) :
    isBlank value = true := by
  unfold ofString? at hblank
  split at hblank
  · cases hblank
  · next hnot => simpa using hnot

theorem value_of_ofString? {value : String} {text : Text}
    (hparsed : ofString? value = some text) : text.value = value := by
  unfold ofString? at hparsed
  split at hparsed
  · cases hparsed
    rfl
  · cases hparsed

end Text

structure WorkflowRunId where
  value : Text
deriving DecidableEq

structure TaskRunId where
  value : Text
deriving DecidableEq

structure TaskAttemptId where
  value : Text
deriving DecidableEq

structure CorrelationId where
  value : Text
deriving DecidableEq

def WorkflowRunId.str (id : WorkflowRunId) : String := id.value.value
def TaskRunId.str (id : TaskRunId) : String := id.value.value
def TaskAttemptId.str (id : TaskAttemptId) : String := id.value.value
def CorrelationId.str (id : CorrelationId) : String := id.value.value

theorem WorkflowRunId.str_injective {left right : WorkflowRunId}
    (hstr : left.str = right.str) : left = right := by
  cases left
  cases right
  exact congrArg WorkflowRunId.mk (Text.ext hstr)

theorem TaskRunId.str_injective {left right : TaskRunId}
    (hstr : left.str = right.str) : left = right := by
  cases left
  cases right
  exact congrArg TaskRunId.mk (Text.ext hstr)

theorem TaskAttemptId.str_injective {left right : TaskAttemptId}
    (hstr : left.str = right.str) : left = right := by
  cases left
  cases right
  exact congrArg TaskAttemptId.mk (Text.ext hstr)

/-- Key/value pairs of the metadata and details tuples. -/
abbrev Pairs := List (String × String)

/-- Microseconds in one day. -/
def dayMicros : Int := 86400000000

/-- Microseconds between `datetime.min` and `datetime.max`. -/
def maxMicros : Int := 3652059 * dayMicros - 1

/-- A timezone-aware datetime: its local reading, in microseconds since the
first representable moment, and its offset from UTC. -/
structure DateTime where
  localMicros : Int
  offsetMicros : Int
  localRange : 0 ≤ localMicros ∧ localMicros ≤ maxMicros
  offsetRange : -dayMicros < offsetMicros ∧ offsetMicros < dayMicros
deriving DecidableEq

/-- The first representable moment. -/
theorem DateTime.localRange_zero : (0 : Int) ≤ 0 ∧ (0 : Int) ≤ maxMicros := by
  decide

/-- The offset of UTC. -/
theorem DateTime.offsetRange_zero : -dayMicros < 0 ∧ 0 < dayMicros := by
  decide

/-- What an aware datetime denotes; two aware datetimes are equal in the
source exactly when they denote the same instant. -/
structure Instant where
  micros : Int
  range : -dayMicros < micros ∧ micros < maxMicros + dayMicros
deriving DecidableEq

@[ext]
theorem Instant.ext {left right : Instant}
    (hmicros : left.micros = right.micros) : left = right := by
  cases left
  cases right
  subst hmicros
  rfl

/-- The first moment that a UTC datetime can denote. -/
def Instant.first : Instant := ⟨0, by decide⟩

def DateTime.instant (at_ : DateTime) : Instant :=
  ⟨at_.localMicros - at_.offsetMicros, by
    have hlocal := at_.localRange
    have hoffset := at_.offsetRange
    omega⟩

/-- `value + timedelta`; `none` stands for the `OverflowError`. -/
def DateTime.add? (at_ : DateTime) (delta : Int) : Option DateTime :=
  if h : 0 ≤ at_.localMicros + delta ∧ at_.localMicros + delta ≤ maxMicros then
    some { at_ with localMicros := at_.localMicros + delta, localRange := h }
  else none

/-- `astimezone(UTC)` succeeds on this instant. -/
def Instant.InUtc (at_ : Instant) : Prop :=
  0 ≤ at_.micros ∧ at_.micros ≤ maxMicros

instance (at_ : Instant) : Decidable at_.InUtc := by
  unfold Instant.InUtc
  infer_instance

instance : LE Instant where
  le left right := left.micros ≤ right.micros

instance : LT Instant where
  lt left right := left.micros < right.micros

instance (left right : Instant) : Decidable (left < right) :=
  inferInstanceAs (Decidable (left.micros < right.micros))

instance (left right : Instant) : Decidable (left ≤ right) :=
  inferInstanceAs (Decidable (left.micros ≤ right.micros))

theorem Instant.lt_def (left right : Instant) :
    left < right ↔ left.micros < right.micros := Iff.rfl

theorem Instant.le_def (left right : Instant) :
    left ≤ right ↔ left.micros ≤ right.micros := Iff.rfl

instance : LinearOrder Instant where
  le_refl value := Int.le_refl value.micros
  le_trans _ _ _ := Int.le_trans
  lt_iff_le_not_ge left right := by
    rw [Instant.lt_def, Instant.le_def, Instant.le_def]
    omega
  le_antisymm left right hleft hright :=
    Instant.ext (Int.le_antisymm hleft hright)
  le_total left right := Int.le_total left.micros right.micros
  toDecidableLE := inferInstance
  toDecidableEq := inferInstance
  toDecidableLT := inferInstance

end PyWorkflowKit.Domain
