import PyWorkflowKit.Domain.Errors
import PyWorkflowKit.Domain.Values
import Mathlib.Data.Int.Log
import Mathlib.Data.Rat.Floor

/-!
# Numbers

Python integers and binary64 floats, as far as retry delays, budgets and
timeouts compute with them.  A finite float is the rational it denotes; results
are rounded to the nearest float, ties to even.
-/

namespace PyWorkflowKit.Domain

/-- A float that is neither negative infinity nor a NaN. -/
inductive PyFloat where
  | finite (value : ℚ)
  | infinite
deriving DecidableEq

/-- A finite Python number. -/
inductive Number where
  | int (value : ℤ)
  | float (value : ℚ)
deriving DecidableEq

/-- The nearest integer, ties to even. -/
def roundHalfEven (value : ℚ) : ℤ :=
  let lower := ⌊value⌋
  let part := value - lower
  if part < 1 / 2 then lower
  else if 1 / 2 < part then lower + 1
  else if lower % 2 = 0 then lower
  else lower + 1

theorem roundHalfEven_nonneg {value : ℚ} (hvalue : 0 ≤ value) :
    0 ≤ roundHalfEven value := by
  have hfloor : 0 ≤ ⌊value⌋ := Int.floor_nonneg.mpr hvalue
  unfold roundHalfEven
  simp only
  split
  · exact hfloor
  split
  · omega
  split <;> omega

/-- Rounding does not pass an integer. -/
theorem roundHalfEven_le {value : ℚ} {bound : ℤ} (hvalue : value ≤ bound) :
    roundHalfEven value ≤ bound := by
  have hfloor : ⌊value⌋ ≤ bound := by
    exact_mod_cast (Int.floor_le value).trans hvalue
  have hnext : 1 / 2 ≤ value - ⌊value⌋ → ⌊value⌋ + 1 ≤ bound := by
    intro hpart
    have hlt : (⌊value⌋ : ℚ) < bound := by linarith
    exact_mod_cast Int.add_one_le_of_lt (by exact_mod_cast hlt)
  unfold roundHalfEven
  simp only
  split
  · exact hfloor
  · next hpart =>
    have hround := hnext (not_lt.mp hpart)
    split
    · exact hround
    split
    · exact hfloor
    · exact hround

/-- Rounding does not fall below an integer. -/
theorem le_roundHalfEven {value : ℚ} {bound : ℤ} (hvalue : (bound : ℚ) ≤ value) :
    bound ≤ roundHalfEven value := by
  have hfloor : bound ≤ ⌊value⌋ := Int.le_floor.mpr hvalue
  unfold roundHalfEven
  simp only
  split
  · exact hfloor
  split
  · omega
  split <;> omega

namespace PyFloat

/-- The distance between floats of the magnitude of `value`. -/
def spacing (value : ℚ) : ℚ := 2 ^ (max (Int.log 2 |value|) (-1022) - 52)

/-- The float nearest to a rational that is not below every finite float. -/
def ofRat (value : ℚ) : PyFloat :=
  if value = 0 then finite 0
  else
    let rounded := roundHalfEven (value / spacing value) * spacing value
    if (2 : ℚ) ^ (1024 : ℕ) ≤ rounded then infinite else finite rounded

theorem spacing_pos (value : ℚ) : 0 < spacing value := zpow_pos two_pos _

/-- The largest float. -/
def largest : ℚ := (2 ^ 53 - 1) * 2 ^ (971 : ℤ)

/-- What is not above the largest float rounds to a float. -/
theorem ofRat_eq_finite {value : ℚ} (hvalue : value ≤ largest) :
    ∃ rounded, ofRat value = .finite rounded := by
  have hspacing := spacing_pos value
  -- the value lies below the multiple `count` of its spacing, which is a float
  have hbelow : ∀ count : ℤ, value ≤ count * spacing value →
      (count : ℚ) * spacing value < 2 ^ (1024 : ℕ) →
      ∃ rounded, ofRat value = .finite rounded := by
    intro count hcount hsmall
    unfold ofRat
    split
    · exact ⟨0, rfl⟩
    · simp only
      rw [if_neg]
      · exact ⟨_, rfl⟩
      · have hround : (roundHalfEven (value / spacing value) : ℚ) ≤ count := by
          exact_mod_cast roundHalfEven_le ((div_le_iff₀ hspacing).mpr hcount)
        exact not_le.mpr
          ((mul_le_mul_of_nonneg_right hround hspacing.le).trans_lt hsmall)
  rcases le_or_gt value 0 with hnonpos | hpos
  · exact hbelow 0 (by simpa using hnonpos) (by simp)
  have hlog : value < 2 ^ (Int.log 2 value + 1) := Int.lt_zpow_succ_log_self one_lt_two value
  have hlarge : value < (2 : ℚ) ^ (1024 : ℤ) := by
    refine hvalue.trans_lt ?_
    unfold largest
    rw [show (1024 : ℤ) = 53 + 971 from rfl, zpow_add₀ two_ne_zero]
    exact mul_lt_mul_of_pos_right (by norm_num) (zpow_pos two_pos _)
  have hlogBound : Int.log 2 value < 1024 := (Int.lt_zpow_iff_log_lt one_lt_two hpos).mp hlarge
  have hstep : spacing value = 2 ^ (max (Int.log 2 value) (-1022) - 52) := by
    unfold spacing
    rw [abs_of_pos hpos]
  rcases (Int.lt_add_one_iff.mp hlogBound : Int.log 2 value ≤ 1023).lt_or_eq with hlt | heq
  · have hexponent : max (Int.log 2 value) (-1022) - 52 ≤ 970 := by omega
    refine hbelow (2 ^ 53) ?_ ?_
    · calc
        value ≤ 2 ^ (Int.log 2 value + 1) := hlog.le
        _ ≤ 2 ^ ((53 : ℤ) + (max (Int.log 2 value) (-1022) - 52)) :=
          zpow_le_zpow_right₀ (by norm_num) (by omega)
        _ = ((2 ^ 53 : ℤ) : ℚ) * spacing value := by
          rw [zpow_add₀ two_ne_zero, hstep]
          norm_num
    · calc
        ((2 ^ 53 : ℤ) : ℚ) * spacing value ≤ ((2 ^ 53 : ℤ) : ℚ) * 2 ^ (970 : ℤ) := by
          rw [hstep]
          exact mul_le_mul_of_nonneg_left (zpow_le_zpow_right₀ (by norm_num) hexponent)
            (by norm_num)
        _ = 2 ^ (1023 : ℕ) := by
          rw [← zpow_natCast (2 : ℚ) 1023, show ((1023 : ℕ) : ℤ) = 53 + 970 from rfl,
            zpow_add₀ two_ne_zero]
          norm_num
        _ < 2 ^ (1024 : ℕ) := pow_lt_pow_right₀ (by norm_num) (by norm_num)
  · have hexact : spacing value = 2 ^ (971 : ℤ) := by
      rw [hstep, heq]
      rfl
    refine hbelow (2 ^ 53 - 1) ?_ ?_
    · rw [hexact, Int.cast_sub, Int.cast_pow, Int.cast_ofNat, Int.cast_one]
      exact hvalue
    · rw [hexact, ← zpow_natCast (2 : ℚ) 1024, show ((1024 : ℕ) : ℤ) = 53 + 971 from rfl,
        zpow_add₀ two_ne_zero]
      exact mul_lt_mul_of_pos_right (by norm_num) (zpow_pos two_pos _)

/-- What is not below the next power of two rounds to no float. -/
theorem ofRat_eq_infinite {value : ℚ} (hvalue : (2 : ℚ) ^ (1024 : ℕ) ≤ value) :
    ofRat value = .infinite := by
  have hspacing := spacing_pos value
  have hpos : 0 < value := (pow_pos two_pos 1024).trans_le hvalue
  have hlog : (1024 : ℤ) ≤ Int.log 2 value := by
    rw [← Int.zpow_le_iff_le_log one_lt_two hpos]
    calc
      (2 : ℚ) ^ (1024 : ℤ) = 2 ^ (1024 : ℕ) := zpow_natCast 2 1024
      _ ≤ value := hvalue
  have hstep : spacing value = 2 ^ (Int.log 2 value - 52) := by
    unfold spacing
    rw [abs_of_pos hpos, max_eq_left (by omega)]
  -- the power of two below the value is a multiple of the spacing
  have hmultiple : ((2 ^ 52 : ℤ) : ℚ) * spacing value = 2 ^ Int.log 2 value := by
    rw [hstep, Int.cast_pow, Int.cast_ofNat, ← zpow_natCast (2 : ℚ) 52,
      ← zpow_add₀ two_ne_zero]
    congr 1
    omega
  have hbelow : ((2 ^ 52 : ℤ) : ℚ) ≤ value / spacing value := by
    rw [le_div_iff₀ hspacing, hmultiple]
    exact Int.zpow_log_le_self one_lt_two hpos
  unfold ofRat
  rw [if_neg hpos.ne']
  simp only
  rw [if_pos]
  calc
    (2 : ℚ) ^ (1024 : ℕ) = 2 ^ (1024 : ℤ) := (zpow_natCast 2 1024).symm
    _ ≤ 2 ^ Int.log 2 value := zpow_le_zpow_right₀ (by norm_num) hlog
    _ = ((2 ^ 52 : ℤ) : ℚ) * spacing value := hmultiple.symm
    _ ≤ roundHalfEven (value / spacing value) * spacing value := by
      apply mul_le_mul_of_nonneg_right _ hspacing.le
      exact_mod_cast le_roundHalfEven hbelow

/-- A float that compares greater than or equal to zero. -/
def Nonneg : PyFloat → Prop
  | finite value => 0 ≤ value
  | infinite => True

theorem ofRat_nonneg {value : ℚ} (hvalue : 0 ≤ value) : (ofRat value).Nonneg := by
  have hspacing := spacing_pos value
  unfold ofRat
  split
  · exact le_refl (0 : ℚ)
  · simp only
    split
    · trivial
    · have hrounded : (0 : ℚ) ≤ roundHalfEven (value / spacing value) := by
        exact_mod_cast roundHalfEven_nonneg (div_nonneg hvalue hspacing.le)
      exact mul_nonneg hrounded hspacing.le

/-- `math.isfinite`. -/
def isFinite : PyFloat → Bool
  | finite _ => true
  | infinite => false

def add : PyFloat → PyFloat → PyFloat
  | finite left, finite right => ofRat (left + right)
  | _, _ => infinite

def mul : PyFloat → PyFloat → PyFloat
  | finite left, finite right => ofRat (left * right)
  | _, _ => infinite

theorem mul_nonneg {left right : PyFloat} (hleft : left.Nonneg) (hright : right.Nonneg) :
    (left.mul right).Nonneg := by
  cases left with
  | infinite => trivial
  | finite left =>
      cases right with
      | infinite => trivial
      | finite right =>
          have hproduct : 0 ≤ left * right := Rat.mul_nonneg hleft hright
          exact ofRat_nonneg hproduct

/-- `left > right`. -/
def exceeds : PyFloat → PyFloat → Bool
  | finite left, finite right => right < left
  | infinite, finite _ => true
  | _, infinite => false

/-- `min(left, right)`. -/
def min (left right : PyFloat) : PyFloat :=
  if left.exceeds right then right else left

/-- The least of two floats does not exceed the second one. -/
theorem min_not_exceeds_right (left right : PyFloat) :
    (left.min right).exceeds right = false := by
  unfold min
  split
  · cases right <;> simp [exceeds]
  · next hbelow => simpa using hbelow

theorem exceeds_trans {first second third : PyFloat} (hfirst : first.exceeds second = false)
    (hsecond : second.exceeds third = false) : first.exceeds third = false := by
  cases first <;> cases second <;> cases third <;> simp_all [exceeds]
  linarith

/-- The truth value of a float. -/
def truthy (value : PyFloat) : Bool := value ≠ finite 0

end PyFloat

namespace Number

/-- The rational that a number denotes. -/
def rat : Number → ℚ
  | int value => value
  | float value => value

/-- `float(value)`; an integer beyond every float does not convert. -/
def toFloat : Number → Except PyError PyFloat
  | int value =>
      match PyFloat.ofRat value with
      | .finite rounded => .ok (.finite rounded)
      | .infinite => .error (.overflowError "int too large to convert to float")
  | float value => .ok (.finite value)

/-- `_validate_non_negative_number` on a finite number. -/
def nonNegativeViolation (fieldName : String) (value : Number) : Option PyError :=
  match value.toFloat with
  | .error error => some error
  | .ok _ =>
      if value.rat < 0 then
        some (.valueError (fieldName ++ " must be greater than or equal to 0"))
      else none

theorem toFloat_eq_ok {value : Number} {rounded : PyFloat}
    (hconverts : value.toFloat = .ok rounded) (hnonneg : 0 ≤ value.rat) :
    ∃ result, rounded = .finite result ∧ 0 ≤ result := by
  cases value with
  | float value =>
      cases hconverts
      exact ⟨value, rfl, hnonneg⟩
  | int value =>
      have hround := PyFloat.ofRat_nonneg hnonneg
      change (PyFloat.ofRat value).Nonneg at hround
      cases hvalue : PyFloat.ofRat value with
      | infinite => simp [toFloat, hvalue] at hconverts
      | finite result =>
          simp only [toFloat, hvalue, Except.ok.injEq] at hconverts
          rw [hvalue] at hround
          exact ⟨result, hconverts.symm, hround⟩

end Number

/-- A number that `_validate_non_negative_number` accepts. -/
structure Seconds where
  value : Number
  nonneg : 0 ≤ value.rat
  asFloat : PyFloat
  converts : value.toFloat = .ok asFloat
deriving DecidableEq

namespace Seconds

def zero : Seconds := ⟨.float 0, le_refl 0, .finite 0, rfl⟩

/-- The float of an accepted number is finite. -/
theorem asFloat_finite (seconds : Seconds) :
    ∃ value, seconds.asFloat = .finite value ∧ 0 ≤ value :=
  Number.toFloat_eq_ok seconds.converts seconds.nonneg

theorem asFloat_nonneg (seconds : Seconds) : seconds.asFloat.Nonneg := by
  obtain ⟨value, hvalue, hnonneg⟩ := seconds.asFloat_finite
  rw [hvalue]
  exact hnonneg

end Seconds

/-- The greatest number of days of a `timedelta`. -/
def maxDeltaDays : ℤ := 999999999

/-- `timedelta(seconds=value)` in microseconds; the fraction of a float is
scaled as a float before it is rounded. -/
def timedeltaSeconds (value : Number) : Except PyError ℤ :=
  let micros :=
    match value with
    | .int seconds => seconds * 1000000
    | .float seconds =>
        let whole := ⌊seconds⌋
        match PyFloat.ofRat ((seconds - whole) * 1000000) with
        | .finite fraction => whole * 1000000 + roundHalfEven fraction
        | .infinite => whole * 1000000
  let days := micros / dayMicros
  if days < -maxDeltaDays ∨ maxDeltaDays < days then
    .error (.overflowError
      ("days=" ++ toString days ++ "; must have magnitude <= 999999999"))
  else .ok micros

/-- `timedelta.total_seconds` of a number of microseconds. -/
def totalSeconds (micros : ℤ) : PyFloat := PyFloat.ofRat (micros / 1000000)

/-- The time between two instants is a float. -/
theorem totalSeconds_eq_finite (later earlier : Instant) :
    ∃ seconds, totalSeconds (later.micros - earlier.micros) = .finite seconds := by
  apply PyFloat.ofRat_eq_finite
  have hlater := later.range.2
  have hearlier := earlier.range.1
  have hmicros : later.micros - earlier.micros ≤ 1000000000000000000 := by
    unfold maxMicros dayMicros at hlater
    unfold dayMicros at hearlier
    omega
  have hcast : ((later.micros - earlier.micros : ℤ) : ℚ) ≤ 1000000000000000000 := by
    exact_mod_cast hmicros
  have hlargest : (1000000000000000000 : ℚ) ≤ PyFloat.largest := by
    unfold PyFloat.largest
    calc
      (1000000000000000000 : ℚ) ≤ (2 ^ 53 - 1) * 2 ^ (53 : ℤ) := by norm_num
      _ ≤ (2 ^ 53 - 1) * 2 ^ (971 : ℤ) :=
        mul_le_mul_of_nonneg_left (zpow_le_zpow_right₀ (by norm_num) (by norm_num))
          (by norm_num)
  have hdivided : ((later.micros - earlier.micros : ℤ) : ℚ) / 1000000 ≤
      1000000000000000000 := by
    rw [div_le_iff₀ (by norm_num)]
    linarith
  exact hdivided.trans hlargest

/-- `max(0.0, value)`. -/
def PyFloat.atLeastZero : PyFloat → PyFloat
  | .finite value => if 0 < value then .finite value else .finite 0
  | .infinite => .infinite

theorem PyFloat.atLeastZero_nonneg (value : PyFloat) : value.atLeastZero.Nonneg := by
  cases value with
  | infinite => trivial
  | finite value =>
      change (if 0 < value then PyFloat.finite value else .finite 0).Nonneg
      split
      · next hpositive => exact hpositive.le
      · exact le_refl (0 : ℚ)

/-- `format(value, ".12g")`. -/
def formatSeconds : PyFloat → String
  | .infinite => "inf"
  | .finite value =>
      if value = 0 then "0"
      else
        let sign := if value < 0 then "-" else ""
        let magnitude := |value|
        let guess := Int.log 10 magnitude
        let scaled := roundHalfEven (magnitude / (10 : ℚ) ^ (guess - 11))
        let (digits, exponent) :=
          if scaled = 10 ^ 12 then ((10 : ℤ) ^ 11, guess + 1) else (scaled, guess)
        let shown := (toString digits).toList
        let strip (text : List Char) : String :=
          String.ofList (text.reverse.dropWhile (· = '0')).reverse
        let withFraction (whole : String) (fraction : List Char) : String :=
          if strip fraction = "" then whole else whole ++ "." ++ strip fraction
        if exponent < -4 ∨ 12 ≤ exponent then
          let power := toString exponent.natAbs
          sign ++ withFraction (String.ofList (shown.take 1)) (shown.drop 1) ++ "e" ++
            (if exponent < 0 then "-" else "+") ++
            (if power.length < 2 then "0" ++ power else power)
        else if exponent < 0 then
          sign ++ withFraction "0"
            (List.replicate (exponent.natAbs - 1) '0' ++ shown)
        else
          sign ++ withFraction (String.ofList (shown.take (exponent.toNat + 1)))
            (shown.drop (exponent.toNat + 1))

end PyWorkflowKit.Domain
