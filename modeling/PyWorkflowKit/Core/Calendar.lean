import Mathlib.Data.Nat.Basic
import Mathlib.Tactic.NormNum

/-!
# The proleptic Gregorian calendar

Days counted from the first of January of year one, and their year, month and
day, with the proof that the two readings agree.
-/

namespace PyWorkflowKit.Core.Calendar

def isLeap (year : Nat) : Bool :=
  year % 4 = 0 && (year % 100 ≠ 0 || year % 400 = 0)

/-- Days of a year before one of its months; the thirteenth stands for its end. -/
def daysBeforeMonth (leap : Bool) (month : Nat) : Nat :=
  let leapDay := if leap && 2 < month then 1 else 0
  match month with
  | 1 => 0
  | 2 => 31
  | 3 => 59 + leapDay
  | 4 => 90 + leapDay
  | 5 => 120 + leapDay
  | 6 => 151 + leapDay
  | 7 => 181 + leapDay
  | 8 => 212 + leapDay
  | 9 => 243 + leapDay
  | 10 => 273 + leapDay
  | 11 => 304 + leapDay
  | 12 => 334 + leapDay
  | _ => 365 + leapDay

def daysBeforeYear (year : Nat) : Nat :=
  let past := year - 1
  past * 365 + past / 4 - past / 100 + past / 400

/-- A date of the calendar. -/
structure Date where
  year : Nat
  month : Nat
  day : Nat
deriving DecidableEq

/-- The days before a date, from the first of January of year one. -/
def Date.days (date : Date) : Nat :=
  daysBeforeYear date.year + daysBeforeMonth (isLeap date.year) date.month + (date.day - 1)

/-- The month and day of a day of the year: a guess of the month that is at most
one too high. -/
def monthDay (leap : Bool) (dayOfYear : Nat) : Nat × Nat :=
  let month := (dayOfYear + 50) / 32
  if daysBeforeMonth leap month > dayOfYear then
    (month - 1, dayOfYear - daysBeforeMonth leap (month - 1) + 1)
  else (month, dayOfYear - daysBeforeMonth leap month + 1)

/-- The date that so many days lie before. -/
def dateOfDays (days : Nat) : Date :=
  let cycles := days / 146097
  let centuries := days % 146097 / 36524
  let quads := days % 146097 % 36524 / 1461
  let years := days % 146097 % 36524 % 1461 / 365
  let dayOfYear := days % 146097 % 36524 % 1461 % 365
  let year := cycles * 400 + 1 + centuries * 100 + quads * 4 + years
  if years = 4 ∨ centuries = 4 then ⟨year - 1, 12, 31⟩
  else
    let leap := years = 3 && (quads ≠ 24 || centuries = 3)
    ⟨year, (monthDay leap dayOfYear).1, (monthDay leap dayOfYear).2⟩

/-- What the month and day of a day of the year say. -/
def MonthDayRight (leap : Bool) (dayOfYear : Nat) : Prop :=
  daysBeforeMonth leap (monthDay leap dayOfYear).1 + ((monthDay leap dayOfYear).2 - 1) =
      dayOfYear ∧
    (monthDay leap dayOfYear).1 < 100 ∧ (monthDay leap dayOfYear).2 < 100

instance (leap : Bool) (dayOfYear : Nat) : Decidable (MonthDayRight leap dayOfYear) := by
  unfold MonthDayRight
  infer_instance

theorem monthDay_right : ∀ leap, ∀ dayOfYear < 365, MonthDayRight leap dayOfYear := by
  decide +kernel

/-- The days before a year, from its cycle, century, leap period and year. -/
theorem daysBeforeYear_eq {cycles centuries quads years : Nat} (hcenturies : centuries ≤ 3)
    (hquads : quads ≤ 24) (hyears : years ≤ 3) :
    daysBeforeYear (cycles * 400 + 1 + centuries * 100 + quads * 4 + years) =
      cycles * 146097 + centuries * 36524 + quads * 1461 + years * 365 := by
  unfold daysBeforeYear
  simp only
  omega

theorem isLeap_eq {cycles centuries quads years : Nat} (hcenturies : centuries ≤ 3)
    (hquads : quads ≤ 24) (hyears : years ≤ 3) :
    isLeap (cycles * 400 + 1 + centuries * 100 + quads * 4 + years) =
      (years = 3 && (quads ≠ 24 || centuries = 3)) := by
  unfold isLeap
  rw [Bool.eq_iff_iff]
  simp only [Bool.and_eq_true, Bool.or_eq_true, decide_eq_true_eq]
  omega

/-- The two readings of a day agree. -/
theorem days_dateOfDays (days : Nat) : (dateOfDays days).days = days := by
  unfold dateOfDays
  simp only
  split
  · next hlast =>
    -- The last day of a leap year is the 366th.
    unfold Date.days
    simp only
    rcases hlast with hyears | hcenturies
    · have hyear : days / 146097 * 400 + 1 + days % 146097 / 36524 * 100 +
          days % 146097 % 36524 / 1461 * 4 + days % 146097 % 36524 % 1461 / 365 - 1 =
          days / 146097 * 400 + 1 + days % 146097 / 36524 * 100 +
            days % 146097 % 36524 / 1461 * 4 + 3 := by omega
      rw [hyear, daysBeforeYear_eq (by omega) (by omega) (by omega),
        isLeap_eq (by omega) (by omega) (by omega)]
      have hquads : days % 146097 % 36524 / 1461 ≠ 24 := by omega
      simp only [daysBeforeMonth]
      norm_num [hquads]
      omega
    · have hyear : days / 146097 * 400 + 1 + days % 146097 / 36524 * 100 +
          days % 146097 % 36524 / 1461 * 4 + days % 146097 % 36524 % 1461 / 365 - 1 =
          days / 146097 * 400 + 1 + 3 * 100 + 24 * 4 + 3 := by omega
      rw [hyear, daysBeforeYear_eq (by omega) (by omega) (by omega),
        isLeap_eq (by omega) (by omega) (by omega)]
      simp only [daysBeforeMonth]
      norm_num
      omega
  · next hinner =>
    rw [not_or] at hinner
    unfold Date.days
    simp only
    rw [daysBeforeYear_eq (by omega) (by omega) (by omega),
      isLeap_eq (by omega) (by omega) (by omega)]
    have hright := (monthDay_right
      (decide (days % 146097 % 36524 % 1461 / 365 = 3) &&
        (decide (days % 146097 % 36524 / 1461 ≠ 24) || decide (days % 146097 / 36524 = 3)))
      (days % 146097 % 36524 % 1461 % 365) (Nat.mod_lt _ (by decide))).1
    omega

/-- Up to the end of year 9999 every number of a date fits its field. -/
theorem dateOfDays_bounds {days : Nat} (hdays : days < 3652059) :
    (dateOfDays days).year < 10000 ∧ (dateOfDays days).month < 100 ∧
      (dateOfDays days).day < 100 := by
  unfold dateOfDays
  simp only
  split
  · simp only
    omega
  · next hinner =>
    rw [not_or] at hinner
    have hright := (monthDay_right
      (decide (days % 146097 % 36524 % 1461 / 365 = 3) &&
        (decide (days % 146097 % 36524 / 1461 ≠ 24) || decide (days % 146097 / 36524 = 3)))
      (days % 146097 % 36524 % 1461 % 365) (Nat.mod_lt _ (by decide))).2
    exact ⟨by simp only; omega, hright⟩

end PyWorkflowKit.Core.Calendar
