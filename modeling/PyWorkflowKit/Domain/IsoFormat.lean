import PyWorkflowKit.Core.Calendar
import PyWorkflowKit.Domain.Values

/-!
# Datetimes as text

`isoformat` and, on the texts it writes for UTC datetimes, `fromisoformat`.
What `fromisoformat` makes of other texts is left to a parameter.
-/

namespace PyWorkflowKit.Domain

open PyWorkflowKit.Core

/-- The last `width` decimal digits of a number. -/
def digits : Nat → Nat → List Char
  | 0, _ => []
  | width + 1, number => digits width (number / 10) ++ [Nat.digitChar (number % 10)]

/-- The number that a list of decimal digits denotes. -/
def readDigits (chars : List Char) : Option Nat :=
  chars.foldl
    (fun number char => number.bind fun value =>
      if char.isDigit then some (value * 10 + (char.toNat - '0'.toNat)) else none)
    (some 0)

theorem length_digits (width number : Nat) : (digits width number).length = width := by
  induction width generalizing number with
  | zero => rfl
  | succ width ih => simp [digits, ih]

theorem digitChar_isDigit : ∀ digit < 10, (Nat.digitChar digit).isDigit = true ∧
    (Nat.digitChar digit).toNat - '0'.toNat = digit := by
  decide

/-- A number is read back from as many digits as it has. -/
theorem readDigits_digits {width number : Nat} (hfits : number < 10 ^ width) :
    readDigits (digits width number) = some number := by
  induction width generalizing number with
  | zero =>
      have hzero : number = 0 := by simpa using hfits
      subst hzero
      rfl
  | succ width ih =>
      have hhigh : number / 10 < 10 ^ width := by
        rw [Nat.div_lt_iff_lt_mul (by decide)]
        simpa [Nat.pow_succ] using hfits
      have hdigit := digitChar_isDigit (number % 10) (Nat.mod_lt _ (by decide))
      have hread := ih hhigh
      unfold readDigits at hread ⊢
      rw [digits, List.foldl_append, hread]
      simp only [List.foldl_cons, List.foldl_nil, Option.bind_some, hdigit.1, hdigit.2, if_true]
      congr 1
      omega

/-- A number in a field of fixed width, and what follows it. -/
def readField (width : Nat) (chars : List Char) : Option (Nat × List Char) :=
  (readDigits (chars.take width)).map fun number => (number, chars.drop width)

theorem readField_digits {width number : Nat} (hfits : number < 10 ^ width)
    (rest : List Char) : readField width (digits width number ++ rest) = some (number, rest) := by
  have hlength := length_digits width number
  unfold readField
  rw [List.take_left' hlength, List.drop_left' hlength, readDigits_digits hfits]
  rfl

/-- The rest of a text that starts with a separator. -/
def skip (separator : Char) : List Char → Option (List Char)
  | [] => none
  | char :: rest => if char = separator then some rest else none

@[simp]
theorem skip_cons (separator : Char) (rest : List Char) :
    skip separator (separator :: rest) = some rest := by
  simp [skip]

/-- The offset from UTC as `isoformat` writes it. -/
def offsetChars (offsetMicros : Int) : List Char :=
  let magnitude := offsetMicros.natAbs
  let seconds := magnitude / 1000000
  (if offsetMicros < 0 then '-' else '+') :: digits 2 (seconds / 3600) ++
    ':' :: digits 2 (seconds / 60 % 60) ++
    (if magnitude % 60000000 = 0 then [] else ':' :: digits 2 (seconds % 60)) ++
    (if magnitude % 1000000 = 0 then [] else '.' :: digits 6 (magnitude % 1000000))

/-- A date as `isoformat` writes it. -/
def dateChars (date : Calendar.Date) : List Char :=
  digits 4 date.year ++ '-' :: (digits 2 date.month ++ '-' :: digits 2 date.day)

/-- A time of day as `isoformat(timespec="microseconds")` writes it. -/
def clockChars (time : Nat) : List Char :=
  digits 2 (time / 3600000000) ++ ':' :: (digits 2 (time / 60000000 % 60) ++
    ':' :: (digits 2 (time / 1000000 % 60) ++ '.' :: digits 6 (time % 1000000)))

/-- The local reading as `isoformat(timespec="microseconds")` writes it. -/
def readingChars (micros : Nat) : List Char :=
  dateChars (Calendar.dateOfDays (micros / 86400000000)) ++
    'T' :: clockChars (micros % 86400000000)

/-- `isoformat(timespec="microseconds")`. -/
def DateTime.isoformat (at_ : DateTime) : String :=
  String.ofList (readingChars at_.localMicros.toNat ++ offsetChars at_.offsetMicros)

/-- The days before a date with the layout of `isoformat`, and what follows it. -/
def readDate (chars : List Char) : Option (Nat × List Char) := do
  let (year, chars) ← readField 4 chars
  let chars ← skip '-' chars
  let (month, chars) ← readField 2 chars
  let chars ← skip '-' chars
  let (day, chars) ← readField 2 chars
  some (Calendar.Date.days ⟨year, month, day⟩, chars)

/-- The microseconds of a time of day with the layout of `isoformat`, and what
follows it. -/
def readClock (chars : List Char) : Option (Nat × List Char) := do
  let (hour, chars) ← readField 2 chars
  let chars ← skip ':' chars
  let (minute, chars) ← readField 2 chars
  let chars ← skip ':' chars
  let (second, chars) ← readField 2 chars
  let chars ← skip '.' chars
  let (micro, chars) ← readField 6 chars
  some (hour * 3600000000 + minute * 60000000 + second * 1000000 + micro, chars)

/-- The microseconds of a reading with the layout of `readingChars`, and what
follows it. -/
def readReading (chars : List Char) : Option (Nat × List Char) := do
  let (days, chars) ← readDate chars
  let chars ← skip 'T' chars
  let (time, chars) ← readClock chars
  some (days * 86400000000 + time, chars)

theorem readDate_dateChars {date : Calendar.Date} (hyear : date.year < 10000)
    (hmonth : date.month < 100) (hday : date.day < 100) (rest : List Char) :
    readDate (dateChars date ++ rest) = some (date.days, rest) := by
  unfold readDate dateChars
  simp only [List.append_assoc, List.cons_append]
  rw [readField_digits (by simpa using hyear)]
  simp only [Option.bind_eq_bind, Option.bind_some, skip_cons]
  rw [readField_digits (by simpa using hmonth)]
  simp only [Option.bind_some, skip_cons]
  rw [readField_digits (by simpa using hday)]
  rfl

theorem readClock_clockChars {time : Nat} (htime : time < 86400000000) (rest : List Char) :
    readClock (clockChars time ++ rest) = some (time, rest) := by
  unfold readClock clockChars
  simp only [List.append_assoc, List.cons_append]
  rw [readField_digits (by omega)]
  simp only [Option.bind_eq_bind, Option.bind_some, skip_cons]
  rw [readField_digits (by omega)]
  simp only [Option.bind_some, skip_cons]
  rw [readField_digits (by omega)]
  simp only [Option.bind_some, skip_cons]
  rw [readField_digits (by omega)]
  simp only [Option.bind_some]
  congr 2
  omega

/-- A reading is read back. -/
theorem readReading_readingChars {micros : Nat} (hrange : micros < 3652059 * 86400000000)
    (rest : List Char) : readReading (readingChars micros ++ rest) = some (micros, rest) := by
  have hday : micros / 86400000000 < 3652059 := by omega
  have hbounds := Calendar.dateOfDays_bounds hday
  have hdays := Calendar.days_dateOfDays (micros / 86400000000)
  unfold readReading readingChars
  simp only [List.append_assoc, List.cons_append]
  rw [readDate_dateChars hbounds.1 hbounds.2.1 hbounds.2.2]
  simp only [Option.bind_eq_bind, Option.bind_some, skip_cons]
  rw [readClock_clockChars (Nat.mod_lt _ (by decide)), hdays]
  simp only [Option.bind_some]
  congr 2
  omega

/-- What `fromisoformat` returns. -/
inductive Moment where
  | aware (at_ : DateTime)
  | naive
deriving DecidableEq

/-- The UTC datetime whose `isoformat` a text is. -/
def readUtc (text : String) : Option DateTime :=
  match readReading text.toList with
  | none => none
  | some (micros, _) =>
      if h : (micros : Int) ≤ maxMicros then
        let at_ : DateTime := ⟨micros, 0, ⟨by omega, h⟩, DateTime.offsetRange_zero⟩
        if at_.isoformat = text then some at_ else none
      else none

/-- `astimezone(UTC)`; `none` stands for the `OverflowError`. -/
def DateTime.toUtc? (at_ : DateTime) : Option DateTime :=
  if h : at_.instant.InUtc then
    some ⟨at_.instant.micros, 0, h, DateTime.offsetRange_zero⟩
  else none

/-- `isoformat` of a UTC datetime is read back. -/
theorem readUtc_isoformat {at_ : DateTime} (hutc : at_.offsetMicros = 0) :
    readUtc at_.isoformat = some at_ := by
  obtain ⟨micros, offset, hlocal, hoffset⟩ := at_
  change offset = 0 at hutc
  subst hutc
  obtain ⟨number, rfl⟩ := Int.eq_ofNat_of_zero_le hlocal.1
  have hread : readReading (DateTime.isoformat ⟨number, 0, hlocal, hoffset⟩).toList =
      some (number, offsetChars 0) := by
    have hbound : number < 3652059 * 86400000000 := by
      have hmax := hlocal.2
      unfold maxMicros dayMicros at hmax
      omega
    simpa [DateTime.isoformat] using readReading_readingChars hbound (offsetChars 0)
  unfold readUtc
  rw [hread]
  simp [hlocal.2]

/-- `fromisoformat`: the canonical texts are read here, all others by the
parameter. -/
def fromisoformat (otherForms : String → Option Moment) (text : String) : Option Moment :=
  match readUtc text with
  | some at_ => some (.aware at_)
  | none => otherForms text

theorem fromisoformat_isoformat (otherForms : String → Option Moment) {at_ : DateTime}
    (hutc : at_.offsetMicros = 0) :
    fromisoformat otherForms at_.isoformat = some (.aware at_) := by
  rw [fromisoformat, readUtc_isoformat hutc]

example : (DateTime.isoformat ⟨63902606461000042, 0, by decide, by decide⟩) =
    "2025-12-29T12:01:01.000042+00:00" := by decide +kernel

end PyWorkflowKit.Domain
