import PyWorkflowKit.Domain.IsoFormat

/-!
# Datetimes with any offset as text

`isoformat()`, which leaves out a fraction of zero, and `fromisoformat` on the texts it writes.
-/

namespace PyWorkflowKit.Domain

open PyWorkflowKit.Core

/-- A field that is left out when it is zero. -/
def optionalField (separator : Char) (width number : Nat) : List Char :=
  if number = 0 then [] else separator :: digits width number

/-- A time of day as `isoformat()` writes it. -/
def clockText (time : Nat) : List Char :=
  digits 2 (time / 3600000000) ++ ':' :: (digits 2 (time / 60000000 % 60) ++
    ':' :: (digits 2 (time / 1000000 % 60) ++ optionalField '.' 6 (time % 1000000)))

/-- `isoformat()`. -/
def DateTime.isoText (at_ : DateTime) : String :=
  let micros := at_.localMicros.toNat
  .ofList (dateChars (Calendar.dateOfDays (micros / 86400000000)) ++
    'T' :: (clockText (micros % 86400000000) ++ offsetChars at_.offsetMicros))

/-- A field that may be left out. -/
def readOptional (separator : Char) (width : Nat) : List Char → Option (Nat × List Char)
  | [] => some (0, [])
  | char :: rest => if char = separator then readField width rest else some (0, char :: rest)

/-- A time of day with the layout of `isoformat()`, and what follows it. -/
def readClockText (chars : List Char) : Option (Nat × List Char) := do
  let (hour, chars) ← readField 2 chars
  let chars ← skip ':' chars
  let (minute, chars) ← readField 2 chars
  let chars ← skip ':' chars
  let (second, chars) ← readField 2 chars
  let (micro, chars) ← readOptional '.' 6 chars
  some (hour * 3600000000 + minute * 60000000 + second * 1000000 + micro, chars)

/-- The magnitude of an offset, and what follows it. -/
def readMagnitude (chars : List Char) : Option (Nat × List Char) := do
  let (hour, chars) ← readField 2 chars
  let chars ← skip ':' chars
  let (minute, chars) ← readField 2 chars
  let (second, chars) ← readOptional ':' 2 chars
  let (micro, chars) ← readOptional '.' 6 chars
  some (hour * 3600000000 + minute * 60000000 + second * 1000000 + micro, chars)

/-- An offset and nothing more. -/
def readOffset : List Char → Option Int
  | '+' :: chars =>
      match readMagnitude chars with
      | some (magnitude, []) => some magnitude
      | _ => none
  | '-' :: chars =>
      match readMagnitude chars with
      | some (magnitude, []) => some (-magnitude)
      | _ => none
  | _ => none

/-- The aware datetime that a text of `isoformat()` denotes. -/
def readIso (text : String) : Option DateTime := do
  let (days, chars) ← readDate text.toList
  let chars ← skip 'T' chars
  let (time, chars) ← readClockText chars
  let offset ← readOffset chars
  let micros : Int := days * 86400000000 + time
  if h : (0 ≤ micros ∧ micros ≤ maxMicros) ∧ -dayMicros < offset ∧ offset < dayMicros then
    some ⟨micros, offset, h.1, h.2⟩
  else none

theorem readOptional_optionalField {separator : Char} {width number : Nat}
    (hfits : number < 10 ^ width) {rest : List Char}
    (hrest : ∀ char ∈ rest.head?, char ≠ separator) :
    readOptional separator width (optionalField separator width number ++ rest) =
      some (number, rest) := by
  by_cases hzero : number = 0
  · subst hzero
    cases rest with
    | nil => rfl
    | cons char others =>
        have hchar : char ≠ separator := hrest char rfl
        simp [optionalField, readOptional, hchar]
  · rw [optionalField, if_neg hzero, List.cons_append, readOptional, if_pos rfl,
      readField_digits hfits]

theorem readClockText_clockText {time : Nat} (htime : time < 86400000000) {rest : List Char}
    (hrest : ∀ char ∈ rest.head?, char ≠ '.') :
    readClockText (clockText time ++ rest) = some (time, rest) := by
  rw [readClockText, clockText]
  simp only [List.append_assoc, List.cons_append]
  rw [readField_digits (by omega)]
  simp only [Option.bind_eq_bind, Option.bind_some, skip_cons]
  rw [readField_digits (by omega)]
  simp only [Option.bind_some, skip_cons]
  rw [readField_digits (by omega)]
  simp only [Option.bind_some]
  rw [readOptional_optionalField (by omega) hrest]
  simp only [Option.bind_some]
  congr 2
  omega

theorem readMagnitude_offset {magnitude : Nat} (hmagnitude : magnitude < 86400000000) :
    readMagnitude (digits 2 (magnitude / 1000000 / 3600) ++
      ':' :: digits 2 (magnitude / 1000000 / 60 % 60) ++
      (if magnitude % 60000000 = 0 then [] else ':' :: digits 2 (magnitude / 1000000 % 60)) ++
      (if magnitude % 1000000 = 0 then [] else '.' :: digits 6 (magnitude % 1000000))) =
      some (magnitude, []) := by
  have hmicro : (if magnitude % 1000000 = 0 then [] else '.' :: digits 6 (magnitude % 1000000)) =
      optionalField '.' 6 (magnitude % 1000000) := rfl
  have hread : readOptional '.' 6 (optionalField '.' 6 (magnitude % 1000000)) =
      some (magnitude % 1000000, []) := by
    have hfits : magnitude % 1000000 < 10 ^ 6 := by omega
    have hall := @readOptional_optionalField '.' 6 _ hfits [] (by simp)
    simpa using hall
  rw [readMagnitude, hmicro]
  simp only [List.append_assoc, List.cons_append]
  rw [readField_digits (by omega)]
  simp only [Option.bind_eq_bind, Option.bind_some, skip_cons]
  rw [readField_digits (by omega)]
  simp only [Option.bind_some]
  by_cases hwhole : magnitude % 60000000 = 0
  · have hzero : magnitude % 1000000 = 0 := by omega
    rw [if_pos hwhole, List.nil_append, hzero]
    simp only [optionalField, if_true, readOptional, Option.bind_some]
    congr 2
    omega
  · rw [if_neg hwhole, List.cons_append, readOptional, if_pos rfl, readField_digits (by omega)]
    simp only [Option.bind_some, hread]
    congr 2
    omega

theorem readOffset_offsetChars {offset : Int} (hoffset : -dayMicros < offset ∧ offset < dayMicros) :
    readOffset (offsetChars offset) = some offset := by
  have hmagnitude : offset.natAbs < 86400000000 := by
    rw [dayMicros] at hoffset
    omega
  have hread := readMagnitude_offset hmagnitude
  rw [offsetChars]
  by_cases hnegative : offset < 0
  · simp only [if_pos hnegative, List.cons_append]
    have habs : (offset.natAbs : Int) = -offset := Int.ofNat_natAbs_of_nonpos hnegative.le
    rw [readOffset, hread]
    simp only [habs, Int.neg_neg]
  · simp only [if_neg hnegative, List.cons_append]
    have habs : (offset.natAbs : Int) = offset := Int.natAbs_of_nonneg (not_lt.mp hnegative)
    rw [readOffset, hread]
    simp only [habs]

/-- `isoformat()` of any aware datetime is read back. -/
theorem readIso_isoText (at_ : DateTime) : readIso at_.isoText = some at_ := by
  obtain ⟨micros, offset, hlocal, hoffset⟩ := at_
  obtain ⟨number, rfl⟩ := Int.eq_ofNat_of_zero_le hlocal.1
  have hbound : number < 3652059 * 86400000000 := by
    have hmax := hlocal.2
    rw [maxMicros, dayMicros] at hmax
    omega
  have hday : number / 86400000000 < 3652059 := by omega
  have hbounds := Calendar.dateOfDays_bounds hday
  have hdays := Calendar.days_dateOfDays (number / 86400000000)
  have hhead : ∀ char ∈ (offsetChars offset).head?, char ≠ '.' := by
    intro char hchar
    rw [offsetChars] at hchar
    by_cases hnegative : offset < 0
    · simp only [if_pos hnegative, List.cons_append, List.head?_cons, Option.mem_some_iff] at hchar
      subst hchar
      decide
    · simp only [if_neg hnegative, List.cons_append, List.head?_cons, Option.mem_some_iff] at hchar
      subst hchar
      decide
  have hmicros : ((number / 86400000000 : Nat) : Int) * 86400000000 +
      (number % 86400000000 : Nat) = number := by
    omega
  rw [readIso, DateTime.isoText]
  simp only [String.toList_ofList, Int.toNat_natCast]
  rw [readDate_dateChars hbounds.1 hbounds.2.1 hbounds.2.2]
  simp only [Option.bind_eq_bind, Option.bind_some, skip_cons]
  rw [readClockText_clockText (Nat.mod_lt _ (by decide)) hhead]
  simp only [Option.bind_some, readOffset_offsetChars hoffset, hdays, hmicros]
  exact dif_pos ⟨hlocal, hoffset⟩

end PyWorkflowKit.Domain
