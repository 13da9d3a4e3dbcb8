import Matcher.Foundation.Digits
import Mathlib.Data.List.TakeWhile

/-!
# Dates and timestamps

Dates of the Gregorian calendar, counted from March so that the leap day is the
last day of its year.  A date gives back the day that it was computed from, and so
the text of an instant, as `time.RFC3339Nano` lays it out in UTC, determines the
instant.
-/

namespace Matcher.Foundation

variable {nanoseconds : ℕ}

@[ext] structure Date where
  year : ℤ
  month : ℕ
  day : ℕ
deriving DecidableEq, Repr

namespace Date

def epoch : ℤ := 719468

def daysPerEra : ℤ := 146097

/-- The year of an era, and the day of that year: a century has one day less than
twenty-five times four years, but for the last one. -/
def yearOfEra (dayOfEra : ℕ) : ℕ × ℕ :=
  let century := min (dayOfEra / 36524) 3
  let dayOfCentury := dayOfEra - 36524 * century
  let year := min (dayOfCentury % 1461 / 365) 3
  (100 * century + 4 * (dayOfCentury / 1461) + year, dayOfCentury % 1461 - 365 * year)

/-- Months from March on, of 153 days for every five. -/
def monthOfYear (dayOfYear : ℕ) : ℕ := (5 * dayOfYear + 2) / 153

def ofDays (days : ℤ) : Date :=
  let era := (days + epoch) / daysPerEra
  let (year, dayOfYear) := yearOfEra ((days + epoch) % daysPerEra).toNat
  let month := monthOfYear dayOfYear
  { year := 400 * era + year + if month < 10 then 0 else 1
    month := if month < 10 then month + 3 else month - 9
    day := dayOfYear - (153 * month + 2) / 5 + 1 }

variable (date : Date)

def marchYear : ℤ :=
  if date.month ≤ 2 then date.year - 1 else date.year

def marchMonth : ℕ := (date.month + 9) % 12

def toDays : ℤ :=
  let year := date.marchYear % 400
  daysPerEra * (date.marchYear / 400) + (365 * year + year / 4 - year / 100) +
    ((153 * date.marchMonth + 2) / 5 + date.day - 1) - epoch

example : ofDays 0 = ⟨1970, 1, 1⟩ ∧ ofDays 11016 = ⟨2000, 2, 29⟩ ∧
    ofDays (-719529) = ⟨-1, 12, 31⟩ := by decide +kernel

theorem yearOfEra_spec {dayOfEra : ℕ} (h : dayOfEra < 146097) :
    (yearOfEra dayOfEra).1 < 400 ∧ (yearOfEra dayOfEra).2 < 366 ∧
      365 * (yearOfEra dayOfEra).1 + (yearOfEra dayOfEra).1 / 4 -
        (yearOfEra dayOfEra).1 / 100 + (yearOfEra dayOfEra).2 = dayOfEra := by
  simp only [yearOfEra]
  -- From here on: centuries, then four years, then years, each with its rest.
  obtain ⟨century, hcentury⟩ : ∃ century, min (dayOfEra / 36524) 3 = century := ⟨_, rfl⟩
  obtain ⟨dayOfCentury, hdayOfCentury⟩ :
      ∃ dayOfCentury, dayOfEra - 36524 * century = dayOfCentury := ⟨_, rfl⟩
  rw [hcentury, hdayOfCentury]
  have hcenturies : century ≤ 3 ∧ dayOfCentury ≤ 36524 ∧
      36524 * century + dayOfCentury = dayOfEra := by omega
  obtain ⟨year, hyear⟩ : ∃ year, min (dayOfCentury % 1461 / 365) 3 = year := ⟨_, rfl⟩
  rw [hyear]
  have hyears : year ≤ 3 ∧ 365 * year ≤ dayOfCentury % 1461 ∧
      dayOfCentury % 1461 - 365 * year < 366 := by omega
  have hfours : dayOfCentury / 1461 ≤ 24 := by omega
  have hdays : 1461 * (dayOfCentury / 1461) + dayOfCentury % 1461 =
      dayOfCentury := Nat.div_add_mod dayOfCentury 1461
  obtain ⟨fours, hfour⟩ : ∃ fours, dayOfCentury / 1461 = fours := ⟨_, rfl⟩
  rw [hfour] at hfours hdays ⊢
  have hquarter : (100 * century + 4 * fours + year) / 4 = 25 * century + fours := by omega
  have hhundredth : (100 * century + 4 * fours + year) / 100 = century := by omega
  rw [hquarter, hhundredth]
  omega

theorem month_spec {dayOfYear : ℕ} (h : dayOfYear < 366) :
    monthOfYear dayOfYear < 12 ∧ (153 * monthOfYear dayOfYear + 2) / 5 ≤ dayOfYear := by
  simp only [monthOfYear]
  omega

theorem toDays_ofDays (days : ℤ) : (ofDays days).toDays = days := by
  have hdayOfEra : ((days + epoch) % daysPerEra).toNat < 146097 := by
    simp only [daysPerEra]
    omega
  obtain ⟨hyear, hdayOfYear, hsum⟩ := yearOfEra_spec hdayOfEra
  obtain ⟨hmonth, hfirst⟩ := month_spec hdayOfYear
  have hmarchYear : (ofDays days).marchYear = 400 * ((days + epoch) / daysPerEra) +
      (yearOfEra ((days + epoch) % daysPerEra).toNat).1 := by
    simp only [marchYear, ofDays]
    split <;> split <;> omega
  have hmarchMonth : (ofDays days).marchMonth =
      monthOfYear (yearOfEra ((days + epoch) % daysPerEra).toNat).2 := by
    simp only [marchMonth, ofDays]
    split <;> omega
  have hera : (ofDays days).marchYear / 400 = (days + epoch) / daysPerEra := by omega
  have hyearOfEra : (ofDays days).marchYear % 400 =
      (yearOfEra ((days + epoch) % daysPerEra).toNat).1 := by omega
  have hday : (ofDays days).day = (yearOfEra ((days + epoch) % daysPerEra).toNat).2 -
      (153 * (ofDays days).marchMonth + 2) / 5 + 1 := by
    rw [hmarchMonth]
    rfl
  simp only [toDays, hera, hyearOfEra, hday, hmarchMonth]
  have hdays : daysPerEra * ((days + epoch) / daysPerEra) +
      (days + epoch) % daysPerEra = days + epoch := Int.mul_ediv_add_emod _ _
  have hnonneg : 0 ≤ (days + epoch) % daysPerEra := Int.emod_nonneg _ (by decide)
  omega

theorem ofDays_injective : Function.Injective ofDays := by
  intro days other h
  rw [← toDays_ofDays days, h, toDays_ofDays]

/-- The same day of a later year; a leap day may become the day after. -/
def addYears (years : ℤ) : Date :=
  { date with year := date.year + years }

def leapDays (year : ℤ) : ℤ := year / 4 - year / 100 + year / 400

def leapDaysWithin (years : ℤ) : ℤ :=
  leapDays (date.marchYear + years) - leapDays date.marchYear

theorem toDays_addYears (years : ℤ) :
    (date.addYears years).toDays = date.toDays + 365 * years + date.leapDaysWithin years := by
  have hyear : (date.addYears years).marchYear = date.marchYear + years := by
    simp only [marchYear, addYears]
    split <;> omega
  have hmonth : (date.addYears years).marchMonth = date.marchMonth := rfl
  have hday : (date.addYears years).day = date.day := rfl
  simp only [toDays, hyear, hmonth, hday, leapDaysWithin, leapDays, daysPerEra]
  omega

theorem leapDaysWithin_seven : 0 ≤ date.leapDaysWithin 7 ∧ date.leapDaysWithin 7 ≤ 2 := by
  simp only [leapDaysWithin, leapDays]
  omega

end Date

/-! ## Fractions of a second -/

/-- The digits behind the point, from the last one on, without zeros at the end. -/
def fractionDigits (nanoseconds : ℕ) : List ℕ :=
  (paddedDigits 9 nanoseconds).dropWhile (· = 0)

def fraction (nanoseconds : ℕ) : Bytes :=
  if nanoseconds = 0 then []
  else 46 :: ((fractionDigits nanoseconds).map digitByte).reverse

theorem length_paddedDigits {width value : ℕ} (h : value < 10 ^ width) :
    (paddedDigits width value).length = width := by
  have hlength : (Nat.digits 10 value).length ≤ width :=
    (Nat.digits_length_le_iff (by decide) value).mpr h
  simp only [paddedDigits, List.length_append, List.length_replicate]
  omega

theorem ofDigits_fractionDigits (h : nanoseconds < 10 ^ 9) :
    10 ^ (9 - (fractionDigits nanoseconds).length) *
      Nat.ofDigits 10 (fractionDigits nanoseconds) = nanoseconds := by
  have hsplit := List.takeWhile_append_dropWhile (p := (· = 0)) (l := paddedDigits 9 nanoseconds)
  have hzeros : (paddedDigits 9 nanoseconds).takeWhile (· = 0) =
      List.replicate (9 - (fractionDigits nanoseconds).length) 0 := by
    rw [List.eq_replicate_iff]
    constructor
    · have hlength := congrArg List.length hsplit
      rw [List.length_append, length_paddedDigits h] at hlength
      unfold fractionDigits
      omega
    · intro digit hdigit
      simpa using List.mem_takeWhile_imp hdigit
  calc 10 ^ (9 - (fractionDigits nanoseconds).length) * Nat.ofDigits 10 (fractionDigits nanoseconds)
      = Nat.ofDigits 10 (paddedDigits 9 nanoseconds) := by
        rw [← hsplit, hzeros, Nat.ofDigits_append, Nat.ofDigits_replicate_zero,
          List.length_replicate, Nat.zero_add]
        rfl
    _ = nanoseconds := ofDigits_paddedDigits 9 nanoseconds

theorem lt_of_mem_fractionDigits {digit : ℕ} (h : digit ∈ fractionDigits nanoseconds) :
    digit < 10 :=
  lt_of_mem_paddedDigits ((List.dropWhile_sublist _).subset h)

theorem fraction_inj {other : ℕ} (h : nanoseconds < 10 ^ 9) (hother : other < 10 ^ 9)
    (heq : fraction nanoseconds = fraction other) : nanoseconds = other := by
  unfold fraction at heq
  split at heq
  next hzero =>
    split at heq
    next hzero' => rw [hzero, hzero']
    next => cases heq
  next =>
    split at heq
    next => cases heq
    next =>
      have hdigits : fractionDigits nanoseconds = fractionDigits other :=
        map_digitByte_inj (fun _ => lt_of_mem_fractionDigits) (fun _ => lt_of_mem_fractionDigits)
          (List.reverse_inj.mp (List.cons.inj heq).2)
      rw [← ofDigits_fractionDigits h, hdigits, ofDigits_fractionDigits hother]

theorem noDigit_fraction (nanoseconds : ℕ) (rest : Bytes) :
    NoDigit (fraction nanoseconds ++ 90 :: rest) := by
  unfold fraction
  split <;> exact noDigit_cons (by decide) _

/-! ## Timestamps -/

def nanosecondsPerSecond : ℤ := 1000000000

def nanosecondsPerDay : ℤ := 86400 * nanosecondsPerSecond

def secondOfDay (instant : ℤ) : ℕ :=
  (instant % nanosecondsPerDay / nanosecondsPerSecond).toNat

def nanosecond (instant : ℤ) : ℕ := (instant % nanosecondsPerSecond).toNat

/-- `Format(time.RFC3339Nano)` of an instant in UTC, given in nanoseconds. -/
def rfc3339Nano (instant : ℤ) : Bytes :=
  let date := Date.ofDays (instant / nanosecondsPerDay)
  let second := secondOfDay instant
  signedDecimal 4 date.year ++ 45 :: (decimal 2 date.month ++
    45 :: (decimal 2 date.day ++ 84 :: (decimal 2 (second / 3600) ++
    58 :: (decimal 2 (second / 60 % 60) ++ 58 :: (decimal 2 (second % 60) ++
    (fraction (nanosecond instant) ++ [90]))))))

example : rfc3339Nano 951827696120000000 =
    "2000-02-29T12:34:56.12Z".toList.map (UInt8.ofNat ·.toNat) := by
  decide +kernel

theorem lt_of_mem_fraction {byte : UInt8} (h : byte ∈ fraction nanoseconds) :
    byte.toNat < 128 := by
  unfold fraction at h
  split at h
  · cases h
  · rcases List.mem_cons.mp h with rfl | hmem
    · decide
    · obtain ⟨digit, hdigit, rfl⟩ := List.mem_map.mp (List.mem_reverse.mp hmem)
      exact (isDigit_digitByte (lt_of_mem_fractionDigits hdigit)).bounds.2

theorem lt_of_mem_rfc3339Nano {instant : ℤ} {byte : UInt8} (h : byte ∈ rfc3339Nano instant) :
    byte.toNat < 128 := by
  have hdecimal : ∀ {width value}, byte ∈ decimal width value →
      byte.toNat < 128 := fun hdigit => (isDigit_of_mem_decimal hdigit).bounds.2
  simp only [rfc3339Nano, List.mem_append, List.mem_cons, List.not_mem_nil, or_false] at h
  rcases h with hyear | rfl | hmonth | rfl | hday | rfl | hhour | rfl | hminute |
    rfl | hsecond | hfraction | rfl
  · rcases mem_signedDecimal hyear with hdigit | rfl
    · exact hdigit.bounds.2
    · decide
  · decide
  · exact hdecimal hmonth
  · decide
  · exact hdecimal hday
  · decide
  · exact hdecimal hhour
  · decide
  · exact hdecimal hminute
  · decide
  · exact hdecimal hsecond
  · exact lt_of_mem_fraction hfraction
  · decide

theorem instant_eq_of_parts {instant other : ℤ}
    (hday : instant / nanosecondsPerDay = other / nanosecondsPerDay)
    (hhour : secondOfDay instant / 3600 = secondOfDay other / 3600)
    (hminute : secondOfDay instant / 60 % 60 = secondOfDay other / 60 % 60)
    (hsecond : secondOfDay instant % 60 = secondOfDay other % 60)
    (hnanosecond : nanosecond instant = nanosecond other) : instant = other := by
  have hseconds : secondOfDay instant = secondOfDay other := by omega
  simp only [secondOfDay, nanosecond, nanosecondsPerDay, nanosecondsPerSecond] at *
  omega

theorem rfc3339Nano_injective : Function.Injective rfc3339Nano := by
  intro instant other h
  simp only [rfc3339Nano] at h
  obtain ⟨hyear, h⟩ := signedDecimal_delimited (by decide)
    (noDigit_cons (by decide) _) (noDigit_cons (by decide) _) h
  obtain ⟨hmonth, h⟩ := decimal_delimited 2 (noDigit_cons (by decide) _)
    (noDigit_cons (by decide) _) (List.cons.inj h).2
  obtain ⟨hday, h⟩ := decimal_delimited 2 (noDigit_cons (by decide) _)
    (noDigit_cons (by decide) _) (List.cons.inj h).2
  obtain ⟨hhour, h⟩ := decimal_delimited 2 (noDigit_cons (by decide) _)
    (noDigit_cons (by decide) _) (List.cons.inj h).2
  obtain ⟨hminute, h⟩ := decimal_delimited 2 (noDigit_cons (by decide) _)
    (noDigit_cons (by decide) _) (List.cons.inj h).2
  obtain ⟨hsecond, h⟩ := decimal_delimited 2 (noDigit_fraction _ _)
    (noDigit_fraction _ _) (List.cons.inj h).2
  have hdate := Date.ofDays_injective (Date.ext hyear hmonth hday)
  have hnanosecond : nanosecond instant = nanosecond other := by
    apply fraction_inj _ _ (List.append_cancel_right h)
    all_goals
      simp only [nanosecond, nanosecondsPerSecond]
      omega
  exact instant_eq_of_parts hdate hhour hminute hsecond hnanosecond

end Matcher.Foundation
