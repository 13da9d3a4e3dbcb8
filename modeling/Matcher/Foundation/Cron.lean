import Mathlib.Data.Int.LeastGreatest
import Mathlib.Order.Bounds.Basic
import Matcher.Foundation.GoError

/-!
# Recurring times

A recurrence names minutes of the hour, hours of the day and days, and matches the
minutes that have all three.  A schedule computes the first match after an instant.
Two matches are closer than a gap exactly when two of the minutes are, within one
hour or across the end of an hour that is followed by another one of the recurrence.
Minutes, hours and days are counted from the epoch, and instants are nanoseconds.
-/

namespace Matcher.Foundation

variable {instant : ℤ}

structure Recurrence where
  minutes : List ℤ
  hours : List ℤ
  day : ℤ → Bool
  minutes_range : ∀ minute ∈ minutes, 0 ≤ minute ∧ minute < 60

namespace Recurrence

variable (recurrence : Recurrence) {time start : ℤ} {fuel : ℕ}

def MatchesHour (hour : ℤ) : Prop :=
  hour % 24 ∈ recurrence.hours ∧ recurrence.day (hour / 24) = true

instance (hour : ℤ) : Decidable (recurrence.MatchesHour hour) :=
  inferInstanceAs (Decidable (_ ∧ _))

def Matches (time : ℤ) : Prop :=
  time % 60 ∈ recurrence.minutes ∧ recurrence.MatchesHour (time / 60)

instance (time : ℤ) : Decidable (recurrence.Matches time) :=
  inferInstanceAs (Decidable (_ ∧ _))

/-! ## Gaps between matches -/

/-- The minutes are far enough apart within an hour, and across its end if the next
hour can follow. -/
def Spaced (gap : ℤ) : Prop :=
  (∀ first ∈ recurrence.minutes, ∀ second ∈ recurrence.minutes,
    first < second → gap ≤ second - first) ∧
  ((∀ first ∈ recurrence.minutes, ∀ second ∈ recurrence.minutes, gap ≤ 60 + second - first) ∨
    ∀ hour, recurrence.MatchesHour hour → ¬ recurrence.MatchesHour (hour + 1))

variable {recurrence}

theorem matches_of_minute {hour minute : ℤ} (hminute : minute ∈ recurrence.minutes)
    (hhour : recurrence.MatchesHour hour) : recurrence.Matches (60 * hour + minute) := by
  have hrange := recurrence.minutes_range minute hminute
  have hmod : (60 * hour + minute) % 60 = minute := by omega
  have hdiv : (60 * hour + minute) / 60 = hour := by omega
  rw [Matches, hmod, hdiv]
  exact ⟨hminute, hhour⟩

theorem Spaced.gap_le {gap : ℤ} (h : recurrence.Spaced gap) (hgap : gap ≤ 60) {later : ℤ}
    (htime : recurrence.Matches time) (hlater : recurrence.Matches later) (hlt : time < later) :
    gap ≤ later - time := by
  obtain ⟨hwithin, hacross⟩ := h
  by_contra hclose
  have hcases : later / 60 = time / 60 ∨ later / 60 = time / 60 + 1 := by omega
  rcases hcases with hsame | hnext
  · have hminutes := hwithin _ htime.1 _ hlater.1 (by omega)
    omega
  · rcases hacross with hacross | hisolated
    · have hminutes := hacross _ htime.1 _ hlater.1
      omega
    · exact hisolated _ htime.2 (hnext ▸ hlater.2)

theorem spaced_of_gap_le {gap : ℤ} (hfires : ∃ hour, recurrence.MatchesHour hour)
    (h : ∀ time later, recurrence.Matches time → recurrence.Matches later →
      time < later → gap ≤ later - time) : recurrence.Spaced gap := by
  constructor
  · intro first hfirst second hsecond hlt
    obtain ⟨hour, hhour⟩ := hfires
    have hgap := h _ _ (matches_of_minute hfirst hhour) (matches_of_minute hsecond hhour) (by omega)
    omega
  · by_contra hclose
    simp only [not_or, not_forall, not_le, not_not] at hclose
    obtain ⟨⟨first, hfirst, second, hsecond, hlt⟩, hour, hhour, hnext⟩ := hclose
    have hrange := recurrence.minutes_range first hfirst
    have hrange' := recurrence.minutes_range second hsecond
    have hgap := h _ _ (matches_of_minute hfirst hhour) (matches_of_minute hsecond hnext) (by omega)
    omega

/-! ## The first match -/

variable (recurrence)

def firstMatch : ℕ → ℤ → Option ℤ
  | 0, _ => none
  | fuel + 1, start =>
    if recurrence.Matches start then some start
    else firstMatch fuel (start + 1)

variable {recurrence}

theorem firstMatch_isLeast (h : recurrence.firstMatch fuel start = some time) :
    IsLeast { time | recurrence.Matches time ∧ start ≤ time } time := by
  induction fuel generalizing start with
  | zero => cases h
  | succ _ ih =>
    rw [firstMatch] at h
    split at h
    next hmatches =>
      cases h
      exact ⟨⟨hmatches, le_rfl⟩, fun other hother => hother.2⟩
    next hmatches =>
      obtain ⟨⟨htime, hle⟩, hleast⟩ := ih h
      refine ⟨⟨htime, by omega⟩, fun other hother => hleast ⟨hother.1, ?_⟩⟩
      have hne : other ≠ start := by
        rintro rfl
        exact hmatches hother.1
      have hother := hother.2
      omega

theorem firstMatch_isSome (hmatches : recurrence.Matches time) (hle : start ≤ time)
    (hlt : time < start + fuel) : (recurrence.firstMatch fuel start).isSome := by
  induction fuel generalizing start with
  | zero => omega
  | succ _ ih =>
    rw [firstMatch]
    split
    next => rfl
    next hstart =>
      have hne : time ≠ start := by
        rintro rfl
        exact hstart hmatches
      exact ih (by omega) (by omega)

end Recurrence

/-! ## Schedules -/

def nanosecondsPerMinute : ℤ := 60000000000

structure CronSchedule where
  recurrence : Recurrence
  next : ℤ → Except GoError ℤ
  next_eq_ok : ∀ start instant, next start = .ok instant ↔
    IsLeast { instant | start < instant ∧
      ∃ time, recurrence.Matches time ∧ instant = time * nanosecondsPerMinute }
      instant

namespace CronSchedule

def Fires (schedule : CronSchedule) (instant : ℤ) : Prop :=
  ∃ time, schedule.recurrence.Matches time ∧ instant = time * nanosecondsPerMinute

theorem lt_of_next {schedule : CronSchedule} {start : ℤ}
    (h : schedule.next start = .ok instant) : start < instant :=
  ((schedule.next_eq_ok start instant).mp h).1.1

theorem fires_of_next {schedule : CronSchedule} {start : ℤ}
    (h : schedule.next start = .ok instant) : schedule.Fires instant :=
  ((schedule.next_eq_ok start instant).mp h).1.2

theorem exists_next {schedule : CronSchedule} (start : ℤ) (hfires : schedule.Fires instant)
    (hlt : start < instant) :
    ∃ next, schedule.next start = .ok next ∧ next ≤ instant := by
  obtain ⟨next, hnext, hleast⟩ := Int.exists_least_of_bdd
    (P := fun instant => start < instant ∧ schedule.Fires instant)
    ⟨start, fun _ h => h.1.le⟩ ⟨instant, hlt, hfires⟩
  exact ⟨next, (schedule.next_eq_ok start next).mpr ⟨hnext, hleast⟩, hleast instant ⟨hlt, hfires⟩⟩

/-- Consecutive firings are at least the gap apart exactly when the recurrence is
spaced. -/
theorem consecutive_gap_iff {schedule : CronSchedule} {gap : ℤ} (hgap : gap ≤ 60)
    (hfires : ∃ instant, schedule.Fires instant) :
    (∀ first second, schedule.Fires first → schedule.next first = .ok second →
      gap * nanosecondsPerMinute ≤ second - first) ↔
      schedule.recurrence.Spaced gap := by
  constructor
  · intro h
    obtain ⟨_, time, hmatches, -⟩ := hfires
    refine Recurrence.spaced_of_gap_le ⟨_, hmatches.2⟩ ?_
    intro time later htime hlater hlt
    obtain ⟨second, hsecond, hle⟩ := exists_next (time * nanosecondsPerMinute)
      ⟨later, hlater, rfl⟩ (by unfold nanosecondsPerMinute; omega)
    have hgap := h _ second ⟨time, htime, rfl⟩ hsecond
    unfold nanosecondsPerMinute at hle hgap
    omega
  · rintro hspaced _ second ⟨time, htime, rfl⟩ hnext
    obtain ⟨later, hlater, rfl⟩ := fires_of_next hnext
    have hlt := lt_of_next hnext
    have hgap := hspaced.gap_le hgap htime hlater (by unfold nanosecondsPerMinute at hlt; omega)
    unfold nanosecondsPerMinute
    omega

end CronSchedule

/-- A recurrence that always matches again within the horizon. -/
def Recurrence.schedule (recurrence : Recurrence) (horizon : ℕ)
    (hhorizon : ∀ start, ∃ time, recurrence.Matches time ∧ start ≤ time ∧ time < start + horizon)
    (exhausted : GoError) : CronSchedule where
  recurrence := recurrence
  next start :=
    match recurrence.firstMatch horizon (start / nanosecondsPerMinute + 1) with
    | none => .error exhausted
    | some time => .ok (time * nanosecondsPerMinute)
  next_eq_ok := by
    intro start instant
    obtain ⟨found, hmatches, hle, hlt⟩ := hhorizon (start / nanosecondsPerMinute + 1)
    obtain ⟨time, htime⟩ := Option.isSome_iff_exists.mp (firstMatch_isSome hmatches hle hlt)
    obtain ⟨⟨htimeMatches, hstart⟩, hleast⟩ := firstMatch_isLeast htime
    have hfirst : IsLeast { instant | start < instant ∧
        ∃ time, recurrence.Matches time ∧ instant = time * nanosecondsPerMinute }
        (time * nanosecondsPerMinute) := by
      refine ⟨⟨?_, time, htimeMatches, rfl⟩, ?_⟩
      · unfold nanosecondsPerMinute at hstart ⊢
        omega
      · rintro _ ⟨hlater, other, hother, rfl⟩
        have hle := hleast ⟨hother, by
          unfold nanosecondsPerMinute at hlater ⊢
          omega⟩
        unfold nanosecondsPerMinute
        omega
    rw [htime]
    constructor
    · intro hok
      cases hok
      exact hfirst
    · intro hinstant
      exact congrArg Except.ok (hfirst.unique hinstant)

def Recurrence.hourly (minutes : List ℤ) (hrange : ∀ minute ∈ minutes, 0 ≤ minute ∧ minute < 60) :
    Recurrence where
  minutes := minutes
  hours := (List.range 24).map Int.ofNat
  day _ := true
  minutes_range := hrange

theorem Recurrence.hourly_horizon {minutes : List ℤ}
    {hrange : ∀ minute ∈ minutes, 0 ≤ minute ∧ minute < 60} (hne : minutes ≠ []) (start : ℤ) :
    ∃ time, (hourly minutes hrange).Matches time ∧ start ≤ time ∧ time < start + (60 : ℕ) := by
  obtain ⟨minute, hminute⟩ := List.exists_mem_of_ne_nil minutes hne
  have hminuteRange := hrange minute hminute
  have hmod : (start + (minute - start) % 60) % 60 = minute := by omega
  have hmem : (start + (minute - start) % 60) % 60 ∈ minutes := by
    rw [hmod]
    exact hminute
  refine ⟨start + (minute - start) % 60, ⟨hmem, ?_, rfl⟩, by omega, by omega⟩
  have hhour := Int.emod_nonneg ((start + (minute - start) % 60) / 60) (show (24 : ℤ) ≠ 0 by decide)
  have hlt := Int.emod_lt_of_pos ((start + (minute - start) % 60) / 60)
    (show (0 : ℤ) < 24 by decide)
  refine List.mem_map.mpr ⟨Int.toNat _, List.mem_range.mpr ?_, Int.toNat_of_nonneg hhour⟩
  omega

def hourlySchedule (minutes : List ℤ) (hrange : ∀ minute ∈ minutes, 0 ≤ minute ∧ minute < 60)
    (hne : minutes ≠ []) (exhausted : GoError) : CronSchedule :=
  (Recurrence.hourly minutes hrange).schedule 60 (Recurrence.hourly_horizon hne) exhausted

end Matcher.Foundation
