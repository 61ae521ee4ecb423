import MeteredBilling.Proofs.Months

/-!
# Dates and days

Days and dates count each other: the date of a day has the day's number, and every valid date is the
date of its number. Later days have no earlier months. A move on the calendar is as long as its
span.
-/

namespace MeteredBilling.Calendar

theorem firstDay_mono {year later : Int} (le : year ≤ later) : firstDay year ≤ firstDay later := by
  simp only [firstDay]
  omega

theorem yearOf_eq {year day : Int} (first : firstDay year ≤ day)
    (last : day < firstDay (year + 1)) : yearOf day = year := by
  obtain ⟨first', last'⟩ := firstDay_yearOf day
  rcases Int.lt_trichotomy (yearOf day) year with before | same | behind
  · have apart := firstDay_mono (show yearOf day + 1 ≤ year by omega)
    omega
  · exact same
  · have apart := firstDay_mono (show year + 1 ≤ yearOf day by omega)
    omega

theorem yearOf_mono {day later : Int} (le : day ≤ later) : yearOf day ≤ yearOf later := by
  have first := (firstDay_yearOf day).1
  have last := (firstDay_yearOf later).2
  refine Int.not_lt.mp fun falls => ?_
  have apart := firstDay_mono (show yearOf later + 1 ≤ yearOf day by omega)
  omega

theorem monthOf_spec : ∀ leap : Bool, ∀ day < 365 + leap.toNat,
    1 ≤ monthOf leap day ∧ monthOf leap day ≤ 12 ∧ daysBefore leap (monthOf leap day) ≤ day ∧
      day < daysBefore leap (monthOf leap day + 1) := by
  decide +kernel

theorem monthOf_mono (leap : Bool) {day later : Nat} (le : day ≤ later) :
    monthOf leap day ≤ monthOf leap later := by
  unfold monthOf
  rw [← List.countP_eq_length_filter, ← List.countP_eq_length_filter]
  refine List.countP_mono_left fun i _ started => ?_
  rw [decide_eq_true_iff] at started ⊢
  exact Nat.le_trans started le

/-- In each year the months follow one another without gaps. -/
theorem monthOf_eq : ∀ leap : Bool, ∀ month < 13, 1 ≤ month → ∀ day < 31,
    day < daysIn leap month → monthOf leap (daysBefore leap month + day) = month := by
  decide +kernel

theorem daysBefore_le : ∀ leap : Bool, ∀ month < 13, 1 ≤ month →
    daysBefore leap month + daysIn leap month ≤ 365 + leap.toNat ∧ daysIn leap month ≤ 31 := by
  decide +kernel

namespace Date

/-- A day of the month that the month has. -/
structure IsDay (d : Date) : Prop where
  month_pos : 1 ≤ d.month
  month_le : d.month ≤ 12
  day_pos : 1 ≤ d.day
  day_le : d.day ≤ daysIn (isLeapYear d.year) d.month

theorem isValid_iff {d : Date} :
    d.isValid = true ↔ d.IsDay ∧ firstYear ≤ d.year ∧ d.year ≤ lastYear := by
  simp only [isValid, Bool.and_eq_true, decide_eq_true_iff]
  constructor
  · rintro ⟨⟨⟨⟨⟨first, last⟩, monthPos⟩, monthLe⟩, dayPos⟩, dayLe⟩
    exact ⟨⟨monthPos, monthLe, dayPos, dayLe⟩, first, last⟩
  · rintro ⟨⟨monthPos, monthLe, dayPos, dayLe⟩, first, last⟩
    exact ⟨⟨⟨⟨⟨first, last⟩, monthPos⟩, monthLe⟩, dayPos⟩, dayLe⟩

theorem isDay_ofNumber (n : Int) : (ofNumber n).IsDay := by
  obtain ⟨first, last⟩ := firstDay_yearOf n
  rw [firstDay_next] at last
  obtain ⟨pos, le, started, ends⟩ :=
    monthOf_spec (isLeapYear (yearOf n)) (n - firstDay (yearOf n)).toNat (by omega)
  refine ⟨pos, le, Nat.le_add_left .., ?_⟩
  simp only [ofNumber, daysIn]
  omega

theorem number_ofNumber (n : Int) : (ofNumber n).number = n := by
  obtain ⟨first, last⟩ := firstDay_yearOf n
  rw [firstDay_next] at last
  have started := (monthOf_spec (isLeapYear (yearOf n)) (n - firstDay (yearOf n)).toNat
    (by omega)).2.2.1
  simp only [number, ofNumber]
  omega

theorem IsDay.ofNumber_number {d : Date} (isDay : d.IsDay) : ofNumber d.number = d := by
  obtain ⟨year, month, day⟩ := d
  obtain ⟨monthPos, monthLe, dayPos, dayLe⟩ := isDay
  dsimp only at monthPos monthLe dayPos dayLe
  obtain ⟨fits, short⟩ := daysBefore_le (isLeapYear year) month (by omega) monthPos
  have within : (isLeapYear year).toNat ≤ 1 := Bool.toNat_le _
  have next := firstDay_next year
  have sameYear : yearOf (number ⟨year, month, day⟩) = year := by
    apply yearOf_eq
    · simp only [number]
      omega
    · rw [next]
      simp only [number]
      omega
  have place : (number ⟨year, month, day⟩ - firstDay year).toNat =
      daysBefore (isLeapYear year) month + (day - 1) := by
    simp only [number]
    omega
  have sameMonth := monthOf_eq (isLeapYear year) month (by omega) monthPos (day - 1) (by omega)
    (by omega)
  simp only [ofNumber, sameYear, place, sameMonth, Nat.add_sub_cancel_left]
  rw [Nat.sub_add_cancel dayPos]

end Date

/-- A later day lies in a later year, or in no earlier month of the same year. -/
theorem Date.ofNumber_mono {n later : Int} (le : n ≤ later) :
    (ofNumber n).year < (ofNumber later).year ∨
      (ofNumber n).year = (ofNumber later).year ∧ (ofNumber n).month ≤ (ofNumber later).month := by
  rcases Int.lt_or_eq_of_le (yearOf_mono le) with before | same
  · exact .inl before
  · refine .inr ⟨same, ?_⟩
    simp only [ofNumber, same]
    apply monthOf_mono
    omega

namespace Instant

theorem date_ofDate {d : Date} (isDay : d.IsDay) {secondOfDay : Nat} (fraction : Nat)
    (within : secondOfDay < 86400) : (ofDate d secondOfDay fraction).date = d := by
  have day : (ofDate d secondOfDay fraction).dayNumber = d.number := by
    simp only [dayNumber, ofDate, secondsPerDay]
    omega
  rw [date, day]
  exact isDay.ofNumber_number

theorem ofDate_date (t : Instant) : ofDate t.date t.secondOfDay t.fraction = t := by
  rw [eq_iff]
  refine ⟨?_, rfl⟩
  simp only [ofDate, date, Date.number_ofNumber, dayNumber, secondOfDay, secondsPerDay]
  omega

theorem dayNumber_mono {t t' : Instant} (le : t ≤ t') : t.dayNumber ≤ t'.dayNumber := by
  have seconds : t.second ≤ t'.second := by
    rcases le_iff.mp le with before | ⟨same, _⟩
    · exact Int.le_of_lt before
    · exact Int.le_of_eq same
  simp only [dayNumber, secondsPerDay]
  omega

/-! ### Moves on the calendar -/

theorem nanos_ofNanos (n : Int) : (ofNanos n).nanos = n := by
  simp only [ofNanos, nanos, nanosPerSecond]
  omega

theorem nanos_plus? {t moved : Instant} {s : Span} (move : t.plus? s = some moved) :
    moved.nanos = t.nanos + s.nanos := by
  simp only [plus?, supported?, Option.ite_none_right_eq_some, Option.some.injEq] at move
  rw [← move.2, nanos_ofNanos]

theorem nanos_minus? {t cutoff : Instant} {s : Span} (cut : t.minus? s = some cutoff) :
    cutoff.nanos = t.nanos - s.nanos := nanos_plus? cut

theorem nanos_toMicroseconds (t : Instant) :
    (t.toMicroseconds.nanos - t.nanos).natAbs < 1000 := by
  unfold toMicroseconds
  rw [nanos_ofNanos]
  generalize (ofDate ⟨2000, 1, 1⟩ 0 0).nanos = base
  have parts := Int.tdiv_mul_add_tmod (t.nanos - base) 1000
  have least := Int.lt_tmod_of_pos (t.nanos - base) (show (0 : Int) < 1000 by decide)
  have most := Int.tmod_lt_of_pos (t.nanos - base) (show (0 : Int) < 1000 by decide)
  omega

end Instant
end MeteredBilling.Calendar
