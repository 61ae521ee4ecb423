import Mathlib.Algebra.Group.Nat.Defs
import MeteredBilling.Usage.Key

/-!
# Months

The name of a billing window tells the year and the month: two instants share it exactly if they lie
in the same calendar month of universal time, and then they are less than 31 days apart.
-/

namespace MeteredBilling

open Calendar

namespace Decimal

theorem digitsValue_eq (digits : List Char) :
    digitsValue digits = Nat.ofDigitChars 10 digits 0 := by
  have step : (fun (value : Nat) (c : Char) => value * 10 + (c.toNat - '0'.toNat)) =
      fun value c => 10 * value + (c.toNat - '0'.toNat) := by
    funext value c
    rw [Nat.mul_comm]
  rw [digitsValue, Nat.ofDigitChars_eq_foldl, step]

theorem digitsValue_padded (width n : Nat) : digitsValue (padded width n) = n := by
  rw [digitsValue_eq, padded, natText, Nat.ofDigitChars_append, Nat.ofDigitChars_replicate_zero]
  simp

theorem padded_inj {width n m : Nat} (same : padded width n = padded width m) : n = m := by
  rw [← digitsValue_padded width n, same, digitsValue_padded]

theorem isDigit_of_mem_padded {width n : Nat} {c : Char} (member : c ∈ padded width n) :
    c.isDigit = true := by
  rcases List.mem_append.mp member with zero | digit
  · rw [(List.mem_replicate.mp zero).2]
    rfl
  · exact Nat.isDigit_of_mem_toDigits (by decide) (by decide) digit

theorem length_padded {width n : Nat} (positive : 0 < width) (fits : n < 10 ^ width) :
    (padded width n).length = width := by
  have short : (Nat.toDigits 10 n).length ≤ width :=
    (Nat.length_toDigits_le_iff (by decide) positive).mpr fits
  simp only [padded, natText, List.length_append, List.length_replicate]
  omega

end Decimal

/-- The calendar month that an instant lies in, with its year. -/
def Calendar.Instant.month (t : Instant) : Int × Nat := (t.date.year, t.date.month)

namespace Period

theorem yearText_inj {year year' : Int} (same : yearText year = yearText year') : year = year' := by
  have signed (n m : Nat) : '-' :: Decimal.padded 3 n ≠ Decimal.padded 4 m := by
    intro equal
    have digit : '-'.isDigit = true :=
      Decimal.isDigit_of_mem_padded (equal ▸ List.mem_cons_self)
    cases digit
  unfold yearText at same
  split at same <;> split at same
  · have size := Decimal.padded_inj (List.cons.inj same).2
    omega
  · exact (signed _ _ same).elim
  · exact (signed _ _ same.symm).elim
  · have size := Decimal.padded_inj same
    omega

theorem month_le (t : Instant) : t.date.month ≤ 12 := by
  have bound := List.length_filter_le
    (fun i => decide (daysBefore (isLeapYear (yearOf t.dayNumber)) (i + 1) ≤
      (t.dayNumber - firstDay (yearOf t.dayNumber)).toNat)) (List.range 12)
  rw [List.length_range] at bound
  exact bound

theorem ofInstant_eq_iff {t t' : Instant} : ofInstant t = ofInstant t' ↔ t.month = t'.month := by
  constructor
  · intro same
    have two (t : Instant) : (Decimal.padded 2 t.date.month).length = 2 := by
      have bound := month_le t
      exact Decimal.length_padded (by decide) (by omega)
    have text : yearText t.date.year ++ '-' :: Decimal.padded 2 t.date.month =
        yearText t'.date.year ++ '-' :: Decimal.padded 2 t'.date.month :=
      String.ofList_injective (congrArg Period.text same)
    obtain ⟨years, months⟩ := List.append_inj' text (by simp [two])
    have months := Decimal.padded_inj (List.cons.inj months).2
    exact Prod.ext (yearText_inj years) months
  · intro same
    obtain ⟨years, months⟩ := Prod.mk.inj same
    simp only [ofInstant, years, months]

end Period

/-! ### The length of a month -/

namespace Calendar

theorem firstDay_next (year : Int) :
    firstDay (year + 1) = firstDay year + 365 + (isLeapYear year).toNat := by
  have leap : (isLeapYear year).toNat =
      if year % 4 = 0 ∧ (year % 100 ≠ 0 ∨ year % 400 = 0) then 1 else 0 := by
    by_cases fourth : year % 4 = 0 <;> by_cases century : year % 100 = 0 <;>
      by_cases era : year % 400 = 0 <;> simp [isLeapYear, fourth, century, era]
  rw [leap]
  simp only [firstDay]
  split <;> omega

theorem firstDay_yearOf (day : Int) :
    firstDay (yearOf day) ≤ day ∧ day < firstDay (yearOf day + 1) := by
  -- The estimate is a year off at the most.
  have early : firstDay (day * 400 / 146097 - 1) ≤ day := by
    simp only [firstDay]
    omega
  have late : day < firstDay (day * 400 / 146097 + 2) := by
    simp only [firstDay]
    omega
  unfold yearOf
  generalize day * 400 / 146097 = year at early late
  dsimp only
  split
  · rename_i before
    rw [Int.sub_add_cancel]
    exact ⟨early, before⟩
  · split
    · rename_i reached
      exact ⟨reached, by rwa [Int.add_assoc]⟩
    · omega

theorem daysBefore_monthOf : ∀ leap : Bool, ∀ day < 365 + leap.toNat,
    daysBefore leap (monthOf leap day) ≤ day ∧
      day < daysBefore leap (monthOf leap day) + 31 := by
  decide +kernel

/-- The day of the year on which the month of an instant starts. -/
theorem month_dayNumber (t : Instant) :
    let start := firstDay t.date.year + daysBefore (isLeapYear t.date.year) t.date.month
    start ≤ t.dayNumber ∧ t.dayNumber < start + 31 := by
  obtain ⟨first, last⟩ := firstDay_yearOf t.dayNumber
  rw [firstDay_next] at last
  have within := daysBefore_monthOf (isLeapYear (yearOf t.dayNumber))
    (t.dayNumber - firstDay (yearOf t.dayNumber)).toNat (by omega)
  simp only [Instant.date, Date.ofNumber]
  omega

/-- Two moments of one month are less than 31 days apart. -/
theorem second_of_month {t t' : Instant} (same : t.month = t'.month) :
    t.second < t'.second + 31 * secondsPerDay := by
  obtain ⟨years, months⟩ := Prod.mk.inj same
  have upper := (month_dayNumber t).2
  have lower := (month_dayNumber t').1
  rw [years, months] at upper
  simp only [Instant.dayNumber, secondsPerDay] at *
  omega

end Calendar
end MeteredBilling
