import Mathlib.Data.List.Lex
import Mathlib.Data.Prod.Lex
import Mathlib.Data.String.Basic
import MeteredBilling.Proofs.Dates
import MeteredBilling.Proofs.Events

/-!
# Billing windows

A billing window is a calendar month of universal time, no less and no more. In the years of four
digits windows are ordered as their months are, so a later moment never lies in an earlier window.
-/

namespace MeteredBilling

open Calendar

namespace Decimal

theorem digitsValue_cons (c : Char) (digits : List Char) : digitsValue (c :: digits) =
    10 ^ digits.length * (c.toNat - '0'.toNat) + digitsValue digits := by
  rw [digitsValue_eq, digitsValue_eq, Nat.ofDigitChars_cons, Nat.mul_zero, Nat.zero_add,
    Nat.ofDigitChars_eq_ofDigitChars_zero]

theorem digit_bounds {c : Char} (digit : c.isDigit = true) :
    '0'.toNat ≤ c.toNat ∧ c.toNat ≤ '0'.toNat + 9 := by
  simp only [Char.isDigit, Bool.and_eq_true, decide_eq_true_iff] at digit
  exact ⟨digit.1, digit.2⟩

theorem digitsValue_lt {digits : List Char} (all : ∀ c ∈ digits, c.isDigit = true) :
    digitsValue digits < 10 ^ digits.length := by
  induction digits with
  | nil => decide
  | cons c rest ih =>
    have tail := ih fun d member => all d (List.mem_cons_of_mem _ member)
    have head : c.toNat - '0'.toNat ≤ 9 := by
      have bounds := digit_bounds (all c List.mem_cons_self)
      omega
    have most := Nat.mul_le_mul_left (10 ^ rest.length) head
    rw [digitsValue_cons, List.length_cons, Nat.pow_succ]
    omega

/-- Runs of digits of one length are ordered as the numbers that they write. -/
theorem lt_of_digitsValue_lt {digits digits' : List Char}
    (all : ∀ c ∈ digits, c.isDigit = true) (all' : ∀ c ∈ digits', c.isDigit = true)
    (length : digits.length = digits'.length) (less : digitsValue digits < digitsValue digits') :
    digits < digits' := by
  induction digits generalizing digits' with
  | nil =>
    obtain rfl := List.length_eq_zero_iff.mp length.symm
    exact absurd less (Nat.lt_irrefl _)
  | cons c rest ih =>
    cases digits' with
    | nil => cases length
    | cons c' rest' =>
      have size : rest.length = rest'.length := Nat.succ.inj length
      have tail : ∀ d ∈ rest, d.isDigit = true :=
        fun d member => all d (List.mem_cons_of_mem _ member)
      have tail' : ∀ d ∈ rest', d.isDigit = true :=
        fun d member => all' d (List.mem_cons_of_mem _ member)
      have bounds := digit_bounds (all c List.mem_cons_self)
      have bounds' := digit_bounds (all' c' List.mem_cons_self)
      rw [digitsValue_cons, digitsValue_cons, size] at less
      rw [List.cons_lt_cons_iff]
      rcases Nat.lt_trichotomy c.toNat c'.toNat with before | same | behind
      · exact .inl before
      · have equal : c = c' := Char.toNat_inj.mp same
        subst equal
        exact .inr ⟨rfl, ih tail tail' size (by omega)⟩
      · -- A greater first digit outweighs all that follow it.
        have rest_lt := digitsValue_lt tail'
        have step : c'.toNat - '0'.toNat + 1 ≤ c.toNat - '0'.toNat := by omega
        have most := Nat.mul_le_mul_left (10 ^ rest'.length) step
        rw [Nat.mul_add, Nat.mul_one] at most
        omega

theorem padded_lt {width n m : Nat} (positive : 0 < width) (fits : m < 10 ^ width)
    (less : n < m) : padded width n < padded width m := by
  apply lt_of_digitsValue_lt
  · exact fun c member => isDigit_of_mem_padded member
  · exact fun c member => isDigit_of_mem_padded member
  · rw [length_padded positive (less.trans fits), length_padded positive fits]
  · rwa [digitsValue_padded, digitsValue_padded]

end Decimal

theorem append_lt_of_lt {front front' : List Char} (length : front.length = front'.length)
    (less : front < front') (rest rest' : List Char) : front ++ rest < front' ++ rest' := by
  induction front generalizing front' with
  | nil =>
    obtain rfl := List.length_eq_zero_iff.mp length.symm
    exact absurd less (List.lt_irrefl _)
  | cons c front ih =>
    cases front' with
    | nil => cases length
    | cons c' front' =>
      rw [List.cons_append, List.cons_append, List.cons_lt_cons_iff]
      rcases List.cons_lt_cons_iff.mp less with before | ⟨same, later⟩
      · exact .inl before
      · exact .inr ⟨same, ih (Nat.succ.inj length) later⟩

namespace Period

/-- The years that four digits write. -/
def FourDigits (t : Instant) : Prop := 0 ≤ t.date.year ∧ t.date.year ≤ 9999

variable {t t' : Instant}

theorem yearText_eq (within : FourDigits t) :
    yearText t.date.year = Decimal.padded 4 t.date.year.natAbs := by
  have nonneg := within.1
  rw [yearText, if_neg (by omega)]

theorem month_mono (le : t ≤ t') : toLex t.month ≤ toLex t'.month :=
  Prod.Lex.toLex_le_toLex.mpr (Date.ofNumber_mono (Instant.dayNumber_mono le))

theorem ofInstant_lt (within : FourDigits t) (within' : FourDigits t')
    (earlier : toLex t.month < toLex t'.month) : ofInstant t < ofInstant t' := by
  have four (t : Instant) (within : FourDigits t) : t.date.year.natAbs < 10 ^ 4 := by
    obtain ⟨least, most⟩ := within
    omega
  have text (t : Instant) (within : FourDigits t) : (ofInstant t).text.toList =
      Decimal.padded 4 t.date.year.natAbs ++ '-' :: Decimal.padded 2 t.date.month := by
    rw [← yearText_eq within]
    exact String.toList_ofList
  apply String.lt_iff_toList_lt.mpr
  rw [text t within, text t' within']
  rcases Prod.Lex.toLex_lt_toLex.mp earlier with before | ⟨same, before⟩
  · apply append_lt_of_lt
    · rw [Decimal.length_padded (by decide) (four t within),
        Decimal.length_padded (by decide) (four t' within')]
    · apply Decimal.padded_lt (by decide) (four t' within')
      have least := within.1
      have order : t.date.year < t'.date.year := before
      omega
  · have months : t.date.month < t'.date.month := before
    have last := month_le t'
    rw [show t.date.year = t'.date.year from same]
    apply List.append_left_lt
    exact List.cons_lt_cons_iff.mpr (.inr ⟨rfl, Decimal.padded_lt (by decide) (by omega) months⟩)

theorem ofInstant_le_iff (within : FourDigits t) (within' : FourDigits t') :
    ofInstant t ≤ ofInstant t' ↔ toLex t.month ≤ toLex t'.month := by
  constructor
  · intro ordered
    refine not_lt.mp fun earlier => ?_
    exact not_lt.mpr (show (ofInstant t).text ≤ (ofInstant t').text from ordered)
      (ofInstant_lt within' within earlier)
  · intro ordered
    rcases ordered.lt_or_eq with earlier | same
    · exact le_of_lt (show (ofInstant t).text < (ofInstant t').text from
        ofInstant_lt within within' earlier)
    · rw [ofInstant_eq_iff.mpr same]
      exact le_refl (ofInstant t').text

theorem ofInstant_lt_iff (within : FourDigits t) (within' : FourDigits t') :
    ofInstant t < ofInstant t' ↔ toLex t.month < toLex t'.month := by
  have behind : ofInstant t < ofInstant t' ↔ ¬ofInstant t' ≤ ofInstant t :=
    (not_le (a := (ofInstant t').text) (b := (ofInstant t).text)).symm
  rw [behind, ofInstant_le_iff within' within, not_le]

end Period

theorem Usage.key_eq_iff {α : Type} (usage usage' : Usage α) : usage.key = usage'.key ↔
    (usage.orgId = usage'.orgId ∧ usage.productId = usage'.productId ∧
      usage.metricId = usage'.metricId ∧ usage.sla = usage'.sla ∧
      usage.purpose = usage'.purpose ∧ usage.provider = usage'.provider ∧
      usage.accountId = usage'.accountId) ∧
      usage.snapshotDate.month = usage'.snapshotDate.month := by
  simp only [key, period, RemittanceKey.mk.injEq, Period.ofInstant_eq_iff, and_assoc]

/-- Two moments share a window exactly if they lie in one calendar month, in whatever year, and two
observations share a key exactly if they also agree in the other seven dimensions. In the years of
four digits windows are ordered as months are, and follow the clock. -/
theorem windows_are_months {α : Type} (usage usage' : Usage α) (t t' : Instant) :
    (Period.ofInstant t = Period.ofInstant t' ↔ t.month = t'.month) ∧
    (usage.key = usage'.key ↔
      (usage.orgId = usage'.orgId ∧ usage.productId = usage'.productId ∧
        usage.metricId = usage'.metricId ∧ usage.sla = usage'.sla ∧
        usage.purpose = usage'.purpose ∧ usage.provider = usage'.provider ∧
        usage.accountId = usage'.accountId) ∧
        usage.snapshotDate.month = usage'.snapshotDate.month) ∧
    (∀ d : Date, d.IsDay → ∀ secondOfDay < 86400, ∀ fraction,
      (Instant.ofDate d secondOfDay fraction).month = (d.year, d.month)) ∧
    (Period.FourDigits t → Period.FourDigits t' →
      (Period.ofInstant t ≤ Period.ofInstant t' ↔ toLex t.month ≤ toLex t'.month) ∧
      (Period.ofInstant t < Period.ofInstant t' ↔ toLex t.month < toLex t'.month) ∧
      (t ≤ t' → Period.ofInstant t ≤ Period.ofInstant t')) := by
  refine ⟨Period.ofInstant_eq_iff, usage.key_eq_iff usage', ?_, ?_⟩
  · intro d isDay secondOfDay within fraction
    rw [Instant.month, Instant.date_ofDate isDay fraction within]
  · intro within within'
    have ordered := Period.ofInstant_le_iff within within'
    refine ⟨ordered, Period.ofInstant_lt_iff within within', ?_⟩
    intro le
    exact ordered.mpr (Period.month_mono le)

/-- The last nanosecond of March and the first one of April are in the windows of two keys. -/
theorem windows_are_months_march :
    let last : Instant := ⟨1711929599, 999999999⟩
    let next : Instant := ⟨1711929600, 0⟩
    Period.FourDigits last ∧ Period.FourDigits next ∧ (⟨2024, 3, 31⟩ : Date).IsDay ∧
      last.month = (2024, 3) ∧ Period.ofInstant last < Period.ofInstant next ∧
      ({ hoursRun 4 with snapshotDate := last }).key ≠
        ({ hoursRun 4 with snapshotDate := next }).key := by
  intro last next
  have within : Period.FourDigits last := by
    unfold Period.FourDigits
    decide +kernel
  have within' : Period.FourDigits next := by
    unfold Period.FourDigits
    decide +kernel
  have isDay : (⟨2024, 3, 31⟩ : Date).IsDay := ⟨by decide, by decide, by decide, by decide⟩
  obtain ⟨_, keys, months, ordered⟩ := windows_are_months { hoursRun 4 with snapshotDate := last }
    { hoursRun 4 with snapshotDate := next } last next
  have march : last.month = (2024, 3) := months ⟨2024, 3, 31⟩ isDay 86399 (by decide) 999999999
  have april : next.month = (2024, 4) := by decide +kernel
  refine ⟨within, within', isDay, march, ?_, fun same => ?_⟩
  · apply (ordered within within').2.1.mpr
    rw [march, april]
    decide
  · have same : last.month = next.month := (keys.mp same).2
    rw [march, april] at same
    exact absurd same (by decide)

/-- Past four digits the order of texts is not the order of years. -/
example : Period.ofInstant (.ofDate ⟨10000, 1, 1⟩ 0 0) <
    Period.ofInstant (.ofDate ⟨9999, 12, 31⟩ 0 0) := by
  decide +kernel

end MeteredBilling
