import Mathlib

/-!
# Rounding of doubles

What rounding and packing leave of the magnitude of a number, seen as a mantissa and a power of
two: rounding never takes a number below a power of two that it reached, and packing gives back
what rounding leaves, or an infinity of its sign.
-/

namespace MeteredBilling.Double

open Float.Model Float.Model.UnpackedFloat

/-! ### Binary logarithms -/

theorem log2_shift (m n : Nat) : (m / 2 ^ n).log2 = m.log2 - n := by
  simp only [Nat.log2_eq_log_two, Nat.log_div_base_pow]

theorem log2_shiftLeft {m : Nat} (pos : 0 < m) (n : Nat) : (m <<< n).log2 = m.log2 + n := by
  induction n with
  | zero => rfl
  | succ n ih =>
    rw [Nat.shiftLeft_succ, Nat.log2_two_mul (by rw [Nat.shiftLeft_eq]; positivity), ih]
    rfl

theorem log2_mono {m n : Nat} (le : m ≤ n) : m.log2 ≤ n.log2 := by
  simp only [Nat.log2_eq_log_two]
  exact Nat.log_mono_right le

theorem log2_mul {m n : Nat} (left : 0 < m) (right : 0 < n) :
    m.log2 + n.log2 ≤ (m * n).log2 := by
  rw [Nat.le_log2 (Nat.mul_pos left right).ne', pow_add]
  exact Nat.mul_le_mul (Nat.log2_self_le left.ne') (Nat.log2_self_le right.ne')

/-! ### Shifting -/

theorem mantissa_shift (em : ExtendedMantissa) (n : Nat) :
    (em >>> n).mantissa = em.mantissa / 2 ^ n := by
  induction n with
  | zero => exact (Nat.div_one em.mantissa).symm
  | succ n ih =>
    rw [pow_succ, ← Nat.div_div_eq_div_mul, ← ih]
    rfl

theorem mantissa_rounded (em : ExtendedMantissa) :
    em.roundedMantissa = em.mantissa ∨ em.roundedMantissa = em.mantissa + 1 := by
  obtain ⟨m, upper, lower⟩ := em
  simp only [ExtendedMantissa.roundedMantissa]
  cases upper <;> cases lower
  · exact .inl rfl
  · exact .inl rfl
  · simp only [ExtendedMantissa.accuracy, Accuracy.roundToNearestEven]
    omega
  · exact .inr rfl

theorem target_eq (total : Int) :
    Format.binary64.targetExponent total = max (total - 53) (-1074) := by
  simp only [Format.targetExponent, Format.mantissaBits, Format.minExponent]
  norm_num

theorem target_of_number (m : Nat) (e : Int) :
    Format.binary64.targetExponent (totalExponent m e) = max (m.log2 + e - 52) (-1074) := by
  rw [target_eq, totalExponent]
  omega

theorem shifted (m : Nat) (e : Int) (accuracy : Accuracy) :
    let n := (max (m.log2 + e - 52) (-1074) - e).toNat
    (shiftToTargetExponent .binary64 m e accuracy).1.mantissa = m / 2 ^ n ∧
      (shiftToTargetExponent .binary64 m e accuracy).2 = e + n := by
  simp only [shiftToTargetExponent, target_of_number, shiftToExponent, mantissa_shift, and_true]
  cases accuracy with
  | exact => rfl
  | inexact order => cases order <;> rfl

/-! ### Rounding -/

/-- A mantissa and an exponent that a double holds as they are. -/
structure Fits (m : Nat) (e : Int) : Prop where
  short : m < 2 ^ 53
  above : -1074 ≤ e
  full : 2 ^ 52 ≤ m ∨ e = -1074

theorem first_shift {m : Nat} {e : Int} (accuracy : Accuracy) (dense : 52 ≤ m.log2 ∨ e ≤ -1074) :
    let shift := shiftToTargetExponent .binary64 m e accuracy
    shift.1.mantissa < 2 ^ 53 ∧ -1074 ≤ shift.2 ∧
      (2 ^ 52 ≤ shift.1.mantissa ∨ shift.2 = -1074) := by
  obtain ⟨mantissa, exponent⟩ := shifted m e accuracy
  generalize shiftToTargetExponent .binary64 m e accuracy = shift at mantissa exponent
  obtain ⟨bits, floor, full⟩ : let n := (max (m.log2 + e - 52) (-1074) - e).toNat
      m.log2 ≤ n + 52 ∧ -1074 ≤ e + n ∧ (m.log2 = n + 52 ∨ e + n = -1074) := by
    omega
  generalize (max (m.log2 + e - 52) (-1074) - e).toNat = n at *
  have log2 : shift.1.mantissa.log2 = m.log2 - n := by rw [mantissa, log2_shift]
  refine ⟨?_, exponent ▸ floor, full.imp (fun full => ?_) exponent.trans⟩
  · rcases shift.1.mantissa.eq_zero_or_pos with zero | pos
    · omega
    · exact (Nat.log2_lt pos.ne').mp (by omega)
  · have some : shift.1.mantissa ≠ 0 := by
      intro zero
      rw [zero, Nat.log2_zero] at log2
      omega
    exact (Nat.le_log2 some).mp (by omega)

/-- The second shift takes back a mantissa that rounding carried to the next power. -/
theorem second_shift {r : Nat} {t : Int} (short : r ≤ 2 ^ 53) (floor : -1074 ≤ t)
    (full : 2 ^ 52 ≤ r ∨ t = -1074) :
    let last := shiftToTargetExponent .binary64 r t .exact
    (r < 2 ^ 53 ∧ last.1.mantissa = r ∧ last.2 = t) ∨
      (r = 2 ^ 53 ∧ last.1.mantissa = 2 ^ 52 ∧ last.2 = t + 1) := by
  obtain ⟨mantissa, exponent⟩ := shifted r t .exact
  generalize shiftToTargetExponent .binary64 r t .exact = last at *
  rcases short.lt_or_eq with short | rfl
  · have bits : r.log2 ≤ 52 := by
      rcases r.eq_zero_or_pos with rfl | pos
      · rw [Nat.log2_zero]
        omega
      · have fewer := (Nat.log2_lt pos.ne').mpr short
        omega
    have still : (max (r.log2 + t - 52) (-1074) - t).toNat = 0 := by omega
    rw [still, pow_zero, Nat.div_one] at mantissa
    rw [still, Int.natCast_zero, add_zero] at exponent
    exact .inl ⟨short, mantissa, exponent⟩
  · have once : (max (((53 : Nat) : Int) + t - 52) (-1074) - t).toNat = 1 := by omega
    rw [Nat.log2_two_pow, once] at mantissa exponent
    exact .inr ⟨rfl, mantissa, exponent⟩

/-- Rounding leaves what fits, of the same sign, and not below a power of two that was reached. -/
theorem rounded (sign : Sign) {m : Nat} {e : Int} (accuracy : Accuracy) (pos : 0 < m)
    (above : -1074 ≤ m.log2 + e) (dense : 52 ≤ m.log2 ∨ e ≤ -1074) :
    ∃ m' e' pos', roundWithAccuracy .binary64 sign m e accuracy = .finite sign m' e' pos' ∧
      Fits m' e' ∧ m.log2 + e ≤ m'.log2 + e' := by
  obtain ⟨short, floor, full⟩ := first_shift accuracy dense
  obtain ⟨mantissa, exponent⟩ := shifted m e accuracy
  unfold roundWithAccuracy
  generalize shiftToTargetExponent .binary64 m e accuracy = shift at *
  obtain ⟨em, t⟩ := shift
  simp only at short floor full mantissa exponent ⊢
  have within : (max (m.log2 + e - 52) (-1074) - e).toNat ≤ m.log2 := by omega
  generalize (max (m.log2 + e - 52) (-1074) - e).toNat = n at *
  have log2 : em.mantissa.log2 = m.log2 - n := by rw [mantissa, log2_shift]
  have positive : 0 < em.mantissa :=
    mantissa ▸ Nat.div_pos ((Nat.le_log2 pos.ne').mp within) (Nat.two_pow_pos n)
  have grown : em.mantissa ≤ em.roundedMantissa ∧ em.roundedMantissa ≤ em.mantissa + 1 := by
    rcases mantissa_rounded em with same | up <;> omega
  have reached := log2_mono grown.1
  generalize em.roundedMantissa = r at *
  have second := second_shift (r := r) (t := t) (by omega) floor (by omega)
  generalize shiftToTargetExponent .binary64 r t .exact = last at *
  obtain ⟨last, t'⟩ := last
  simp only at second ⊢
  rcases second with ⟨short, rfl, rfl⟩ | ⟨rfl, half, rfl⟩
  · rw [dif_neg (by omega)]
    exact ⟨_, _, by omega, rfl, ⟨short, floor, by omega⟩, by omega⟩
  · have carried : last.mantissa.log2 = 52 := by rw [half, Nat.log2_two_pow]
    rw [Nat.log2_two_pow] at reached
    rw [dif_neg (by omega)]
    exact ⟨_, _, by omega, rfl, ⟨by omega, by omega, by omega⟩, by omega⟩

/-! ### Packing -/

theorem toNat_implicit (mantissa : BitVec 52) :
    (1#1 ++ mantissa).toNat = 2 ^ 52 + mantissa.toNat := by
  rw [BitVec.toNat_append, ← Nat.shiftLeft_add_eq_or_of_lt mantissa.isLt]
  rfl

theorem unpack_normal (sign : Sign) {exponent : BitVec 11} (mantissa : BitVec 52)
    (inner : exponent ≠ -1#11) (normal : exponent ≠ 0#11) :
    UnpackedFloat.unpack .binary64 (packComponents .binary64 sign exponent mantissa) =
      .finite sign (2 ^ 52 + mantissa.toNat) (exponent.toNat - 1075) (by omega) := by
  unfold UnpackedFloat.unpack
  simp only [unpackMantissa_packComponents, unpackExponent_packComponents, unpackSign_packComponents,
    Sign.ofBitVec_toBitVec, inner, normal, if_false, toNat_implicit]
  rfl

theorem unpack_subnormal (sign : Sign) {mantissa : BitVec 52} (pos : 0 < mantissa.toNat) :
    UnpackedFloat.unpack .binary64 (packComponents .binary64 sign 0#11 mantissa) =
      .finite sign mantissa.toNat (-1074) pos := by
  have nonzero : mantissa ≠ 0#52 := by
    rintro rfl
    cases pos
  have inner : 0#11 ≠ -1#11 := by decide
  unfold UnpackedFloat.unpack
  simp only [unpackMantissa_packComponents, unpackExponent_packComponents, unpackSign_packComponents,
    Sign.ofBitVec_toBitVec, inner, nonzero, if_false, if_true, dif_neg, not_false_eq_true]
  rfl

theorem pack_finite (sign : Sign) {m : Nat} (e : Int) (pos : 0 < m) :
    UnpackedFloat.pack .binary64 (.finite sign m e pos) =
      if 2 ^ 11 ≤ (e + 1023 + 52).toNat + 1 then packedInfinity .binary64 sign
      else if m.log2 + 1 = 53 then
        packComponents .binary64 sign (.ofNat 11 (e + 1023 + 52).toNat) (.ofNat 52 m)
      else packComponents .binary64 sign 0#11 (.ofNat 52 m) := rfl

theorem unpack_infinity (sign : Sign) :
    UnpackedFloat.unpack .binary64 (packedInfinity .binary64 sign) = .infinity sign := by
  cases sign <;> rfl

theorem unpack_pack_far (sign : Sign) {m : Nat} {e : Int} (pos : 0 < m) (far : 972 ≤ e) :
    UnpackedFloat.unpack .binary64 (UnpackedFloat.pack .binary64 (.finite sign m e pos)) =
      .infinity sign := by
  rw [pack_finite, if_pos (by omega)]
  exact unpack_infinity sign

theorem unpack_pack_near (sign : Sign) {m : Nat} {e : Int} (pos : 0 < m) (fits : Fits m e)
    (near : e < 972) :
    UnpackedFloat.unpack .binary64 (UnpackedFloat.pack .binary64 (.finite sign m e pos)) =
      .finite sign m e pos := by
  obtain ⟨short, above, full⟩ := fits
  rw [pack_finite, if_neg (by omega)]
  by_cases normal : 2 ^ 52 ≤ m
  · have bits : m.log2 + 1 = 53 := by rw [(Nat.log2_eq_iff pos.ne').mpr ⟨normal, short⟩]
    have exponent : (BitVec.ofNat 11 (e + 1023 + 52).toNat).toNat = (e + 1075).toNat := by
      rw [BitVec.toNat_ofNat]
      omega
    have mantissa : 2 ^ 52 + (BitVec.ofNat 52 m).toNat = m := by
      rw [BitVec.toNat_ofNat]
      omega
    rw [if_pos bits, unpack_normal]
    · simp only [exponent, mantissa]
      congr 1
      omega
    · intro last
      have all : (e + 1075).toNat = 2047 := exponent.symm.trans (congrArg BitVec.toNat last)
      omega
    · intro zero
      have none : (e + 1075).toNat = 0 := exponent.symm.trans (congrArg BitVec.toNat zero)
      omega
  · obtain rfl := full.resolve_left normal
    have bits : ¬m.log2 + 1 = 53 := by
      have fewer := (Nat.log2_lt pos.ne').mpr (not_le.mp normal)
      omega
    have mantissa : (BitVec.ofNat 52 m).toNat = m := by
      rw [BitVec.toNat_ofNat]
      omega
    rw [if_neg bits, unpack_subnormal sign (by omega)]
    simp only [mantissa]

/-- Packing gives back what fits, unless it is out of range. -/
theorem unpack_pack (sign : Sign) {m : Nat} {e : Int} (pos : 0 < m) (fits : Fits m e) :
    let packed := UnpackedFloat.pack .binary64 (.finite sign m e pos)
    UnpackedFloat.unpack .binary64 packed = .finite sign m e pos ∨
      UnpackedFloat.unpack .binary64 packed = .infinity sign := by
  rcases lt_or_ge e 972 with near | far
  · exact .inl (unpack_pack_near sign pos fits near)
  · exact .inr (unpack_pack_far sign pos far)

theorem fits_of_unpack {bits : BitVec 64} {sign : Sign} {m : Nat} {e : Int} {pos : 0 < m}
    (unpacked : UnpackedFloat.unpack .binary64 bits = .finite sign m e pos) : Fits m e := by
  unfold UnpackedFloat.unpack at unpacked
  simp only at unpacked
  have short := (@unpackMantissa .binary64 bits).isLt
  split at unpacked
  · split at unpacked <;> cases unpacked
  · split at unpacked
    · split at unpacked
      · cases unpacked
      · rename_i zero nonzero
        simp only [zero, finite.injEq] at unpacked
        obtain ⟨_, rfl, rfl⟩ := unpacked
        change (@unpackMantissa .binary64 bits).toNat < 2 ^ 52 at short
        exact ⟨by omega, by decide, .inr rfl⟩
    · rename_i inner normal
      have positive : 0 < (@unpackExponent .binary64 bits).toNat :=
        Nat.pos_of_ne_zero fun zero => normal (BitVec.eq_of_toNat_eq zero)
      have mantissa := toNat_implicit (@unpackMantissa .binary64 bits)
      change (@unpackMantissa .binary64 bits).toNat < 2 ^ 52 at short
      simp only [finite.injEq] at unpacked
      obtain ⟨_, rfl, rfl⟩ := unpacked
      refine ⟨mantissa.trans_lt (by omega), ?_, .inl (mantissa ▸ Nat.le_add_right ..)⟩
      change (-1074 : Int) ≤ (@unpackExponent .binary64 bits).toNat - (1023 + 52)
      omega

end MeteredBilling.Double
