import MeteredBilling.Amount.Double
import MeteredBilling.Proofs.Calculation
import MeteredBilling.Proofs.Rounding

/-!
# Doubles that are billed

Whole units that are due are no less than one in doubles, so that no usable factor takes the bill
for them to zero.
-/

namespace MeteredBilling.Double

open Float.Model Float.Model.UnpackedFloat

/-- A positive number that is no less than the power of two, or the positive infinity. -/
inductive AtLeast (k : Int) : UnpackedFloat → Prop
  | infinity : AtLeast k (.infinity .positive)
  | finite {m : Nat} {e : Int} (pos : 0 < m) (reach : k ≤ m.log2 + e) :
      AtLeast k (.finite .positive m e pos)

def Reaches (k : Int) (x : Float) : Prop := AtLeast k x.toModel.unpack

theorem lt_eq (x y : Float) : Amount.lt x y = x.toModel.unpack.lt y.toModel.unpack :=
  Bool.decide_eq_true.trans Bool.decide_eq_true

theorem le_eq (x y : Float) : Amount.le x y = x.toModel.unpack.le y.toModel.unpack :=
  Bool.decide_eq_true.trans Bool.decide_eq_true

theorem unpack_zero : (0.0 : Float).toModel.unpack = .zero .positive := rfl

theorem unpack_one : (1.0 : Float).toModel.unpack = .finite .positive (2 ^ 52) (-52) (by decide) := rfl

theorem not_lt_zero : Amount.lt (0.0 : Float) 0.0 = false := by
  rw [lt_eq, unpack_zero]
  rfl

theorem Reaches.positive {k : Int} {x : Float} (reaches : Reaches k x) :
    Amount.lt 0.0 x = true := by
  rw [lt_eq, unpack_zero]
  unfold Reaches at reaches
  generalize x.toModel.unpack = u at reaches
  cases reaches <;> rfl

theorem positive_cases {x : Float} (positive : Amount.lt 0.0 x = true) :
    x.toModel.unpack = .infinity .positive ∨
      ∃ m e pos, x.toModel.unpack = .finite .positive m e pos ∧ Fits m e := by
  rw [lt_eq, unpack_zero] at positive
  cases unpacked : x.toModel.unpack with
  | notANumber | zero =>
    rw [unpacked] at positive
    cases positive
  | infinity sign =>
    cases sign with
    | positive => exact .inl rfl
    | negative =>
      rw [unpacked] at positive
      cases positive
  | finite sign m e pos =>
    cases sign with
    | positive => exact .inr ⟨m, e, pos, rfl, fits_of_unpack unpacked⟩
    | negative =>
      rw [unpacked] at positive
      cases positive

/-! ### Arithmetic -/

theorem atLeast_infinity (k : Int) :
    AtLeast k (Float.Model.pack (.infinity .positive)).unpack := .infinity

theorem atLeast_pack {k : Int} {u : Float.Model.UnpackedFloat} (atLeast : AtLeast k u)
    (fits : ∀ sign m e pos, u = .finite sign m e pos → Fits m e) :
    AtLeast k (Float.Model.pack u).unpack := by
  cases atLeast with
  | infinity => exact atLeast_infinity k
  | finite pos reach =>
    rcases unpack_pack .positive pos (fits _ _ _ _ rfl) with same | far
    · exact (congrArg (AtLeast k) same).mpr (.finite pos reach)
    · exact (congrArg (AtLeast k) far).mpr .infinity

theorem atLeast_rounded {k : Int} {m : Nat} {e : Int} (accuracy : Accuracy) (pos : 0 < m)
    (above : -1074 ≤ k) (reach : k ≤ m.log2 + e) (dense : 52 ≤ m.log2 ∨ e ≤ -1074) :
    AtLeast k (Float.Model.pack (roundWithAccuracy .binary64 .positive m e accuracy)).unpack := by
  obtain ⟨m', e', pos', same, fits, kept⟩ :=
    rounded .positive accuracy pos (above.trans reach) dense
  rw [same]
  refine atLeast_pack (.finite pos' (reach.trans kept)) fun _ _ _ _ finite => ?_
  cases finite
  exact fits

theorem atLeast_mul {k : Int} {m n : Nat} {e f : Int} (left : 0 < m) (right : 0 < n)
    (above : -1074 ≤ k) (reach : k ≤ m.log2 + e + (n.log2 + f)) (dense : 52 ≤ m.log2) :
    AtLeast k (Float.Model.pack
      (mul .binary64 (.finite .positive m e left) (.finite .positive n f right))).unpack := by
  have product := log2_mul left right
  exact atLeast_rounded .exact (Nat.mul_pos left right) above (by omega) (.inl (by omega))

theorem Fits.full_of_whole {m : Nat} {e : Int} (fits : Fits m e) (pos : 0 < m)
    (whole : 0 ≤ m.log2 + e) : m.log2 = 52 := by
  have short := (Nat.log2_lt pos.ne').mpr fits.short
  rcases fits.full with full | low
  · have long := (Nat.le_log2 pos.ne').mpr full
    omega
  · omega

theorem Reaches.mul {k : Int} {x y : Float} (whole : Reaches 0 x) (reaches : Reaches k y)
    (above : -1074 ≤ k) : Reaches k (x * y) := by
  change AtLeast k (Float.Model.pack
    (UnpackedFloat.mul .binary64 x.toModel.unpack y.toModel.unpack)).unpack
  unfold Reaches at whole reaches
  generalize left : x.toModel.unpack = u at whole ⊢
  generalize y.toModel.unpack = v at reaches ⊢
  cases whole with
  | infinity => cases reaches <;> exact atLeast_infinity k
  | finite pos reach =>
    cases reaches with
    | infinity => exact atLeast_infinity k
    | finite pos' reach' =>
      have full := (fits_of_unpack left).full_of_whole pos reach
      exact atLeast_mul pos pos' above (by omega) full.ge

/-- A quotient by one has one bit more before it is rounded. -/
theorem divCore_one {m : Nat} {e : Int} (full : m.log2 = 52) (whole : 0 ≤ m.log2 + e) :
    divCore .binary64 m e (2 ^ 52) (-52) = (2 * m, e - 1, .exact) := by
  have target : Format.binary64.targetExponent
      (totalExponent m e - totalExponent (2 ^ 52) (-52)) = e - 1 := by
    rw [target_eq, totalExponent, totalExponent, Nat.log2_two_pow]
    omega
  have least : min (e - -52) (e - 1) = e - 1 := by omega
  have shift : (e - -52 - (e - 1)).toNat = 53 := by omega
  have wide : m <<< 53 = 2 * m * 2 ^ 52 := by
    rw [Nat.shiftLeft_eq]
    omega
  simp only [divCore, target, least, shift, wide]
  rw [Nat.mul_div_cancel _ (Nat.two_pow_pos 52), Nat.mul_mod_left]
  rfl

theorem Reaches.div_one {x : Float} (whole : Reaches 0 x) : Reaches 0 (x / 1.0) := by
  change AtLeast 0 (Float.Model.pack
    (UnpackedFloat.div .binary64 x.toModel.unpack (1.0 : Float).toModel.unpack)).unpack
  unfold Reaches at whole
  generalize unpacked : x.toModel.unpack = u at whole ⊢
  rw [unpack_one]
  cases whole with
  | infinity => exact atLeast_infinity 0
  | finite pos reach =>
    rename_i m e
    have full := (fits_of_unpack unpacked).full_of_whole pos reach
    have doubled : (2 * m).log2 = m.log2 + 1 := Nat.log2_two_mul pos.ne'
    simp only [UnpackedFloat.div, divCore_one full reach]
    exact atLeast_rounded .exact (by omega) (by decide) (by omega) (.inl (by omega))

/-! ### Whole numbers -/

theorem atLeast_ofNat {n : Nat} (pos : 0 < n) :
    AtLeast 0 (Float.Model.pack (UnpackedFloat.ofNat .binary64 n)).unpack := by
  have positive : compare (n : Int) 0 = .gt := Int.compare_eq_gt.mpr (by omega)
  simp only [UnpackedFloat.ofNat, UnpackedFloat.ofInt, UnpackedFloat.normalize, positive,
    Int.toNat_natCast, UnpackedFloat.round, decreaseExponent, target_of_number]
  obtain ⟨shift, stop⟩ : ∃ shift : Nat, (0 - max ((n.log2 : Int) + 0 - 52) (-1074)).toNat = shift ∧
      (52 ≤ n.log2 + shift) := ⟨_, rfl, by omega⟩
  rw [stop.1, Nat.shiftLeft_eq]
  have product := log2_mul pos (Nat.two_pow_pos shift)
  rw [Nat.log2_two_pow] at product
  exact atLeast_rounded .exact (Nat.mul_pos pos (Nat.two_pow_pos shift)) (by decide) (by omega)
    (.inl (by omega))

theorem reaches_toFloat {n : Nat} (pos : 0 < n) (short : n < 2 ^ 53) :
    Reaches 0 n.toUInt64.toFloat := by
  have same : n.toUInt64.toNat = n := by
    change n % 2 ^ 64 = n
    omega
  have atLeast := atLeast_ofNat pos
  rw [← same] at atLeast
  exact atLeast

theorem reaches_power : Reaches 0 (Float.exactlyRepresentablePowersOfTen[0]) := by
  have one : (Float.exactlyRepresentablePowersOfTen[0]).toModel.unpack =
      .finite .positive (2 ^ 52) (-52) (by decide) := rfl
  rw [Reaches, one]
  exact .finite (by decide) (by decide)

theorem reaches_ofScientific {n : Nat} (pos : 0 < n) : Reaches 0 (Float.ofScientific n false 0) := by
  unfold Float.ofScientific
  split
  · rename_i small
    exact (reaches_toFloat pos small.1).mul reaches_power (by decide)
  · have wide : 0 < n <<< 53 := by
      rw [Nat.shiftLeft_eq]
      exact Nat.mul_pos pos (Nat.two_pow_pos 53)
    have scaled : UnpackedFloat.ofScientific .binary64 n 0 =
        UnpackedFloat.mul .binary64 (.finite .positive (n <<< 53) (-53) wide)
          (.finite .positive 1 0 Nat.one_pos) := by
      have range : (2 : Int) ^ Format.binary64.exponentBits = 2048 := rfl
      unfold UnpackedFloat.ofScientific
      rw [range, dif_neg pos.ne', if_neg (by decide), if_neg (by omega), if_pos (by decide)]
      rfl
    have bits := log2_mul pos (Nat.two_pow_pos 53)
    rw [Nat.log2_two_pow, ← Nat.shiftLeft_eq] at bits
    change AtLeast 0 (Float.Model.pack (UnpackedFloat.ofScientific .binary64 n 0)).unpack
    rw [scaled]
    exact atLeast_mul wide Nat.one_pos (by decide) (by omega) (by omega)

theorem not_positive_neg {k : Int} {x : Float} (reaches : Reaches k x) :
    Amount.lt 0.0 (-x) = false := by
  rw [lt_eq, unpack_zero]
  change UnpackedFloat.lt _ (Float.Model.pack x.toModel.unpack.neg).unpack = false
  unfold Reaches at reaches
  generalize unpacked : x.toModel.unpack = u at reaches ⊢
  cases reaches with
  | infinity => rfl
  | finite pos reach =>
    rcases unpack_pack .negative pos (fits_of_unpack unpacked) with same | far
    · exact congrArg (UnpackedFloat.lt (.zero .positive)) same
    · exact congrArg (UnpackedFloat.lt (.zero .positive)) far

/-! ### Rounding to whole numbers -/

theorem power_eq (bits : UInt64) : ((bits >>> 52) &&& 0x7FF).toNat =
    (@unpackExponent .binary64 bits.toBitVec).toNat := by
  have mask : bits.toNat >>> 52 &&& 2047 = bits.toNat >>> 52 % 2 ^ 11 :=
    Nat.and_two_pow_sub_one_eq_mod _ 11
  rw [UInt64.toNat_and, UInt64.toNat_shiftRight]
  exact mask.trans (BitVec.extractLsb_toNat 62 52 bits.toBitVec).symm

theorem fraction_eq (bits : UInt64) : (bits &&& 0xFFFFFFFFFFFFF).toNat =
    (@unpackMantissa .binary64 bits.toBitVec).toNat := by
  have mask : bits.toNat &&& 4503599627370495 = bits.toNat % 2 ^ 52 :=
    Nat.and_two_pow_sub_one_eq_mod _ 52
  rw [UInt64.toNat_and]
  exact mask.trans (BitVec.extractLsb_toNat 51 0 bits.toBitVec).symm

theorem sign_eq (bits : UInt64) : (bits >>> 63).toNat =
    (@unpackSign .binary64 bits.toBitVec).toNat := by
  have single : bits.toNat >>> 63 = bits.toNat >>> 63 % 2 := by
    have short := bits.toNat_lt
    omega
  rw [UInt64.toNat_shiftRight]
  exact single.trans (BitVec.extractLsb_toNat 63 63 bits.toBitVec).symm

theorem parts_ofBits {x : Float} {sign : Sign} {m : Nat} {e : Int} {pos : 0 < m}
    (finite : x.toModel.unpack = .finite sign m e pos) :
    let b := Decimal.Binary.ofBits x.toBits
    b.mantissa = m ∧ b.exponent = e := by
  change UnpackedFloat.unpack .binary64 x.toBits.toBitVec = _ at finite
  simp only [Decimal.Binary.ofBits, power_eq, fraction_eq]
  generalize x.toBits.toBitVec = bits at finite ⊢
  unfold UnpackedFloat.unpack at finite
  simp only at finite
  split at finite
  · split at finite <;> cases finite
  · split at finite
    · split at finite
      · cases finite
      · rename_i zero _
        cases finite
        rw [zero]
        exact ⟨rfl, rfl⟩
    · rename_i normal
      have positive : (@unpackExponent .binary64 bits).toNat ≠ 0 :=
        fun zero => normal (BitVec.eq_of_toNat_eq zero)
      cases finite
      rw [if_neg positive]
      exact ⟨(toNat_implicit _).symm, rfl⟩

theorem isNegative_of_positive {x : Float} {m : Nat} {e : Int} {pos : 0 < m}
    (finite : x.toModel.unpack = .finite .positive m e pos) : isNegative x = false := by
  change UnpackedFloat.unpack .binary64 x.toBits.toBitVec = _ at finite
  have sign := sign_eq x.toBits
  rw [isNegative, beq_eq_false_iff_ne]
  intro last
  rw [last] at sign
  have negative : @unpackSign .binary64 x.toBits.toBitVec = 1#1 := BitVec.eq_of_toNat_eq sign.symm
  unfold UnpackedFloat.unpack at finite
  simp only [negative] at finite
  split at finite
  · split at finite <;> cases finite
  · split at finite
    · split at finite <;> cases finite
    · cases finite

theorem reaches_of_whole {x : Float} (positive : Amount.lt 0.0 x = true)
    (whole : (!x.isFinite || 0 ≤ (Decimal.Binary.ofBits x.toBits).exponent) = true) :
    Reaches 0 x := by
  unfold Reaches
  rcases positive_cases positive with infinite | ⟨m, e, pos, finite, _⟩
  · rw [infinite]
    exact .infinity
  · have bounded : x.isFinite = true := congrArg UnpackedFloat.isFinite finite
    rw [bounded, (parts_ofBits finite).2, Bool.not_true, Bool.false_or, decide_eq_true_iff] at whole
    rw [finite]
    exact .finite pos (by omega)

theorem reaches_roundWith {pick : Nat → Nat → Nat → Nat} {x : Float}
    (positive : Amount.lt 0.0 (roundWith pick x) = true) : Reaches 0 (roundWith pick x) := by
  unfold roundWith at positive ⊢
  simp only at positive ⊢
  split
  · rename_i whole
    rw [if_pos whole] at positive
    exact reaches_of_whole positive whole
  · rename_i fractional
    rw [if_neg fractional] at positive
    generalize pick _ _ _ = n at positive ⊢
    rcases n.eq_zero_or_pos with rfl | pos
    · cases negative : isNegative x <;> rw [negative] at positive <;> cases positive
    · cases negative : isNegative x with
      | false => exact reaches_ofScientific pos
      | true =>
        rw [negative, withSign, if_pos rfl, not_positive_neg (reaches_ofScientific pos)] at positive
        cases positive

theorem reaches_nearest {x : Float} (positive : Amount.lt 0.0 (nearest x) = true) :
    Reaches 0 (nearest x) := reaches_roundWith positive

theorem reaches_ceiling {x : Float} (positive : Amount.lt 0.0 (ceiling x) = true) :
    Reaches 0 (ceiling x) := reaches_roundWith positive

theorem value_ceil (q : Quantity Float) :
    q.ceil.value = nearest q.value ∨ q.ceil.value = ceiling q.value := by
  unfold Quantity.ceil
  simp only
  split
  · exact .inl rfl
  · exact .inr rfl

theorem reaches_ceil {q : Quantity Float} (positive : Amount.lt 0.0 q.ceil.value = true) :
    Reaches 0 q.ceil.value := by
  rcases value_ceil q with near | up
  · rw [near] at positive ⊢
    exact reaches_nearest positive
  · rw [up] at positive ⊢
    exact reaches_ceiling positive

theorem reaches_of_usable {x : Float} (usable : Amount.isUsableFactor x = true) :
    Reaches (-1074) x := by
  simp only [Amount.isUsableFactor, Bool.and_eq_true, Bool.not_eq_true', le_eq] at usable
  obtain ⟨bounded, above⟩ := usable
  change x.toModel.unpack.isFinite = true at bounded
  unfold Reaches
  cases unpacked : x.toModel.unpack with
  | notANumber | infinity =>
    rw [unpacked] at bounded
    cases bounded
  | zero sign =>
    rw [unpacked] at above
    cases above
  | finite sign m e pos =>
    rw [unpacked] at above
    cases sign with
    | negative => cases above
    | positive =>
      have fits := (fits_of_unpack unpacked).above
      exact .finite pos (by omega)

/-- Whole units that are due come to a positive amount in every unit that can be billed. -/
theorem billable_positive {q : Quantity Float} {unit : MeasureUnit Float}
    (own : q.unit.factor = 1.0) (usable : Amount.isUsableFactor unit.factor = true)
    (positive : Amount.lt 0.0 q.ceil.value = true) :
    Amount.lt 0.0 (q.ceil.converted unit).value = true := by
  unfold Quantity.converted
  split
  · exact positive
  · rw [Quantity.ceil_unit, own]
    exact ((reaches_ceil positive).div_one.mul (reaches_of_usable usable) le_rfl).positive

end MeteredBilling.Double
