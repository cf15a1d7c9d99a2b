import Mathlib

/-!
The form in which doubles are held. A number other than zero has 53 binary digits, or fewer at the
least place there is. Packing such a number into bits and unpacking them gives it back, and whatever
has its value is rounded to it.
-/
namespace MarketAlerts.Number

open Float.Model UnpackedFloat

section Bits

variable (bits : BitVec Format.binary64.numBits)

theorem toNat_unpackSign : (unpackSign bits).toNat = bits.toNat / 2 ^ 63 % 2 := by
  simp [unpackSign, BitVec.extractLsb_toNat, Nat.shiftRight_eq_div_pow]

theorem toNat_unpackExponent : (unpackExponent bits).toNat = bits.toNat / 2 ^ 52 % 2 ^ 11 := by
  simp [unpackExponent, BitVec.extractLsb_toNat, Nat.shiftRight_eq_div_pow]

theorem toNat_unpackMantissa : (unpackMantissa bits).toNat = bits.toNat % 2 ^ 52 := by
  simp [unpackMantissa, BitVec.extractLsb_toNat, Nat.shiftRight_eq_div_pow]

theorem ofBitVec_toBitVec (sign : Sign) : Sign.ofBitVec sign.toBitVec = sign := by
  cases sign <;> rfl

theorem unpackSign_packComponents {format : Format} {sign : Sign}
    {exponent : BitVec format.exponentBits} {mantissa : BitVec format.mantissaBitsWithoutImplicit} :
    unpackSign (packComponents format sign exponent mantissa) = sign.toBitVec := by
  ext i hi
  obtain rfl : i = 0 := by omega
  simp [unpackSign, packComponents, BitVec.getLsbD_append, BitVec.getElem_append]

end Bits

section Canonical

/-- Numbers in the form in which doubles are held: 53 digits, or fewer at the least place there
is. -/
def IsCanonical : UnpackedFloat → Prop
  | .finite _ mantissa exponent _ => mantissa < 2 ^ 53 ∧ -1074 ≤ exponent ∧ exponent ≤ 971 ∧
      (2 ^ 52 ≤ mantissa ∨ exponent = -1074)
  | .infinity _ | .zero _ | .notANumber => True

variable {sign : Sign} {mantissa : Nat} {exponent : Int} {pos : 0 < mantissa}
    {number : UnpackedFloat}

theorem toNat_one_append (fraction : BitVec 52) :
    (1#1 ++ fraction).toNat = 2 ^ 52 + fraction.toNat := by
  rw [BitVec.toNat_append, ← Nat.shiftLeft_add_eq_or_of_lt fraction.isLt]
  rfl

theorem finite_congr {s : Sign} {m n : Nat} {e f : Int} {posm : 0 < m} {posn : 0 < n}
    (mantissas : m = n) (exponents : e = f) :
    UnpackedFloat.finite s m e posm = .finite s n f posn := by
  subst mantissas exponents
  rfl

/-- A field of 11 digits that is neither of the reserved ones. -/
theorem unpack_packComponents_normal {field : Nat} (positive : 0 < field) (most : field < 2047)
    (fraction : BitVec 52) :
    UnpackedFloat.unpack Format.binary64
      (packComponents Format.binary64 sign (BitVec.ofNat 11 field) fraction) =
      .finite sign (2 ^ 52 + fraction.toNat) (field - 1075)
        (Nat.add_pos_left (Nat.two_pow_pos 52) _) := by
  have kept : (BitVec.ofNat 11 field).toNat = field := by
    rw [BitVec.toNat_ofNat]
    exact Nat.mod_eq_of_lt (by omega)
  have notLargest : BitVec.ofNat 11 field ≠ -1#_ := fun same => by
    have : field = 2047 := kept.symm.trans (congrArg BitVec.toNat same)
    omega
  have notLeast : BitVec.ofNat 11 field ≠ 0#_ := fun same => by
    have : field = 0 := kept.symm.trans (congrArg BitVec.toNat same)
    omega
  unfold UnpackedFloat.unpack
  simp only [unpackExponent_packComponents, unpackMantissa_packComponents,
    unpackSign_packComponents, ofBitVec_toBitVec, if_neg notLargest, if_neg notLeast, kept]
  exact finite_congr (toNat_one_append fraction) rfl

theorem unpack_packComponents_subnormal {fraction : BitVec 52} (positive : 0 < fraction.toNat) :
    UnpackedFloat.unpack Format.binary64 (packComponents Format.binary64 sign 0#_ fraction) =
      .finite sign fraction.toNat (-1074) positive := by
  have notEmpty : fraction ≠ 0#_ := by
    rintro rfl
    contradiction
  unfold UnpackedFloat.unpack
  simp only [unpackExponent_packComponents, unpackMantissa_packComponents,
    unpackSign_packComponents, ofBitVec_toBitVec]
  rw [if_neg (by decide), if_pos trivial, dif_neg notEmpty]
  rfl

theorem unpack_pack (canonical : IsCanonical number) :
    UnpackedFloat.unpack Format.binary64 (UnpackedFloat.pack Format.binary64 number) = number := by
  cases number with
  | notANumber => rfl
  | infinity sign => cases sign <;> rfl
  | zero sign => cases sign <;> rfl
  | finite sign mantissa exponent pos =>
    obtain ⟨short, least, most, full⟩ := canonical
    have digits : mantissa.log2 < 53 := (Nat.log2_lt (by omega)).2 short
    have all : Format.binary64.mantissaBits = 53 := rfl
    have bias : Format.binary64.exponentBias = 1023 := rfl
    obtain ⟨field, biased⟩ : ∃ field : Nat, (field : Int) = exponent + 1075 :=
      ⟨(exponent + 1075).toNat, by omega⟩
    have same : (exponent + (1023 : Nat) + (52 : Nat)).toNat = field := by omega
    unfold UnpackedFloat.pack
    simp only [all, bias, same]
    rw [if_neg (by omega)]
    by_cases normal : 2 ^ 52 ≤ mantissa
    · have filled : 52 ≤ mantissa.log2 := (Nat.le_log2 (by omega)).2 normal
      rw [if_pos (by omega)]
      refine (unpack_packComponents_normal (by omega) (by omega) _).trans
        (finite_congr ?_ (by omega))
      rw [BitVec.toNat_ofNat]
      omega
    · have low : mantissa.log2 < 52 := (Nat.log2_lt (by omega)).2 (by omega)
      have kept : (BitVec.ofNat 52 mantissa).toNat = mantissa := by
        rw [BitVec.toNat_ofNat]
        exact Nat.mod_eq_of_lt (by omega)
      rw [if_neg (by omega), unpack_packComponents_subnormal (by omega)]
      exact finite_congr kept (full.resolve_left normal).symm

/-- Every double is held in canonical form. -/
theorem isCanonical_unpack (bits : BitVec Format.binary64.numBits) :
    IsCanonical (UnpackedFloat.unpack Format.binary64 bits) := by
  have fraction : (unpackMantissa bits).toNat < 2 ^ 52 := (unpackMantissa bits).isLt
  have field : (unpackExponent bits).toNat < 2 ^ 11 := (unpackExponent bits).isLt
  have bias : Format.binary64.exponentBias = 1023 := rfl
  unfold UnpackedFloat.unpack
  dsimp only
  split
  · split <;> trivial
  · next notLargest =>
    have below : (unpackExponent bits).toNat ≠ 2047 :=
      fun same => notLargest (BitVec.eq_of_toNat_eq same)
    split
    · next least =>
      split
      · trivial
      · have isZero : (unpackExponent bits).toNat = 0 := by rw [least]; rfl
        exact ⟨by omega, by omega, by omega, .inr (by omega)⟩
    · next notLeast =>
      have above : (unpackExponent bits).toNat ≠ 0 :=
        fun same => notLeast (BitVec.eq_of_toNat_eq same)
      have size := toNat_one_append (unpackMantissa bits)
      exact ⟨by omega, by omega, by omega, .inl (by omega)⟩

end Canonical

section Rounding

variable {sign : Sign} {mantissa : Nat} {exponent : Int} {pos : 0 < mantissa}

theorem log2_mul_two_pow {n : Nat} (pos : 0 < n) (places : Nat) :
    (n * 2 ^ places).log2 = n.log2 + places := by
  induction places with
  | zero => simp
  | succ places ih =>
    rw [Nat.pow_succ, ← Nat.mul_assoc, Nat.mul_comm _ 2, Nat.log2_two_mul (by positivity), ih]
    omega

/-- The last of 53 digits stands 52 places after the first, but never below the least place there
is. -/
theorem targetExponent_binary64 (mantissa : Nat) (exponent : Int) :
    Format.binary64.targetExponent (totalExponent mantissa exponent) =
      max (mantissa.log2 + exponent - 52) (-1074) := by
  have digits : (Format.binary64.mantissaBits : Int) = 53 := rfl
  have least : Format.binary64.minExponent = -1074 := rfl
  unfold Format.targetExponent totalExponent
  rw [digits, least]
  omega

theorem shiftRight_mul_two_pow (mantissa places : Nat) :
    ExtendedMantissa.ofMantissaAndAccuracy (mantissa * 2 ^ places) .exact >>> places =
      ⟨mantissa, false, false⟩ := by
  induction places generalizing mantissa with
  | zero =>
    rw [Nat.pow_zero, Nat.mul_one]
    rfl
  | succ places ih =>
    have step (wide : ExtendedMantissa) : wide >>> (places + 1) = (wide >>> places).shiftRightOne :=
      rfl
    rw [step, Nat.pow_succ, Nat.mul_comm _ 2, ← Nat.mul_assoc, ih]
    simp [ExtendedMantissa.shiftRightOne]

theorem totalExponent_mul_two_pow {mantissa : Nat} (pos : 0 < mantissa) (exponent : Int)
    (places : Nat) :
    totalExponent (mantissa * 2 ^ places) exponent =
      totalExponent mantissa (exponent + places) := by
  unfold totalExponent
  rw [log2_mul_two_pow pos]
  omega

/-- A mantissa of 53 digits, or of fewer at the least place there is. -/
def IsFull (mantissa : Nat) (exponent : Int) : Prop :=
  mantissa < 2 ^ 53 ∧ -1074 ≤ exponent ∧ (2 ^ 52 ≤ mantissa ∨ exponent = -1074)

theorem IsCanonical.isFull (canonical : IsCanonical (.finite sign mantissa exponent pos)) :
    IsFull mantissa exponent :=
  ⟨canonical.1, canonical.2.1, canonical.2.2.2⟩

section

variable (full : IsFull mantissa exponent)

include full

theorem IsFull.isCanonical (most : exponent ≤ 971) :
    IsCanonical (.finite sign mantissa exponent pos) :=
  ⟨full.1, full.2.1, most, full.2.2⟩

theorem targetExponent_of_isFull :
    Format.binary64.targetExponent (totalExponent mantissa exponent) = exponent := by
  obtain ⟨short, least, full⟩ := full
  have digits : mantissa.log2 < 53 := by
    rcases Nat.eq_zero_or_pos mantissa with rfl | positive
    · decide
    · exact (Nat.log2_lt positive.ne').2 short
  rw [targetExponent_binary64]
  rcases full with full | rfl
  · have : 52 ≤ mantissa.log2 := (Nat.le_log2 (by omega)).2 full
    omega
  · omega

theorem shiftToTargetExponent_mul_two_pow (positive : 0 < mantissa) (places : Nat) :
    shiftToTargetExponent Format.binary64 (mantissa * 2 ^ places) (exponent - places) .exact =
      (⟨mantissa, false, false⟩, exponent) := by
  have target :
      Format.binary64.targetExponent (totalExponent (mantissa * 2 ^ places) (exponent - places)) =
      exponent := by
    rw [totalExponent_mul_two_pow positive, Int.sub_add_cancel]
    exact targetExponent_of_isFull full
  have shift : (exponent - (exponent - places)).toNat = places := by omega
  unfold shiftToTargetExponent shiftToExponent
  dsimp only
  rw [target, shift, shiftRight_mul_two_pow, Int.sub_add_cancel]

end

variable (canonical : IsCanonical (.finite sign mantissa exponent pos))

include canonical

/-- A number of canonical form that is written with more digits is rounded back to itself. -/
theorem roundWithAccuracy_mul_two_pow (places : Nat) :
    roundWithAccuracy Format.binary64 sign (mantissa * 2 ^ places) (exponent - places) .exact =
      .finite sign mantissa exponent pos := by
  have again := shiftToTargetExponent_mul_two_pow canonical.isFull pos 0
  rw [Nat.pow_zero, Nat.mul_one, Int.natCast_zero, Int.sub_zero] at again
  have kept : (ExtendedMantissa.mk mantissa false false).roundedMantissa = mantissa := rfl
  simp only [roundWithAccuracy, shiftToTargetExponent_mul_two_pow canonical.isFull pos places, kept,
    again]
  rw [dif_neg (Nat.pos_iff_ne_zero.1 pos)]

omit canonical

/-- Of two ways to write a rational, one only has more digits. -/
theorem exists_places {m n : Nat} {e f : Int} (same : (m : ℚ) * 2 ^ e = n * 2 ^ f) :
    (∃ places : Nat, e = f + places ∧ n = m * 2 ^ places) ∨ ∃ places : Nat, e = f - places ∧
    m = n * 2 ^ places := by
  have longer {m n : Nat} {f : Int} {places : Nat}
      (same : (m : ℚ) * 2 ^ (f + places : Int) = n * 2 ^ f) :
      n = m * 2 ^ places := by
    rw [Int.add_comm, zpow_add₀ two_ne_zero, zpow_natCast, ← mul_assoc] at same
    exact_mod_cast (mul_right_cancel₀ (zpow_ne_zero f two_ne_zero) same).symm
  rcases Int.le_total f e with above | below
  · obtain ⟨places, rfl⟩ := Int.le.dest above
    exact .inl ⟨places, rfl, longer same⟩
  · obtain ⟨places, rfl⟩ := Int.le.dest below
    exact .inr ⟨places, by omega, longer same.symm⟩

include canonical

/-- What has the value of a number of canonical form is rounded to it. -/
theorem round_of_eq {m : Nat} {e : Int} (same : (m : ℚ) * 2 ^ e = mantissa * 2 ^ exponent) :
    UnpackedFloat.round Format.binary64 sign m e = .finite sign mantissa exponent pos := by
  have target := targetExponent_of_isFull canonical.isFull
  unfold UnpackedFloat.round decreaseExponent
  rcases exists_places same with ⟨places, rfl, rfl⟩ | ⟨places, rfl, rfl⟩
  · have positive : 0 < m := Nat.pos_of_mul_pos_right pos
    have shift : (exponent + places - exponent).toNat = places := by omega
    have rounded := roundWithAccuracy_mul_two_pow canonical 0
    rw [Nat.pow_zero, Nat.mul_one, Int.natCast_zero, Int.sub_zero] at rounded
    rw [← totalExponent_mul_two_pow positive, target]
    simp only [shift, Nat.shiftLeft_eq, Int.add_sub_cancel]
    exact rounded
  · have shift : (exponent - places - exponent).toNat = 0 := by omega
    rw [totalExponent_mul_two_pow pos, Int.sub_add_cancel, target]
    simp only [shift, Nat.shiftLeft_zero, Int.natCast_zero, Int.sub_zero]
    exact roundWithAccuracy_mul_two_pow canonical places

end Rounding

end MarketAlerts.Number
