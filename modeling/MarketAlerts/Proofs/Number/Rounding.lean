import MarketAlerts.Proofs.Number.Sign

/-!
How far the arithmetic of doubles is from that of rationals. A result whose exact value is at most a
power of two is off it by at most the place of the 53rd digit below that power; errors of the
operands go on top of it. Doubles are compared as their values are.
-/
namespace MarketAlerts.Number

open Float.Model UnpackedFloat

section Near

variable {a : UnpackedFloat} {d e v w : ℚ}

/-- A number that is held and whose value is off by no more than a bound. -/
def Near (bound value : ℚ) (number : UnpackedFloat) : Prop :=
  IsCanonical number ∧ ∃ held : ℚ, HasValue held number ∧ |held - value| ≤ bound

theorem HasValue.near (canonical : IsCanonical a) (value : HasValue v a) (nonneg : 0 ≤ d) :
    Near d v a := by
  refine ⟨canonical, v, value, ?_⟩
  rwa [sub_self, abs_zero]

theorem Near.mono (near : Near d v a) (le : d ≤ e) : Near e v a := by
  obtain ⟨canonical, held, value, close⟩ := near
  exact ⟨canonical, held, value, close.trans le⟩

/-- An error on top of an error. -/
theorem Near.trans_near (near : Near d v a) (close : |v - w| ≤ e) : Near (d + e) w a := by
  obtain ⟨canonical, held, value, first⟩ := near
  exact ⟨canonical, held, value, (abs_sub_le held v w).trans (add_le_add first close)⟩

theorem Near.neg (near : Near d v a) : Near d (-v) a.neg := by
  obtain ⟨canonical, held, value, close⟩ := near
  obtain ⟨opposite, turned⟩ := neg_exact canonical value
  exact ⟨opposite, -held, turned, by rwa [neg_sub_neg, abs_sub_comm]⟩

theorem Near.unpack_pack (near : Near d v a) :
    Near d v (UnpackedFloat.unpack Format.binary64 (UnpackedFloat.pack Format.binary64 a)) := by
  rwa [Number.unpack_pack near.1]

end Near

section Digits

variable {sign : Sign} {mantissa : Nat} {exponent : Int} {accuracy : Accuracy}

theorem apply_eq_mul (sign : Sign) (n : Nat) : (sign.apply n : ℚ) = sign.apply 1 * n := by
  cases sign <;> simp [Sign.apply]

theorem HasValue.eq_apply_mul {v : ℚ} {pos : 0 < mantissa}
    (value : HasValue v (.finite sign mantissa exponent pos)) :
    v = sign.apply 1 * (mantissa * 2 ^ exponent) := by
  rw [← mul_assoc, ← apply_eq_mul]
  exact value

theorem abs_apply_one (sign : Sign) : |(sign.apply 1 : ℚ)| = 1 := by
  cases sign <;> simp [Sign.apply]

theorem apply_div (s t : Sign) : ((s / t).apply 1 : ℚ) = s.apply 1 / t.apply 1 := by
  have turned : s / t = s * t := by cases s <;> cases t <;> rfl
  have product : ((s * t).apply 1 : ℤ) = s.apply 1 * t.apply 1 := apply_mul s t 1 1
  rw [turned, product, Int.cast_mul]
  cases s <;> cases t <;> simp [Sign.apply]

theorem mantissa_shiftRight (wide : ExtendedMantissa) (places : Nat) :
    (wide >>> places).mantissa = wide.mantissa / 2 ^ places := by
  induction places with
  | zero => exact (Nat.div_one _).symm
  | succ places ih =>
    have step : (wide >>> (places + 1)).mantissa = (wide >>> places).mantissa / 2 := rfl
    rw [step, ih, Nat.div_div_eq_div_mul, Nat.pow_succ]

theorem mantissa_ofMantissaAndAccuracy (mantissa : Nat) (accuracy : Accuracy) :
    (ExtendedMantissa.ofMantissaAndAccuracy mantissa accuracy).mantissa = mantissa := by
  cases accuracy with
  | exact => rfl
  | inexact half => cases half <;> rfl

/-- A mantissa is rounded down or up by one. -/
theorem roundedMantissa_bounds (wide : ExtendedMantissa) :
    wide.mantissa ≤ wide.roundedMantissa ∧ wide.roundedMantissa ≤ wide.mantissa + 1 := by
  obtain ⟨mantissa, half, rest⟩ := wide
  have parity : mantissa % 2 < 2 := Nat.mod_lt _ (by decide)
  cases half <;> cases rest <;>
    simp only [ExtendedMantissa.roundedMantissa, ExtendedMantissa.accuracy,
      Accuracy.roundToNearestEven] <;> omega

section

variable {wide : ExtendedMantissa} {place : Int} (sign : Sign)
  (shifted : shiftToTargetExponent Format.binary64 mantissa exponent accuracy = (wide, place))
  (short : wide.roundedMantissa ≤ 2 ^ 53)

include shifted short

/-- A rounded mantissa is made full again: a carry into one more digit moves the place. -/
theorem exists_finite_roundWithAccuracy (positive : 0 < wide.roundedMantissa)
    (least : -1074 ≤ place) (full : 2 ^ 52 ≤ wide.roundedMantissa ∨ place = -1074) :
    ∃ digits places : Nat, ∃ pos : 0 < digits,
      roundWithAccuracy Format.binary64 sign mantissa exponent accuracy =
      .finite sign digits (place + places) pos ∧
        IsFull digits (place + places) ∧ wide.roundedMantissa = digits * 2 ^ places ∧
        places ≤ 1 := by
  generalize rounded : wide.roundedMantissa = units at *
  obtain ⟨digits, places, pos, held, rfl, few⟩ : ∃ digits places : Nat, ∃ _ : 0 < digits,
      IsFull digits (place + places) ∧ units = digits * 2 ^ places ∧ places ≤ 1 := by
    rcases Nat.lt_or_eq_of_le short with low | rfl
    · exact ⟨units, 0, positive, ⟨low, by omega, by simpa using full⟩, by simp, by decide⟩
    · exact ⟨2 ^ 52, 1, by decide, ⟨by decide, by omega, .inl le_rfl⟩, by decide, by decide⟩
  have again := shiftToTargetExponent_mul_two_pow held pos places
  rw [Int.add_sub_cancel] at again
  refine ⟨digits, places, pos, ?_, held, rfl, few⟩
  simp only [roundWithAccuracy, shifted, rounded, again]
  rw [dif_neg (Nat.pos_iff_ne_zero.1 pos)]

theorem held_roundWithAccuracy (least : -1074 ≤ place) (most : place ≤ 970)
    (full : 2 ^ 52 ≤ wide.roundedMantissa ∨ place = -1074) :
    IsCanonical (roundWithAccuracy Format.binary64 sign mantissa exponent accuracy) ∧
      HasValue (sign.apply wide.roundedMantissa * 2 ^ place)
        (roundWithAccuracy Format.binary64 sign mantissa exponent accuracy) := by
  rcases Nat.eq_zero_or_pos wide.roundedMantissa with isZero | positive
  · have again : (shiftToTargetExponent Format.binary64 0 place .exact).1.mantissa = 0 := by
      rw [shiftToTargetExponent, shiftToExponent, mantissa_shiftRight,
        mantissa_ofMantissaAndAccuracy, Nat.zero_div]
    have made : roundWithAccuracy Format.binary64 sign mantissa exponent accuracy = .zero sign := by
      simp only [roundWithAccuracy, shifted, isZero]
      exact dif_pos again
    rw [made, isZero, apply_eq_mul, Nat.cast_zero, mul_zero, zero_mul]
    exact ⟨trivial, rfl⟩
  · obtain ⟨digits, places, pos, made, held, units, few⟩ :=
      exists_finite_roundWithAccuracy sign shifted short positive least full
    rw [made, units]
    refine ⟨held.isCanonical (by omega), ?_⟩
    show (sign.apply (digits * 2 ^ places : Nat) : ℚ) * 2 ^ place = sign.apply digits *
      2 ^ (place + places : ℤ)
    rw [Int.add_comm, zpow_add₀ two_ne_zero, zpow_natCast, apply_eq_mul, apply_eq_mul sign digits]
    push_cast
    ring

end

/-- There are at least as many digits as a double can hold. -/
def IsLong (mantissa : Nat) (exponent : Int) : Prop :=
  52 ≤ mantissa.log2 ∨ exponent ≤ -1074

/-- What is cut off a long number: the place at which 53 digits are left, or the least one, and the
digits before it. -/
theorem exists_shift (long : IsLong mantissa exponent) (accuracy : Accuracy) :
    ∃ (wide : ExtendedMantissa) (places : Nat),
      shiftToTargetExponent Format.binary64 mantissa exponent accuracy = (wide, exponent + places) ∧
        exponent + places = max (mantissa.log2 + exponent - 52) (-1074) ∧
        wide.mantissa = mantissa / 2 ^ places ∧
        wide.mantissa < 2 ^ 53 ∧ (2 ^ 52 ≤ wide.mantissa ∨ exponent + places = -1074) := by
  generalize found : max (mantissa.log2 + exponent - 52) (-1074) = place
  obtain ⟨places, rfl⟩ : ∃ places : Nat, place = exponent + places :=
    ⟨(place - exponent).toNat, by unfold IsLong at long; omega⟩
  have shift : (exponent + places - exponent).toNat = places := by omega
  have digits : (ExtendedMantissa.ofMantissaAndAccuracy mantissa accuracy >>> places).mantissa =
      mantissa / 2 ^ places := by
    rw [mantissa_shiftRight, mantissa_ofMantissaAndAccuracy]
  refine ⟨ExtendedMantissa.ofMantissaAndAccuracy mantissa accuracy >>> places, places, ?_, rfl,
    digits, ?_, ?_⟩
  · unfold shiftToTargetExponent shiftToExponent
    dsimp only
    rw [targetExponent_binary64, found, shift]
  · rw [digits, Nat.div_lt_iff_lt_mul (Nat.two_pow_pos places), ← Nat.pow_add]
    exact Nat.lt_log2_self.trans_le (Nat.pow_le_pow_right (by decide) (by omega))
  · refine or_iff_not_imp_right.2 fun normal => ?_
    have all : mantissa.log2 = 52 + places := by omega
    have nonzero : mantissa ≠ 0 := by
      rintro rfl
      rw [Nat.log2_zero] at all
      omega
    rw [digits, Nat.le_div_iff_mul_le (Nat.two_pow_pos places), ← Nat.pow_add, ← all]
    exact Nat.log2_self_le nonzero

/-- A mantissa that is cut off and rounded lies between the same two neighbours as the number it is
made of. -/
theorem abs_roundedMantissa_sub_le {wide : ExtendedMantissa} {places : Nat}
    (digits : wide.mantissa = mantissa / 2 ^ places) {x : ℚ} (above : mantissa * 2 ^ exponent ≤ x)
    (below : x ≤ (mantissa + 1) * 2 ^ exponent) :
    |wide.roundedMantissa * 2 ^ (exponent + places) - x| ≤ 2 ^ (exponent + places) := by
  obtain ⟨down, up⟩ := roundedMantissa_bounds wide
  have unit : (2 : ℚ) ^ (exponent + places) = 2 ^ places * 2 ^ exponent := by
    rw [Int.add_comm, zpow_add₀ two_ne_zero, zpow_natCast]
  have floor : (wide.mantissa : ℚ) * 2 ^ (exponent + places) ≤ mantissa * 2 ^ exponent := by
    have whole := Nat.div_mul_le_self mantissa (2 ^ places)
    rw [← digits] at whole
    rw [unit, ← mul_assoc]
    gcongr
    exact_mod_cast whole
  have ceiling :
      ((mantissa : ℚ) + 1) * 2 ^ exponent ≤ (wide.mantissa + 1) * 2 ^ (exponent + places) := by
    have whole : mantissa + 1 ≤ (wide.mantissa + 1) * 2 ^ places := by
      have := Nat.lt_mul_div_succ mantissa (Nat.two_pow_pos places)
      rwa [Nat.mul_comm, ← digits] at this
    rw [unit, ← mul_assoc]
    gcongr
    exact_mod_cast whole
  have least : (wide.mantissa : ℚ) * 2 ^ (exponent + places) ≤ wide.roundedMantissa *
      2 ^ (exponent + places) := by
    gcongr
  have greatest : (wide.roundedMantissa : ℚ) * 2 ^ (exponent + places) ≤
      (wide.mantissa + 1) * 2 ^ (exponent + places) := by
    gcongr
    exact_mod_cast up
  rw [abs_le]
  constructor <;> linarith

/-- A number of enough digits is rounded to one of its neighbours in 53 digits, which are apart by
the last of them. -/
theorem roundWithAccuracy_near (long : IsLong mantissa exponent) {x : ℚ}
    (above : mantissa * 2 ^ exponent ≤ x) (below : x ≤ (mantissa + 1) * 2 ^ exponent) {top : ℤ}
    (small : x ≤ 2 ^ top) (least : -1022 ≤ top) (most : top ≤ 1022) (sign : Sign)
    (accuracy : Accuracy) : Near (2 ^ (top - 52)) (sign.apply 1 * x)
      (roundWithAccuracy Format.binary64 sign mantissa exponent accuracy) := by
  obtain ⟨wide, places, shifted, place, digits, short, full⟩ := exists_shift long accuracy
  obtain ⟨down, up⟩ := roundedMantissa_bounds wide
  have low : exponent + places ≤ top - 52 := by
    by_cases isZero : mantissa = 0
    · subst isZero
      unfold IsLong at long
      rw [Nat.log2_zero] at long place
      omega
    · have held : (2 : ℚ) ^ (mantissa.log2 + exponent : ℤ) ≤ 2 ^ top := by
        refine le_trans ?_ (above.trans small)
        rw [zpow_add₀ two_ne_zero, zpow_natCast]
        gcongr
        exact_mod_cast Nat.log2_self_le isZero
      have := (zpow_le_zpow_iff_right₀ (one_lt_two : (1 : ℚ) < 2)).1 held
      omega
  obtain ⟨canonical, value⟩ := held_roundWithAccuracy sign shifted (by omega) (by omega) (by omega)
    (full.imp_left down.trans')
  have close :=
    (abs_roundedMantissa_sub_le digits above below).trans (zpow_le_zpow_right₀ one_le_two low)
  refine ⟨canonical, _, value, ?_⟩
  rwa [apply_eq_mul, mul_assoc, ← mul_sub, abs_mul, abs_apply_one, one_mul]

/-- A number that is not too small is held as finite, or as infinite where it is too large. -/
theorem unpack_pack_roundWithAccuracy (long : IsLong mantissa exponent)
    (normal : -1022 < mantissa.log2 + exponent) (sign : Sign) (accuracy : Accuracy)
    {number : UnpackedFloat}
    (held : number = UnpackedFloat.unpack Format.binary64 (UnpackedFloat.pack Format.binary64
      (roundWithAccuracy Format.binary64 sign mantissa exponent accuracy))) :
    number = .infinity sign ∨ IsFinite sign number := by
  obtain ⟨wide, places, shifted, place, -, short, full⟩ := exists_shift long accuracy
  obtain ⟨down, up⟩ := roundedMantissa_bounds wide
  have large : 2 ^ 52 ≤ wide.roundedMantissa := (full.resolve_right (by omega)).trans down
  obtain ⟨digits, carried, pos, made, filled, -, -⟩ :=
    exists_finite_roundWithAccuracy sign shifted (by omega) (by omega) (by omega) (.inl large)
  rw [made] at held
  by_cases most : exponent + places + carried ≤ 971
  · rw [unpack_pack (filled.isCanonical most)] at held
    exact .inr ⟨digits, _, pos, held⟩
  · have infinite :
        UnpackedFloat.pack Format.binary64 (.finite sign digits (exponent + places + carried) pos) =
        UnpackedFloat.pack Format.binary64 (.infinity sign) := by
      have bias : Format.binary64.exponentBias = 1023 := rfl
      have field : 2 ^ 11 ≤ (exponent + places + carried + (1023 : Nat) + (52 : Nat)).toNat +
          1 := by omega
      unfold UnpackedFloat.pack
      simp only [bias]
      exact if_pos field
    rw [infinite, unpack_pack (show IsCanonical (.infinity sign) from trivial)] at held
    exact .inl held

/-- A number of any digits is given as many as are held before it is rounded. -/
theorem round_near (pos : 0 < mantissa) {x : ℚ} (exact : x = mantissa * 2 ^ exponent) {top : ℤ}
    (small : x ≤ 2 ^ top) (least : -1022 ≤ top) (most : top ≤ 1022) (sign : Sign) :
    Near (2 ^ (top - 52)) (sign.apply 1 * x)
      (UnpackedFloat.round Format.binary64 sign mantissa exponent) := by
  let place : ℤ := max (mantissa.log2 + exponent - 52) (-1074)
  generalize lift : (exponent - place).toNat = places
  have made : UnpackedFloat.round Format.binary64 sign mantissa exponent =
      roundWithAccuracy Format.binary64 sign (mantissa * 2 ^ places)
        (exponent - places) .exact := by
    unfold UnpackedFloat.round decreaseExponent
    dsimp only
    rw [targetExponent_binary64, show max _ _ = place from rfl, lift, Nat.shiftLeft_eq]
  have same : ((mantissa * 2 ^ places : Nat) : ℚ) * 2 ^ (exponent - places : ℤ) = x := by
    rw [exact, zpow_sub₀ two_ne_zero, zpow_natCast]
    push_cast
    field_simp
  have long : IsLong (mantissa * 2 ^ places) (exponent - places) := by
    have digits := log2_mul_two_pow pos places
    unfold IsLong
    omega
  rw [made]
  refine roundWithAccuracy_near long same.le ?_ small least most sign .exact
  rw [← same]
  gcongr
  linarith

end Digits

section Operations

variable {a b : UnpackedFloat} {d e v w : ℚ} {top : ℤ}

theorem normalize_near {count exponent : ℤ} (same : v = count * 2 ^ exponent)
    (small : |v| ≤ 2 ^ top) (least : -1022 ≤ top) (most : top ≤ 1022) (zeroSign : Sign) :
    Near (2 ^ (top - 52)) v (UnpackedFloat.normalize Format.binary64 count exponent zeroSign) := by
  unfold UnpackedFloat.normalize
  rcases lt_trichotomy count 0 with below | rfl | above
  · have order : compare count 0 = .lt := Int.compare_eq_lt.2 below
    obtain ⟨units, rfl⟩ := Int.exists_eq_neg_ofNat below.le
    have turned : (- -(units : ℤ)).toNat = units := by omega
    have negated : -v = units * 2 ^ exponent := by
      rw [same]
      push_cast
      ring
    have rounded := round_near (by omega) negated ((neg_le_abs v).trans small) least most .negative
    have flipped : ((Sign.negative.apply 1 : ℤ) : ℚ) * -v = v :=
      neg_one_mul (-v) |>.trans (neg_neg v)
    rw [flipped] at rounded
    simpa only [order, turned] using rounded
  · rw [Int.cast_zero, zero_mul] at same
    exact HasValue.near (show IsCanonical (.zero zeroSign) from trivial) same (by positivity)
  · have order : compare count 0 = .gt := Int.compare_eq_gt.2 above
    obtain ⟨units, rfl⟩ := Int.eq_ofNat_of_zero_le above.le
    have turned : (units : ℤ).toNat = units := by omega
    have rounded := round_near (by omega) same ((le_abs_self v).trans small) least most .positive
    have kept : ((Sign.positive.apply 1 : ℤ) : ℚ) * v = v := one_mul v
    rw [kept] at rounded
    simpa only [order, turned] using rounded

section

variable (least : -1022 ≤ top) (most : top ≤ 1022)

include least most

theorem Near.add (ha : Near d v a) (hb : Near e w b) (small : |v + w| + (d + e) ≤ 2 ^ top) :
    Near (d + e + 2 ^ (top - 52)) (v + w) (UnpackedFloat.add Format.binary64 a b) := by
  obtain ⟨ca, left, ha, first⟩ := ha
  obtain ⟨cb, right, hb, second⟩ := hb
  have off : |left + right - (v + w)| ≤ d + e := by
    rw [add_sub_add_comm]
    exact (abs_add_le _ _).trans (add_le_add first second)
  have bounded : |left + right| ≤ 2 ^ top := by
    have := abs_sub_abs_le_abs_sub (left + right) (v + w)
    linarith
  have rounded : Near (2 ^ (top - 52)) (left + right) (UnpackedFloat.add Format.binary64 a b) := by
    obtain ⟨canonical, value⟩ | ⟨count, exponent, same, made⟩ := add_cases ca cb ha hb
    · exact value.near canonical (by positivity)
    · rw [made]
      exact normalize_near same bounded least most .positive
  rw [add_comm (d + e)]
  exact rounded.trans_near off

theorem Near.sub (ha : Near d v a) (hb : Near e w b) (small : |v - w| + (d + e) ≤ 2 ^ top) :
    Near (d + e + 2 ^ (top - 52)) (v - w) (UnpackedFloat.sub Format.binary64 a b) := by
  rw [sub_eq_add_neg v] at small ⊢
  rw [sub_eq_add]
  exact ha.add least most hb.neg small

end

section Quotient

variable {m n : Nat} {e f : Int}

/-- The quotient of two mantissas is given as many digits as are held, and one more. -/
theorem isLong_divCore (posm : 0 < m) (posn : 0 < n) :
    IsLong (divCore Format.binary64 m e n f).1 (divCore Format.binary64 m e n f).2.1 := by
  have digits : (Format.binary64.mantissaBits : Int) = 53 := rfl
  have least : Format.binary64.minExponent = -1074 := rfl
  let target := min (e - f) (Format.binary64.targetExponent (totalExponent m e - totalExponent n f))
  have place : target = min (e - f) (max (m.log2 + e - (n.log2 + f) - 53) (-1074)) := by
    simp only [target, Format.targetExponent, totalExponent]
    rw [digits, least]
    omega
  refine or_iff_not_imp_right.2 fun (high : ¬ target ≤ -1074) => ?_
  show 52 ≤ (m <<< (e - f - target).toNat / n).log2
  generalize lift : (e - f - target).toNat = places
  have filled : n.log2 + 53 ≤ (m * 2 ^ places).log2 := by
    rw [log2_mul_two_pow posm]
    omega
  have short : n < 2 ^ (n.log2 + 1) := Nat.lt_log2_self
  have large : 2 ^ 52 * n ≤ m * 2 ^ places := by
    calc 2 ^ 52 * n ≤ 2 ^ 52 * 2 ^ (n.log2 + 1) := Nat.mul_le_mul_left _ short.le
      _ = 2 ^ (n.log2 + 53) := by rw [← Nat.pow_add, Nat.add_comm, Nat.add_assoc]
      _ ≤ 2 ^ (m * 2 ^ places).log2 := Nat.pow_le_pow_right (by decide) filled
      _ ≤ m * 2 ^ places :=
      Nat.log2_self_le (Nat.pos_iff_ne_zero.1 (Nat.mul_pos posm (Nat.two_pow_pos places)))
  have quotient : 2 ^ 52 ≤ m * 2 ^ places / n := (Nat.le_div_iff_mul_le posn).2 large
  rw [Nat.shiftLeft_eq]
  exact (Nat.le_log2 (by omega)).2 quotient

/-- The quotient of two mantissas is cut off at a place, and the next number at that place is not
reached. -/
theorem divCore_bounds (posn : 0 < n) :
    ((divCore Format.binary64 m e n f).1 : ℚ) * 2 ^ (divCore Format.binary64 m e n f).2.1 ≤
        m * 2 ^ e / (n * 2 ^ f) ∧
      (m : ℚ) * 2 ^ e / (n * 2 ^ f) ≤
        ((divCore Format.binary64 m e n f).1 + 1) * 2 ^ (divCore Format.binary64 m e n f).2.1 := by
  let target := min (e - f) (Format.binary64.targetExponent (totalExponent m e - totalExponent n f))
  obtain ⟨places, lift⟩ : ∃ places : Nat, e - f - target = places :=
    ⟨(e - f - target).toNat, by omega⟩
  have cut : (divCore Format.binary64 m e n f).1 = m * 2 ^ places / n := by
    show m <<< (e - f - target).toNat / n = _
    rw [lift, Int.toNat_natCast, Nat.shiftLeft_eq]
  rw [cut, show (divCore Format.binary64 m e n f).2.1 = target from rfl]
  have divisor : (0 : ℚ) < n := Nat.cast_pos.2 posn
  have unit : (0 : ℚ) < 2 ^ target := by positivity
  have same : (m : ℚ) * 2 ^ e / (n * 2 ^ f) = (m * 2 ^ places : Nat) / n * 2 ^ target := by
    have exponents : (2 : ℚ) ^ e = 2 ^ places * 2 ^ target * 2 ^ f := by
      rw [← zpow_natCast, ← zpow_add₀ two_ne_zero, ← zpow_add₀ two_ne_zero]
      congr 1
      omega
    rw [exponents]
    push_cast
    field_simp
  rw [same]
  refine ⟨mul_le_mul_of_nonneg_right Nat.cast_div_le unit.le, mul_le_mul_of_nonneg_right ?_ unit.le⟩
  rw [div_le_iff₀ divisor]
  exact_mod_cast (Nat.lt_mul_div_succ _ posn).le.trans_eq (Nat.mul_comm _ _)

end Quotient

/-- A quotient of exact values is off by its rounding alone. -/
theorem HasValue.div_near (ha : HasValue v a) (hb : HasValue w b) (nonzero : w ≠ 0)
    (small : |v / w| ≤ 2 ^ top) (least : -1022 ≤ top) (most : top ≤ 1022) :
    Near (2 ^ (top - 52)) (v / w) (UnpackedFloat.div Format.binary64 a b) := by
  cases b with
  | infinity | notANumber => contradiction
  | zero t => exact absurd hb nonzero
  | finite t n f posn =>
    cases a with
    | infinity | notANumber => contradiction
    | zero s =>
      obtain rfl : v = 0 := ha
      exact HasValue.near (show IsCanonical (.zero (s / t)) from trivial) (zero_div w)
        (by positivity)
    | finite s m e posm =>
      obtain ⟨above, below⟩ := divCore_bounds (m := m) (e := e) (f := f) posn
      have signed : v / w = (s / t).apply 1 * (m * 2 ^ e / (n * 2 ^ f)) := by
        rw [ha.eq_apply_mul, hb.eq_apply_mul, apply_div]
        ring
      have size : |v / w| = m * 2 ^ e / (n * 2 ^ f) := by
        rw [signed, abs_mul, abs_apply_one, one_mul]
        exact abs_of_nonneg (by positivity)
      rw [size] at small
      rw [signed]
      exact roundWithAccuracy_near (isLong_divCore posm posn) above below small least most (s / t) _

theorem Near.div (ha : Near d v a) (hb : HasValue w b) (nonzero : w ≠ 0)
    (small : |v / w| + d / |w| ≤ 2 ^ top) (least : -1022 ≤ top) (most : top ≤ 1022) :
    Near (d / |w| + 2 ^ (top - 52)) (v / w) (UnpackedFloat.div Format.binary64 a b) := by
  obtain ⟨-, held, ha, first⟩ := ha
  have off : |held / w - v / w| ≤ d / |w| := by
    rw [← sub_div, abs_div]
    gcongr
  have bounded : |held / w| ≤ 2 ^ top := by
    have := abs_sub_abs_le_abs_sub (held / w) (v / w)
    linarith
  rw [add_comm (d / |w|)]
  exact (ha.div_near hb nonzero bounded least most).trans_near off

end Operations

section Order

variable {s t : Sign} {m n : Nat} {e f : Int} {posm : 0 < m} {posn : 0 < n} {a b : UnpackedFloat}
    {v w : ℚ}

/-- Of two numbers the one at the higher place is larger, since it is held in full. -/
theorem size_lt_of_place_lt (ca : IsCanonical (.finite s m e posm))
    (cb : IsCanonical (.finite t n f posn)) (below : e < f) : (m : ℚ) * 2 ^ e < n * 2 ^ f := by
  obtain ⟨short, least, -, -⟩ := ca
  obtain ⟨-, -, -, full⟩ := cb
  have large : 2 ^ 52 ≤ n := full.resolve_right (by omega)
  obtain ⟨places, rfl⟩ := Int.le.dest (Int.add_one_le_of_lt below)
  have units : m < n * 2 ^ (places + 1) := by
    calc m < 2 ^ 52 * 2 ^ 1 := short
      _ ≤ n * 2 ^ (places + 1) := Nat.mul_le_mul large (Nat.pow_le_pow_right (by decide) (by omega))
  have size : (n : ℚ) * 2 ^ (e + 1 + places : ℤ) = (n * 2 ^ (places + 1) : Nat) * 2 ^ e := by
    rw [show e + 1 + places = ((places + 1 : Nat) : ℤ) + e by omega, zpow_add₀ two_ne_zero,
      zpow_natCast]
    push_cast
    ring
  rw [size]
  gcongr

theorem size_lt_iff (ca : IsCanonical (.finite s m e posm))
    (cb : IsCanonical (.finite t n f posn)) :
    (compare e f).then (compare m n) = .lt ↔ (m : ℚ) * 2 ^ e < n * 2 ^ f := by
  rcases lt_trichotomy e f with below | rfl | above
  · have order : compare e f = .lt := Int.compare_eq_lt.2 below
    rw [order]
    exact iff_of_true rfl (size_lt_of_place_lt ca cb below)
  · have order : compare e e = .eq := Int.compare_eq_eq.2 rfl
    rw [order, Ordering.eq_then, Nat.compare_eq_lt, mul_lt_mul_iff_left₀ (by positivity),
      Nat.cast_lt]
  · have order : compare e f = .gt := Int.compare_eq_gt.2 above
    rw [order]
    exact iff_of_false Ordering.noConfusion (size_lt_of_place_lt cb ca above).not_gt

/-- Numbers of canonical form are in the order of their values. -/
theorem unpacked_lt_iff (ca : IsCanonical a) (cb : IsCanonical b) (ha : HasValue v a)
    (hb : HasValue w b) : a.lt b = true ↔ v < w := by
  cases a with
  | infinity | notANumber => contradiction
  | zero s =>
    obtain rfl : v = 0 := ha
    cases b with
    | infinity | notANumber => contradiction
    | zero t =>
      obtain rfl : w = 0 := hb
      exact iff_of_false Bool.noConfusion (lt_irrefl _)
    | finite t n f posn =>
      have size : (0 : ℚ) < n * 2 ^ f := by positivity
      rw [hb.eq_apply_mul]
      cases t <;> simp [UnpackedFloat.lt, UnpackedFloat.compare, Sign.apply, size, size.le]
  | finite s m e posm =>
    have left : (0 : ℚ) < m * 2 ^ e := by positivity
    rw [ha.eq_apply_mul]
    cases b with
    | infinity | notANumber => contradiction
    | zero t =>
      obtain rfl : w = 0 := hb
      cases s <;> simp [UnpackedFloat.lt, UnpackedFloat.compare, Sign.apply, left, left.le]
    | finite t n f posn =>
      have right : (0 : ℚ) < n * 2 ^ f := by positivity
      rw [hb.eq_apply_mul]
      cases s with
      | negative =>
        cases t with
        | negative =>
          have turned : ((compare e f).then (compare m n)).swap = .lt ↔
              (compare f e).then (compare n m) = .lt := by
            rw [Ordering.swap_then, Int.compare_swap, Nat.compare_swap]
          simpa [UnpackedFloat.lt, UnpackedFloat.compare, Sign.apply, turned] using size_lt_iff cb
            ca
        | positive => simpa [UnpackedFloat.lt, UnpackedFloat.compare, Sign.apply] using by linarith
      | positive =>
        cases t with
        | negative => simpa [UnpackedFloat.lt, UnpackedFloat.compare, Sign.apply] using by linarith
        | positive =>
          simpa [UnpackedFloat.lt, UnpackedFloat.compare, Sign.apply] using size_lt_iff ca cb

end Order

section Doubles

variable {x y : Float} {d e v w : ℚ} {top : ℤ}

theorem lt_iff_of_hasValue (hx : HasValue v x.toModel.unpack) (hy : HasValue w y.toModel.unpack) :
    x < y ↔ v < w := by
  rw [lt_iff]
  exact unpacked_lt_iff (isCanonical_unpack _) (isCanonical_unpack _) hx hy

/-- Doubles whose values are further apart than both are off compare as the values do. -/
theorem lt_iff_of_near (hx : Near d v x.toModel.unpack) (hy : Near e w y.toModel.unpack)
    (apart : d + e < |v - w|) : x < y ↔ v < w := by
  obtain ⟨-, left, hx, first⟩ := hx
  obtain ⟨-, right, hy, second⟩ := hy
  rw [lt_iff_of_hasValue hx hy]
  rw [abs_le] at first second
  rcases lt_or_ge v w with below | above
  · rw [abs_of_neg (sub_neg.2 below)] at apart
    exact iff_of_true (by linarith) below
  · rw [abs_of_nonneg (sub_nonneg.2 above)] at apart
    exact iff_of_false (by linarith) above.not_gt

section

variable (least : -1022 ≤ top) (most : top ≤ 1022)

include least most

theorem near_add (hx : Near d v x.toModel.unpack) (hy : Near e w y.toModel.unpack)
    (small : |v + w| + (d + e) ≤ 2 ^ top) :
    Near (d + e + 2 ^ (top - 52)) (v + w) (x + y).toModel.unpack :=
  (hx.add least most hy small).unpack_pack

theorem near_sub (hx : Near d v x.toModel.unpack) (hy : Near e w y.toModel.unpack)
    (small : |v - w| + (d + e) ≤ 2 ^ top) :
    Near (d + e + 2 ^ (top - 52)) (v - w) (x - y).toModel.unpack :=
  (hx.sub least most hy small).unpack_pack

theorem near_div (hx : Near d v x.toModel.unpack) (hy : HasValue w y.toModel.unpack)
    (nonzero : w ≠ 0) (small : |v / w| + d / |w| ≤ 2 ^ top) :
    Near (d / |w| + 2 ^ (top - 52)) (v / w) (x / y).toModel.unpack :=
  (hx.div hy nonzero small least most).unpack_pack

end

/-- A count of something is above zero, also where it is rounded or too large for a double. -/
theorem ofNat_pos {n : Nat} (nonzero : n ≠ 0) : 0 < Float.ofNat n := by
  by_cases small : n < 2 ^ 53
  · have zero : HasValue 0 (0 : Float).toModel.unpack := (rfl : (0 : ℚ) = 0)
    rw [lt_iff_of_hasValue zero (hasValue_ofNat small)]
    positivity
  · have made : Float.ofNat n = Float.ofModel (Float.Model.ofScientific n 0) :=
      dif_neg fun fast => small fast.1
    have digits : (n <<< 53 * 10 ^ 0).log2 = n.log2 + 53 := by
      rw [Nat.pow_zero, Nat.mul_one, Nat.shiftLeft_eq,
        log2_mul_two_pow (Nat.pos_of_ne_zero nonzero)]
    have written : UnpackedFloat.ofScientific Format.binary64 n 0 =
        roundWithAccuracy Format.binary64 .positive (n <<< 53 * 10 ^ 0) (-53 + 0) .exact := by
      have low : ¬ (0 : Int) < -((2 ^ 11 : Int) + n.log2) := by omega
      unfold UnpackedFloat.ofScientific
      rw [dif_neg nonzero, if_neg (by decide), if_neg low, if_pos le_rfl]
      rfl
    have held : (Float.ofNat n).toModel.unpack = UnpackedFloat.unpack Format.binary64
        (UnpackedFloat.pack Format.binary64 (UnpackedFloat.ofScientific Format.binary64 n 0)) := by
      rw [made]
      rfl
    rw [written] at held
    rw [pos_iff]
    refine unpack_pack_roundWithAccuracy (.inl ?_) ?_ .positive .exact held <;> omega

theorem zero_div_of_pos (above : 0 < x) : 0 / x = 0 := by
  have made : 0 / x =
      Float.ofModel
        (.pack (UnpackedFloat.div Format.binary64 (.zero .positive) x.toModel.unpack)) := rfl
  rw [made]
  obtain infinite | ⟨mantissa, exponent, pos, finite⟩ := pos_iff.1 above
  · rw [infinite]
    rfl
  · rw [finite]
    rfl

end Doubles

end MarketAlerts.Number
