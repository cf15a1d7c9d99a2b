import MarketAlerts.Number.Binary
import MarketAlerts.Proofs.Number.Canonical

/-!
Where the arithmetic of doubles is exact. A finite double stands for a rational; the sum, the
difference, the product and the quotient of two doubles stand for those of their rationals, as long
as a double can hold the result.
-/
namespace MarketAlerts.Number

open Float.Model UnpackedFloat

section Values

/-- A finite number stands for a rational. -/
def HasValue (value : ℚ) : UnpackedFloat → Prop
  | .zero _ => value = 0
  | .finite sign mantissa exponent _ => value = sign.apply mantissa * 2 ^ exponent
  | .infinity _ | .notANumber => False

/-- A rational that a double can hold. -/
def IsExact (value : ℚ) : Prop :=
  ∃ count place : ℤ, count.natAbs < 2 ^ 53 ∧ -1074 ≤ place ∧ place ≤ 971 ∧ value = count * 2 ^ place

variable {s t : Sign} {a b : UnpackedFloat} {v w : ℚ}

theorem apply_natAbs (count : ℤ) : ∃ sign : Sign, sign.apply count.natAbs = count := by
  rcases Int.natAbs_eq count with above | below
  · exact ⟨.positive, above.symm⟩
  · exact ⟨.negative, below.symm⟩

/-- Sign and size of a value are told apart. -/
theorem eq_of_apply_mul {m n : Nat} {e f : Int} (posm : 0 < m) (posn : 0 < n)
    (same : (s.apply m : ℚ) * 2 ^ e = t.apply n * 2 ^ f) : s = t ∧ (m : ℚ) * 2 ^ e = n * 2 ^ f := by
  have left : (0 : ℚ) < m * 2 ^ e := by positivity
  have right : (0 : ℚ) < n * 2 ^ f := by positivity
  cases s <;> cases t <;> simp only [Sign.apply, Int.cast_neg, Int.cast_natCast, neg_mul] at same
  · exact ⟨rfl, neg_inj.1 same⟩
  · linarith
  · linarith
  · exact ⟨rfl, same⟩

/-- A value other than zero that a double can hold has a canonical form. -/
theorem IsExact.exists_finite (exact : IsExact v) (other : v ≠ 0) :
    ∃ sign mantissa exponent pos, IsCanonical (.finite sign mantissa exponent pos) ∧
      v = sign.apply mantissa * 2 ^ exponent := by
  obtain ⟨count, place, short, least, most, rfl⟩ := exact
  have nonzero : count ≠ 0 := by
    rintro rfl
    simp at other
  obtain ⟨sign, size⟩ := apply_natAbs count
  have pos : 0 < count.natAbs := Int.natAbs_pos.2 nonzero
  generalize count.natAbs = units at *
  subst size
  have digits : units.log2 < 53 := (Nat.log2_lt (by omega)).2 short
  -- The last digit goes to the 53rd place, or to the least one if this is reached first.
  obtain ⟨places, filled⟩ : ∃ places :
      Nat, (places : Int) = min (52 - (units.log2 : Int)) (place + 1074) :=
    ⟨(min (52 - (units.log2 : Int)) (place + 1074)).toNat, by omega⟩
  have longer := log2_mul_two_pow pos places
  have nonzero : units * 2 ^ places ≠ 0 :=
    Nat.pos_iff_ne_zero.1 (Nat.mul_pos pos (Nat.two_pow_pos places))
  refine ⟨sign, units * 2 ^ places, place - places, Nat.pos_of_ne_zero nonzero,
    ⟨?_, by omega, by omega, ?_⟩, ?_⟩
  · exact (Nat.log2_lt nonzero).1 (by omega)
  · by_cases low : place - places = -1074
    · exact .inr low
    · exact .inl ((Nat.le_log2 nonzero).1 (by omega))
  · have lift : ((units * 2 ^ places : Nat) : ℚ) * 2 ^ (place - places : ℤ) = units *
        2 ^ place := by
      push_cast
      rw [mul_assoc, ← zpow_natCast, ← zpow_add₀ two_ne_zero]
      congr 2
      omega
    cases sign <;> simp only [Sign.apply, Int.cast_neg, Int.cast_natCast, neg_mul, lift]

theorem normalize_exact (exact : IsExact v) {count exponent : ℤ} (same : v = count * 2 ^ exponent)
    (zeroSign : Sign) :
    IsCanonical (UnpackedFloat.normalize Format.binary64 count exponent zeroSign) ∧
      HasValue v (UnpackedFloat.normalize Format.binary64 count exponent zeroSign) := by
  unfold UnpackedFloat.normalize
  by_cases isZero : count = 0
  · subst isZero
    rw [Int.cast_zero, zero_mul] at same
    exact ⟨trivial, same⟩
  have nonzero : v ≠ 0 := by
    rw [same]
    exact mul_ne_zero (Int.cast_ne_zero.2 isZero) (zpow_ne_zero _ two_ne_zero)
  obtain ⟨sign, mantissa, place, pos, canonical, value⟩ := exact.exists_finite nonzero
  obtain ⟨other, size⟩ := apply_natAbs count
  have units := Int.natAbs_pos.2 isZero
  rw [← size, value] at same
  obtain ⟨rfl, equal⟩ := eq_of_apply_mul pos units same
  have rounded := round_of_eq canonical equal.symm
  cases sign with
  | negative =>
    have opposite : -(count.natAbs : ℤ) = count := size
    have below : compare count 0 = .lt := Int.compare_eq_lt.2 (by omega)
    have turned : (-count).toNat = count.natAbs := by omega
    simp only [below, turned, rounded]
    exact ⟨canonical, value⟩
  | positive =>
    have equal : (count.natAbs : ℤ) = count := size
    have above : compare count 0 = .gt := Int.compare_eq_gt.2 (by omega)
    have turned : count.toNat = count.natAbs := by omega
    simp only [above, turned, rounded]
    exact ⟨canonical, value⟩

/-- Digits that are added behind a number leave its value. -/
theorem apply_shiftLeft (sign : Sign) (mantissa : Nat) {exponent target : Int}
    (below : target ≤ exponent) :
    (sign.apply (mantissa <<< (exponent - target).toNat : Nat) : ℚ) * 2 ^ target =
      sign.apply mantissa * 2 ^ exponent := by
  obtain ⟨places, rfl⟩ := Int.le.dest below
  have shift : (target + places - target).toNat = places := by omega
  have lift :
      ((mantissa <<< places : Nat) : ℚ) * 2 ^ target = mantissa * 2 ^ (target + places : ℤ) := by
    rw [Nat.shiftLeft_eq, Int.add_comm, zpow_add₀ two_ne_zero, zpow_natCast]
    push_cast
    ring
  cases sign <;> simp only [shift, Sign.apply, Int.cast_neg, Int.cast_natCast, neg_mul, lift]

theorem apply_neg (sign : Sign) (n : Int) : (-sign).apply n = -sign.apply n := by
  cases sign with
  | negative => exact (Int.neg_neg n).symm
  | positive => rfl

theorem apply_mul (s t : Sign) (m n : Nat) :
    (s * t).apply (m * n : Nat) = s.apply m * t.apply n := by
  rw [Int.natCast_mul]
  cases s <;> cases t
  · exact (Int.neg_mul_neg _ _).symm
  · exact (Int.neg_mul _ _).symm
  · exact (Int.mul_neg _ _).symm
  · rfl

/-- A sum is held as it is, where nothing is added, or is made from a count at a place. -/
theorem add_cases (ca : IsCanonical a) (cb : IsCanonical b) (ha : HasValue v a)
    (hb : HasValue w b) :
    (IsCanonical (UnpackedFloat.add Format.binary64 a b) ∧
    HasValue (v + w) (UnpackedFloat.add Format.binary64 a b)) ∨
      ∃ count exponent : ℤ, v + w = count * 2 ^ exponent ∧
        UnpackedFloat.add Format.binary64 a b =
        .normalize Format.binary64 count exponent .positive := by
  cases a with
  | infinity | notANumber => contradiction
  | zero s =>
    obtain rfl : v = 0 := ha
    rw [zero_add]
    cases b with
    | infinity | notANumber => contradiction
    | zero t => cases s <;> cases t <;> exact .inl ⟨trivial, hb⟩
    | finite => exact .inl ⟨cb, hb⟩
  | finite s m e pos =>
    cases b with
    | infinity | notANumber => contradiction
    | zero t =>
      obtain rfl : w = 0 := hb
      rw [add_zero]
      exact .inl ⟨ca, ha⟩
    | finite t n f pos =>
      refine .inr ⟨_, _, ?_, rfl⟩
      rw [Int.cast_add, add_mul, apply_shiftLeft _ _ (Int.min_le_left _ _),
        apply_shiftLeft _ _ (Int.min_le_right _ _), ← ha, ← hb]

theorem add_exact (ca : IsCanonical a) (cb : IsCanonical b) (ha : HasValue v a) (hb : HasValue w b)
    (exact : IsExact (v + w)) : IsCanonical (UnpackedFloat.add Format.binary64 a b) ∧
      HasValue (v + w) (UnpackedFloat.add Format.binary64 a b) := by
  obtain held | ⟨count, exponent, same, made⟩ := add_cases ca cb ha hb
  · exact held
  · rw [made]
    exact normalize_exact exact same .positive

theorem neg_exact (ca : IsCanonical a) (ha : HasValue v a) :
    IsCanonical (UnpackedFloat.neg a) ∧ HasValue (-v) (UnpackedFloat.neg a) := by
  cases a with
  | infinity | notANumber => contradiction
  | zero s =>
    obtain rfl : v = 0 := ha
    exact ⟨trivial, neg_zero⟩
  | finite s m e pos =>
    have value : v = s.apply m * 2 ^ e := ha
    refine ⟨ca, ?_⟩
    show -v = (-s).apply m * 2 ^ e
    rw [value, apply_neg, Int.cast_neg, neg_mul]

/-- To take a number away is to add its opposite, in all that a number can be. -/
theorem sub_eq_add (format : Format) :
    UnpackedFloat.sub format a b = UnpackedFloat.add format a b.neg := by
  cases a with
  | notANumber => rfl
  | infinity s | zero s => cases b <;> rfl
  | finite s m e pos =>
    cases b with
    | finite t n f pos =>
      show UnpackedFloat.normalize _ (_ - _) _ _ = UnpackedFloat.normalize _ (_ + _) _ _
      rw [apply_neg, Int.sub_eq_add_neg]
    | _ => rfl

theorem sub_exact (ca : IsCanonical a) (cb : IsCanonical b) (ha : HasValue v a) (hb : HasValue w b)
    (exact : IsExact (v - w)) : IsCanonical (UnpackedFloat.sub Format.binary64 a b) ∧
      HasValue (v - w) (UnpackedFloat.sub Format.binary64 a b) := by
  obtain ⟨opposite, value⟩ := neg_exact cb hb
  rw [sub_eq_add_neg] at exact ⊢
  rw [sub_eq_add]
  exact add_exact ca opposite ha value exact

theorem apply_mul_zpow_ne_zero (sign : Sign) {mantissa : Nat} (pos : 0 < mantissa)
    (exponent : Int) : (sign.apply mantissa : ℚ) * 2 ^ exponent ≠ 0 := by
  have nonzero : (mantissa : ℚ) ≠ 0 := Nat.cast_ne_zero.2 (Nat.pos_iff_ne_zero.1 pos)
  refine mul_ne_zero ?_ (zpow_ne_zero _ two_ne_zero)
  cases sign <;> simpa [Sign.apply] using nonzero

/-- A product of two numbers that are held in full has at least the digits that are held. -/
theorem exists_places_mul {m n mantissa : Nat} {e f exponent : Int} {posm : 0 < m} {posn : 0 < n}
    {pos : 0 < mantissa} (ca : IsCanonical (.finite s m e posm))
    (cb : IsCanonical (.finite t n f posn))
    (canonical : IsCanonical (.finite (s * t) mantissa exponent pos))
    (same : ((m * n : Nat) : ℚ) * 2 ^ (e + f) = mantissa * 2 ^ exponent) :
    ∃ places : Nat, e + f = exponent - places ∧ m * n = mantissa * 2 ^ places := by
  rcases exists_places same with ⟨places, before, digits⟩ | longer
  · obtain ⟨-, lowa, -, fulla⟩ := ca
    obtain ⟨-, lowb, -, fullb⟩ := cb
    obtain ⟨short, low, -, -⟩ := canonical
    have full : 2 ^ 52 ≤ m * n := by
      rcases fulla with full | rfl
      · exact full.trans (Nat.le_mul_of_pos_right m posn)
      · rcases fullb with full | rfl
        · exact full.trans (Nat.le_mul_of_pos_left n posm)
        · omega
    obtain rfl : places = 0 := by
      by_contra nonzero
      have double : 2 ^ 1 ≤ 2 ^ places := Nat.pow_le_pow_right (by decide) (by omega)
      have wide : 2 ^ 52 * 2 ^ 1 ≤ m * n * 2 ^ places := Nat.mul_le_mul full double
      omega
    rw [Nat.pow_zero, Nat.mul_one] at digits
    exact ⟨0, by omega, by omega⟩
  · exact longer

theorem mul_exact (ca : IsCanonical a) (cb : IsCanonical b) (ha : HasValue v a) (hb : HasValue w b)
    (exact : IsExact (v * w)) : IsCanonical (UnpackedFloat.mul Format.binary64 a b) ∧
      HasValue (v * w) (UnpackedFloat.mul Format.binary64 a b) := by
  cases a with
  | infinity | notANumber => contradiction
  | zero s =>
    obtain rfl : v = 0 := ha
    cases b with
    | infinity | notANumber => contradiction
    | zero t | finite t => exact ⟨trivial, zero_mul w⟩
  | finite s m e posm =>
    cases b with
    | infinity | notANumber => contradiction
    | zero t =>
      obtain rfl : w = 0 := hb
      exact ⟨trivial, mul_zero v⟩
    | finite t n f posn =>
      have product : v * w = (s * t).apply (m * n : Nat) * 2 ^ (e + f) := by
        have left : v = s.apply m * 2 ^ e := ha
        have right : w = t.apply n * 2 ^ f := hb
        rw [left, right, apply_mul, zpow_add₀ two_ne_zero, Int.cast_mul]
        ring
      have nonzero := apply_mul_zpow_ne_zero (s * t) (Nat.mul_pos posm posn) (e + f)
      obtain ⟨sign, mantissa, exponent, pos, canonical, value⟩ :=
        exact.exists_finite (product ▸ nonzero)
      obtain ⟨rfl, equal⟩ := eq_of_apply_mul (Nat.mul_pos posm posn) pos (product.symm.trans value)
      obtain ⟨places, before, digits⟩ := exists_places_mul ca cb canonical equal
      have rounded := roundWithAccuracy_mul_two_pow canonical places
      rw [← before, ← digits] at rounded
      have made : UnpackedFloat.mul Format.binary64 (.finite s m e posm) (.finite t n f posn) =
          .finite (s * t) mantissa exponent pos := rounded
      rw [made]
      exact ⟨canonical, value⟩

theorem log2_add_of_eq {m n : Nat} {e f : Int} (posm : 0 < m) (posn : 0 < n)
    (same : (m : ℚ) * 2 ^ e = n * 2 ^ f) : (m.log2 : Int) + e = n.log2 + f := by
  rcases exists_places same with ⟨places, rfl, rfl⟩ | ⟨places, rfl, rfl⟩
  · rw [log2_mul_two_pow posm]
    omega
  · rw [log2_mul_two_pow posn]
    omega

theorem log2_mul_le {m n : Nat} (posm : 0 < m) (posn : 0 < n) :
    (m * n).log2 ≤ m.log2 + n.log2 + 1 := by
  have below : m * n < 2 ^ (m.log2 + 1) * 2 ^ (n.log2 + 1) :=
    Nat.mul_lt_mul'' Nat.lt_log2_self Nat.lt_log2_self
  rw [← Nat.pow_add] at below
  have := (Nat.log2_lt (Nat.pos_iff_ne_zero.1 (Nat.mul_pos posm posn))).2 below
  omega

/-- Division leaves no remainder if the quotient is a number that can be held. -/
theorem divCore_exact {m n mantissa : Nat} {e f exponent : Int} (posm : 0 < m) (posn : 0 < n)
    {sign : Sign} {pos : 0 < mantissa}
    (canonical : IsCanonical (.finite sign mantissa exponent pos))
    (same : (m : ℚ) * 2 ^ e = (mantissa * n : Nat) * 2 ^ (exponent + f)) :
    ∃ places :
    Nat, divCore Format.binary64 m e n f = (mantissa * 2 ^ places, exponent - places, .exact) := by
  obtain ⟨short, least, -, -⟩ := canonical
  have digits : mantissa.log2 < 53 := (Nat.log2_lt (by omega)).2 short
  have logs := log2_add_of_eq posm (Nat.mul_pos pos posn) same
  have most := log2_mul_le pos posn
  let target := min (e - f) (Format.binary64.targetExponent (totalExponent m e - totalExponent n f))
  have below : target ≤ exponent := by
    have digits : (Format.binary64.mantissaBits : Int) = 53 := rfl
    have least : Format.binary64.minExponent = -1074 := rfl
    refine (Int.min_le_right _ _).trans ?_
    unfold Format.targetExponent totalExponent
    rw [digits, least]
    omega
  obtain ⟨places, before⟩ : ∃ places : Nat, target = exponent - places :=
    ⟨(exponent - target).toNat, by omega⟩
  have filled : m <<< (e - f - target).toNat = mantissa * n * 2 ^ places := by
    have room : target ≤ e - f := Int.min_le_left _ _
    have shift : ((e - f - target).toNat : Int) = e + (-f - target) := by omega
    have rest : exponent + f + (-f - target) = places := by omega
    have lift : ((m <<< (e - f - target).toNat : Nat) : ℚ) = (mantissa * n * 2 ^ places : Nat) := by
      rw [Nat.shiftLeft_eq, Nat.cast_mul, Nat.cast_pow, Nat.cast_ofNat, ← zpow_natCast, shift,
        zpow_add₀ two_ne_zero, ← mul_assoc, same, mul_assoc, ← zpow_add₀ two_ne_zero, rest,
        zpow_natCast]
      push_cast
      ring
    exact_mod_cast lift
  refine ⟨places, ?_⟩
  show (m <<< (e - f - target).toNat / n, target,
    accuracyOfFraction (m <<< (e - f - target).toNat % n) n) = _
  rw [filled, before, Nat.mul_right_comm, Nat.mul_div_cancel _ posn, Nat.mul_mod_left]
  rfl

theorem div_exact (ha : HasValue v a) (hb : HasValue w b) (nonzero : w ≠ 0)
    (exact : IsExact (v / w)) : IsCanonical (UnpackedFloat.div Format.binary64 a b) ∧
      HasValue (v / w) (UnpackedFloat.div Format.binary64 a b) := by
  cases b with
  | infinity | notANumber => contradiction
  | zero t => exact absurd hb nonzero
  | finite t n f posn =>
    cases a with
    | infinity | notANumber => contradiction
    | zero s =>
      obtain rfl : v = 0 := ha
      exact ⟨trivial, zero_div w⟩
    | finite s m e posm =>
      have left : v = s.apply m * 2 ^ e := ha
      have right : w = t.apply n * 2 ^ f := hb
      have quotient : v / w ≠ 0 := div_ne_zero (left ▸ apply_mul_zpow_ne_zero s posm e) nonzero
      obtain ⟨sign, mantissa, exponent, pos, canonical, value⟩ := exact.exists_finite quotient
      have product :
          (s.apply m : ℚ) * 2 ^ e = (sign * t).apply (mantissa * n : Nat) * 2 ^ (exponent + f) := by
        rw [← left, ← div_mul_cancel₀ v nonzero, value, right, apply_mul, zpow_add₀ two_ne_zero,
          Int.cast_mul]
        ring
      obtain ⟨rfl, equal⟩ := eq_of_apply_mul posm (Nat.mul_pos pos posn) product
      obtain ⟨places, core⟩ := divCore_exact posm posn canonical equal
      have back : sign * t / t = sign := by cases sign <;> cases t <;> rfl
      have made :
          UnpackedFloat.div Format.binary64 (.finite (sign * t) m e posm) (.finite t n f posn) =
          .finite sign mantissa exponent pos := by
        simp only [UnpackedFloat.div, core, back]
        exact roundWithAccuracy_mul_two_pow canonical places
      rw [made]
      exact ⟨canonical, value⟩

theorem eq_of_hasValue {m n : Nat} {e f : Int} {posm : 0 < m} {posn : 0 < n}
    (ca : IsCanonical (.finite s m e posm)) (cb : IsCanonical (.finite t n f posn))
    (ha : HasValue v (.finite s m e posm)) (hb : HasValue v (.finite t n f posn)) :
    s = t ∧ e = f ∧ m = n := by
  obtain ⟨rfl, equal⟩ := eq_of_apply_mul posm posn (ha.symm.trans hb)
  obtain ⟨-, rfl, rfl⟩ :=
    UnpackedFloat.finite.inj ((round_of_eq ca rfl).symm.trans (round_of_eq cb equal))
  exact ⟨rfl, rfl, rfl⟩

/-- Numbers of canonical form are equal if and only if their values are. -/
theorem beq_iff (ca : IsCanonical a) (cb : IsCanonical b) (ha : HasValue v a) :
    a.beq b = true ↔ HasValue v b := by
  cases a with
  | infinity | notANumber => contradiction
  | zero s =>
    obtain rfl : v = 0 := ha
    cases b with
    | notANumber => simp [UnpackedFloat.beq, UnpackedFloat.compare, HasValue]
    | infinity t => cases t <;> simp [UnpackedFloat.beq, UnpackedFloat.compare, HasValue]
    | zero t => exact ⟨fun _ => rfl, fun _ => rfl⟩
    | finite t n f posn =>
      have other := (apply_mul_zpow_ne_zero t posn f).symm
      cases t <;> simpa [UnpackedFloat.beq, UnpackedFloat.compare, HasValue] using other
  | finite s m e posm =>
    have value : v = s.apply m * 2 ^ e := ha
    cases b with
    | notANumber => simp [UnpackedFloat.beq, UnpackedFloat.compare, HasValue]
    | infinity t => cases t <;> simp [UnpackedFloat.beq, UnpackedFloat.compare, HasValue]
    | zero t =>
      have other := apply_mul_zpow_ne_zero s posm e
      rw [← value] at other
      cases s <;> simpa [UnpackedFloat.beq, UnpackedFloat.compare, HasValue] using other
    | finite t n f posn =>
      refine ⟨fun same => ?_, fun hb => ?_⟩
      · have fields : s = t ∧ e = f ∧ m = n := by
          cases s <;> cases t <;>
            simp_all [UnpackedFloat.beq, UnpackedFloat.compare, Ordering.then_eq_eq]
        obtain ⟨rfl, rfl, rfl⟩ := fields
        exact ha
      · obtain ⟨rfl, rfl, rfl⟩ := eq_of_hasValue ca cb ha hb
        cases s <;> simp [UnpackedFloat.beq, UnpackedFloat.compare]

end Values

section Doubles

open Float

variable {a : UnpackedFloat} {v w : ℚ} {x y : Float}

theorem hasValue_unpack_pack (held : IsCanonical a ∧ HasValue v a) :
    HasValue v (UnpackedFloat.unpack Format.binary64 (UnpackedFloat.pack Format.binary64 a)) := by
  rw [unpack_pack held.1]
  exact held.2

section

variable (hx : HasValue v x.toModel.unpack) (hy : HasValue w y.toModel.unpack)

include hx hy

theorem hasValue_add (exact : IsExact (v + w)) : HasValue (v + w) (x + y).toModel.unpack :=
  hasValue_unpack_pack (add_exact (isCanonical_unpack _) (isCanonical_unpack _) hx hy exact)

theorem hasValue_sub (exact : IsExact (v - w)) : HasValue (v - w) (x - y).toModel.unpack :=
  hasValue_unpack_pack (sub_exact (isCanonical_unpack _) (isCanonical_unpack _) hx hy exact)

theorem hasValue_mul (exact : IsExact (v * w)) : HasValue (v * w) (x * y).toModel.unpack :=
  hasValue_unpack_pack (mul_exact (isCanonical_unpack _) (isCanonical_unpack _) hx hy exact)

theorem hasValue_div (nonzero : w ≠ 0) (exact : IsExact (v / w)) :
    HasValue (v / w) (x / y).toModel.unpack :=
  hasValue_unpack_pack (div_exact hx hy nonzero exact)

end

theorem hasValue_neg (hx : HasValue v x.toModel.unpack) : HasValue (-v) (-x).toModel.unpack :=
  hasValue_unpack_pack (neg_exact (isCanonical_unpack _) hx)

theorem isExact_natCast {n : Nat} (small : n < 2 ^ 53) : IsExact n :=
  ⟨n, 0, by simpa using small, by decide, by decide, by simp⟩

theorem hasValue_ofNat {n : Nat} (small : n < 2 ^ 53) :
    HasValue n (Float.ofNat n).toModel.unpack := by
  have written : (n : ℚ) = (n : ℤ) * 2 ^ (0 : ℤ) := by simp
  have held := normalize_exact (isExact_natCast small) written .positive
  have whole : HasValue n n.toUInt64.toFloat.toModel.unpack := by
    have bits : n.toUInt64.toNat = n := Nat.mod_eq_of_lt (by omega)
    rw [← bits] at held
    have packed : HasValue n.toUInt64.toNat n.toUInt64.toFloat.toModel.unpack :=
      hasValue_unpack_pack held
    rwa [bits] at packed
  -- A whole number is written as itself times the first power of ten, which is one.
  have one : HasValue 1 exactlyRepresentablePowersOfTen[0].toModel.unpack := by
    have bits : exactlyRepresentablePowersOfTen[0].toModel.unpack =
        .finite .positive (2 ^ 52) (-52) (by decide) := rfl
    rw [bits]
    show (1 : ℚ) = ((2 ^ 52 : Nat) : ℤ) * 2 ^ (-52 : ℤ)
    norm_num
  have made : Float.ofNat n = n.toUInt64.toFloat * exactlyRepresentablePowersOfTen[0] :=
    dif_pos ⟨small, Nat.zero_le _⟩
  have product := hasValue_mul whole one (by simpa using isExact_natCast small)
  rwa [mul_one, ← made] at product

theorem isFinite_iff : x.isFinite = true ↔ ∃ v, HasValue v x.toModel.unpack := by
  show x.toModel.unpack.isFinite = true ↔ _
  cases x.toModel.unpack with
  | infinity | notANumber => simp [UnpackedFloat.isFinite, HasValue]
  | zero | finite => exact ⟨fun _ => ⟨_, rfl⟩, fun _ => rfl⟩

theorem beq_iff_of_hasValue (hx : HasValue v x.toModel.unpack) :
    (x == y) = true ↔ HasValue v y.toModel.unpack :=
  beq_iff (isCanonical_unpack _) (isCanonical_unpack _) hx

theorem sign_ofFloat {x : Float} {negative : Bool} {mantissa : Nat} {exponent : Int}
    (h : Binary.ofFloat x = .finite negative mantissa exponent) :
    negative = decide (2 ^ 63 ≤ x.toBits.toNat) := by
  unfold Binary.ofFloat at h
  dsimp only at h
  split at h
  · split at h <;> cases h
  · split at h <;> cases h <;> rfl

theorem exponent_ofFloat_ge {negative : Bool} {mantissa : Nat} {exponent : Int}
    (read : Binary.ofFloat x = .finite negative mantissa exponent) : -1074 ≤ exponent := by
  unfold Binary.ofFloat at read
  dsimp only at read
  split at read
  · split at read <;> cases read
  · split at read
    · cases read
      exact le_rfl
    · cases read
      omega

theorem apply_ofBitVec (sign : BitVec 1) (n : Int) :
    (Sign.ofBitVec sign).apply n = if sign.toNat = 0 then n else -n := by
  obtain rfl | rfl : sign = 0#1 ∨ sign = 1#1 := by
    revert sign
    decide
  · rfl
  · rfl

theorem hasValue_unpack_subnormal {bits : BitVec Format.binary64.numBits}
    (least : (unpackExponent bits).toNat = 0) :
    HasValue ((Sign.ofBitVec (unpackSign bits)).apply (unpackMantissa bits).toNat * 2 ^ (-1074 : ℤ))
      (UnpackedFloat.unpack Format.binary64 bits) := by
  have low : unpackExponent bits = 0#_ := BitVec.eq_of_toNat_eq least
  unfold UnpackedFloat.unpack
  dsimp only
  rw [low, if_neg (by decide), if_pos rfl]
  split
  · next empty =>
    have isZero : ((Sign.ofBitVec (unpackSign bits)).apply (0 : Nat) : ℚ) = 0 := by
      cases Sign.ofBitVec (unpackSign bits) <;> simp [Sign.apply]
    rw [empty]
    show ((Sign.ofBitVec (unpackSign bits)).apply (0 : Nat) : ℚ) * _ = 0
    rw [isZero, zero_mul]
  · exact (rfl : (_ : ℚ) = _)

theorem hasValue_unpack_normal {bits : BitVec Format.binary64.numBits}
    (notLeast : (unpackExponent bits).toNat ≠ 0) (notLargest : (unpackExponent bits).toNat ≠ 2047) :
    HasValue ((Sign.ofBitVec (unpackSign bits)).apply (2 ^ 52 + (unpackMantissa bits).toNat : Nat) *
      2 ^ ((unpackExponent bits).toNat - 1075 : ℤ))
      (UnpackedFloat.unpack Format.binary64 bits) := by
  have finite : unpackExponent bits ≠ -1#_ := fun same => notLargest (congrArg BitVec.toNat same)
  have large : unpackExponent bits ≠ 0#_ := fun same => notLeast (congrArg BitVec.toNat same)
  unfold UnpackedFloat.unpack
  dsimp only
  rw [if_neg finite, if_neg large, ← toNat_one_append]
  exact (rfl : (_ : ℚ) = _)

/-- What the bits of a double are read as is its value. -/
theorem hasValue_of_ofFloat {negative : Bool} {mantissa : Nat} {exponent : Int}
    (read : Binary.ofFloat x = .finite negative mantissa exponent) :
    HasValue ((if negative then -mantissa else mantissa : ℤ) * 2 ^ exponent) x.toModel.unpack := by
  let bits : BitVec Format.binary64.numBits := x.toModel.toBits.toBitVec
  have whole : bits.toNat = x.toBits.toNat := rfl
  have below : bits.toNat < 2 ^ 64 := bits.isLt
  have first := toNat_unpackSign bits
  have field := toNat_unpackExponent bits
  have fraction := toNat_unpackMantissa bits
  rw [whole] at first field fraction below
  have signed : (if negative then -mantissa else mantissa : ℤ) =
      (Sign.ofBitVec (unpackSign bits)).apply mantissa := by
    rw [sign_ofFloat read, apply_ofBitVec, first]
    by_cases signed : 2 ^ 63 ≤ x.toBits.toNat
    · rw [if_pos (decide_eq_true signed), if_neg (by omega)]
    · rw [if_neg (by simpa using signed), if_pos (by omega)]
  rw [signed]
  unfold Binary.ofFloat at read
  simp only [Nat.pow_eq] at read
  rw [← field, ← fraction] at read
  split at read
  · split at read <;> cases read
  · next notLargest =>
    split at read
    · next least =>
      obtain ⟨-, rfl, rfl⟩ := Binary.finite.inj read
      exact hasValue_unpack_subnormal least
    · next notLeast =>
      obtain ⟨-, rfl, rfl⟩ := Binary.finite.inj read
      exact hasValue_unpack_normal notLeast notLargest

/-- Zeros at the end of a double can be counted as places. -/
theorem hasValue_of_units {negative : Bool} {units lift : Nat} {exponent : Int}
    (read : Binary.ofFloat x = .finite negative (units * 2 ^ lift) exponent) :
    HasValue (((if negative then -units else units : ℤ) : ℚ) * 2 ^ (exponent + lift))
      x.toModel.unpack := by
  have value := hasValue_of_ofFloat read
  have same : ((if negative then -(units * 2 ^ lift : Nat) else (units * 2 ^ lift : Nat) : ℤ) : ℚ) *
      2 ^ exponent =
      ((if negative then -units else units : ℤ) : ℚ) * 2 ^ (exponent + lift) := by
    rw [zpow_add₀ two_ne_zero, zpow_natCast]
    cases negative <;> simp only [Bool.false_eq_true, if_true, if_false] <;> push_cast <;> ring
  rwa [same] at value

/-- A double of few digits can be added many times. -/
theorem isExact_multiple {units count : Nat} {negative : Bool} {place : Int} (least : -1074 ≤ place)
    (most : place ≤ 971) (short : units * count < 2 ^ 53) :
    IsExact (count * (((if negative then -units else units : ℤ) : ℚ) * 2 ^ place)) := by
  refine ⟨count * (if negative then -units else units : ℤ), place, ?_, least, most, ?_⟩
  · rw [Int.natAbs_mul, Int.natAbs_natCast, Nat.mul_comm]
    cases negative <;> simpa using short
  · rw [Int.cast_mul, Int.cast_natCast, mul_assoc]

end Doubles

end MarketAlerts.Number
