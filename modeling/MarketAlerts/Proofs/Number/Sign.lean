import MarketAlerts.Number.Decimal
import MarketAlerts.Proofs.Number.Exact

/-!
The sign of a double through arithmetic and rounding. What is packed keeps its sign, a product or
quotient with a finite double has the sign that the two signs make, and rounding to decimal places
changes no sign. How a double lies to zero is told by its sign and by its kind.
-/
namespace MarketAlerts.Number

open Float.Model UnpackedFloat

/-- A number that has a sign, which may be a zero or an infinity. -/
def HasSign (sign : Sign) : UnpackedFloat → Prop
  | .infinity s | .zero s | .finite s _ _ _ => s = sign
  | .notANumber => False

section Packed

variable {format : Format} {sign : Sign} {number : UnpackedFloat}

/-- The bits of what is no number are those of an infinity, but for the mantissa. -/
theorem hasSign_unpack_iff {bits : BitVec format.numBits} :
    HasSign sign (UnpackedFloat.unpack format bits) ↔ Sign.ofBitVec (unpackSign bits) = sign ∧
      (unpackExponent bits = -1#_ → unpackMantissa bits = 0#_) := by
  unfold UnpackedFloat.unpack
  dsimp only
  split
  · next largest =>
    split
    · next empty => simp [HasSign, empty]
    · next filled => simp [HasSign, filled, largest]
  · next smaller =>
    have finite : Sign.ofBitVec (unpackSign bits) = sign ↔ Sign.ofBitVec (unpackSign bits) = sign ∧
        (unpackExponent bits = -1#_ → unpackMantissa bits = 0#_) :=
      ⟨fun same => ⟨same, fun largest => absurd largest smaller⟩, And.left⟩
    split
    · split <;> exact finite
    · exact finite

theorem hasSign_packComponents {exponent : BitVec format.exponentBits}
    {mantissa : BitVec format.mantissaBitsWithoutImplicit}
    (empty : exponent = -1#_ → mantissa = 0#_) :
    HasSign sign (UnpackedFloat.unpack format (packComponents format sign exponent mantissa)) := by
  rw [hasSign_unpack_iff, unpackSign_packComponents, ofBitVec_toBitVec]
  simpa using empty

theorem HasSign.unpack_pack (h : HasSign sign number) :
    HasSign sign (UnpackedFloat.unpack format (UnpackedFloat.pack format number)) := by
  cases number with
  | notANumber => contradiction
  | infinity s =>
    obtain rfl : s = sign := h
    exact hasSign_packComponents fun _ => rfl
  | zero s =>
    obtain rfl : s = sign := h
    exact hasSign_packComponents fun _ => rfl
  | finite s mantissa exponent pos =>
    obtain rfl : s = sign := h
    unfold UnpackedFloat.pack
    dsimp only
    split
    · exact hasSign_packComponents fun _ => rfl
    · next low =>
      split
      · refine hasSign_packComponents fun largest => ?_
        have field := congrArg BitVec.toNat largest
        rw [BitVec.neg_one_eq_allOnes, BitVec.toNat_allOnes, BitVec.toNat_ofNat,
          Nat.mod_eq_of_lt (by omega)] at field
        omega
      · refine hasSign_packComponents fun largest => ?_
        have field := congrArg BitVec.toNat largest
        have wide := Nat.one_lt_two_pow (Nat.pos_iff_ne_zero.1 format.he)
        rw [BitVec.neg_one_eq_allOnes, BitVec.toNat_allOnes, BitVec.toNat_ofNat,
          Nat.zero_mod] at field
        omega

end Packed

section Operations

variable {format : Format} {s t : Sign} {a b : UnpackedFloat}

theorem hasSign_roundWithAccuracy (mantissa : Nat) (exponent : Int) (accuracy : Accuracy) :
    HasSign s (roundWithAccuracy format s mantissa exponent accuracy) := by
  unfold roundWithAccuracy
  dsimp only
  split <;> exact rfl

/-- A number that is neither zero nor infinite. -/
def IsFinite (sign : Sign) (number : UnpackedFloat) : Prop :=
  ∃ mantissa exponent pos, number = .finite sign mantissa exponent pos

@[simp] theorem isFinite_finite_iff {s t : Sign} {mantissa : Nat} {exponent : Int}
    {pos : 0 < mantissa} : IsFinite s (.finite t mantissa exponent pos) ↔ t = s :=
  ⟨fun ⟨_, _, _, same⟩ => (UnpackedFloat.finite.inj same).1, fun same =>
    same ▸ ⟨mantissa, exponent, pos, rfl⟩⟩

/-- A number whose value is not zero has the sign of its value. -/
theorem HasValue.isFinite {v : ℚ} (ha : HasValue v a) (nonzero : v ≠ 0) :
    IsFinite (if 0 < v then .positive else .negative) a := by
  cases a with
  | infinity | notANumber => contradiction
  | zero sign => exact absurd ha nonzero
  | finite sign mantissa exponent pos =>
    have value : v = sign.apply mantissa * 2 ^ exponent := ha
    have size : (0 : ℚ) < mantissa * 2 ^ exponent := by positivity
    have signed : (if 0 < v then Sign.positive else .negative) = sign := by
      cases sign with
      | positive => exact if_pos (value ▸ size)
      | negative =>
        rw [Sign.apply, Int.cast_neg, neg_mul] at value
        exact if_neg (by rw [value]; exact not_lt.2 (neg_nonpos.2 size.le))
    exact ⟨mantissa, exponent, pos, by rw [signed]⟩

theorem HasSign.mul (ha : HasSign s a) (hb : IsFinite t b) :
    HasSign (s * t) (UnpackedFloat.mul format a b) := by
  obtain ⟨mantissa, exponent, pos, rfl⟩ := hb
  cases a with
  | notANumber => contradiction
  | infinity sign | zero sign =>
    obtain rfl : sign = s := ha
    rfl
  | finite sign =>
    obtain rfl : sign = s := ha
    exact hasSign_roundWithAccuracy _ _ _

theorem HasSign.div (ha : HasSign s a) (hb : IsFinite t b) :
    HasSign (s / t) (UnpackedFloat.div format a b) := by
  obtain ⟨mantissa, exponent, pos, rfl⟩ := hb
  cases a with
  | notANumber => contradiction
  | infinity sign | zero sign =>
    obtain rfl : sign = s := ha
    rfl
  | finite sign =>
    obtain rfl : sign = s := ha
    exact hasSign_roundWithAccuracy _ _ _

theorem HasSign.neg (h : HasSign s a) : HasSign (-s) (UnpackedFloat.neg a) := by
  cases a with
  | notANumber => contradiction
  | infinity sign | zero sign | finite sign =>
    obtain rfl : sign = s := h
    rfl

theorem hasSign_ofNat (n : Nat) : HasSign .positive (UnpackedFloat.ofNat format n) := by
  unfold UnpackedFloat.ofNat UnpackedFloat.ofInt UnpackedFloat.normalize
  split
  · next below => exact absurd (Int.compare_eq_lt.1 below) (by omega)
  · rfl
  · exact hasSign_roundWithAccuracy _ _ _

theorem hasSign_ofScientific (n : Nat) (power : Int) :
    HasSign .positive (UnpackedFloat.ofScientific format n power) := by
  unfold UnpackedFloat.ofScientific
  split
  · rfl
  split
  · rfl
  split
  · rfl
  split <;> exact hasSign_roundWithAccuracy _ _ _

/-- How a number lies to zero is told by its sign. -/
theorem HasSign.zero_le (h : HasSign .positive a) : (UnpackedFloat.zero .positive).le a = true := by
  cases a with
  | notANumber => contradiction
  | infinity sign | zero sign | finite sign =>
    obtain rfl : sign = .positive := h
    rfl

theorem HasSign.le_zero (h : HasSign .negative a) : a.le (UnpackedFloat.zero .positive) = true := by
  cases a with
  | notANumber => contradiction
  | infinity sign | zero sign | finite sign =>
    obtain rfl : sign = .negative := h
    rfl

end Operations

section Order

variable {x y : Float}

theorem lt_iff : x < y ↔ x.toModel.unpack.lt y.toModel.unpack = true :=
  ⟨of_decide_eq_true, decide_eq_true⟩

theorem le_iff : x ≤ y ↔ x.toModel.unpack.le y.toModel.unpack = true :=
  ⟨of_decide_eq_true, decide_eq_true⟩

/-- Above zero are the numbers without a sign but the zero itself, and one of them is infinite. -/
theorem pos_iff : 0 < x ↔ x.toModel.unpack = .infinity .positive ∨
    IsFinite .positive x.toModel.unpack := by
  rw [lt_iff]
  show (UnpackedFloat.zero .positive).lt x.toModel.unpack = true ↔ _
  cases x.toModel.unpack with
  | notANumber | zero => simp [UnpackedFloat.lt, UnpackedFloat.compare, IsFinite]
  | infinity s => cases s <;> simp [UnpackedFloat.lt, UnpackedFloat.compare, IsFinite]
  | finite s => cases s <;> simp [UnpackedFloat.lt, UnpackedFloat.compare]

theorem isFinite_of_pos (finite : x.isFinite = true) (above : 0 < x) :
    IsFinite .positive x.toModel.unpack := by
  have bounded : x.toModel.unpack.isFinite = true := finite
  refine (pos_iff.1 above).resolve_left fun infinite => ?_
  rw [infinite] at bounded
  contradiction

theorem pos_of_le (above : 0 < x) (le : x ≤ y) : 0 < y := by
  rw [le_iff] at le
  rw [pos_iff]
  rcases pos_iff.1 above with infinite | ⟨mantissa, exponent, pos, finite⟩
  · rw [infinite] at le
    revert le
    cases y.toModel.unpack with
    | infinity s =>
      cases s with
      | positive => exact fun _ => .inl rfl
      | negative => exact fun le => absurd le (by decide)
    | _ => simp [UnpackedFloat.le, UnpackedFloat.compare]
  · rw [finite] at le
    revert le
    cases y.toModel.unpack with
    | notANumber | zero => simp [UnpackedFloat.le, UnpackedFloat.compare]
    | infinity s | finite s => cases s <;> simp [UnpackedFloat.le, UnpackedFloat.compare]

theorem isFinite_of_le (above : 0 < x) (le : x ≤ y)
    (bounded : IsFinite .positive y.toModel.unpack) : IsFinite .positive x.toModel.unpack := by
  refine (pos_iff.1 above).resolve_left fun infinite => ?_
  obtain ⟨mantissa, exponent, pos, finite⟩ := bounded
  rw [le_iff, infinite, finite] at le
  exact Bool.false_ne_true le

theorem neg_iff : x < 0 ↔ x.toModel.unpack = .infinity .negative ∨
    IsFinite .negative x.toModel.unpack := by
  rw [lt_iff]
  show x.toModel.unpack.lt (UnpackedFloat.zero .positive) = true ↔ _
  cases x.toModel.unpack with
  | notANumber | zero => simp [UnpackedFloat.lt, UnpackedFloat.compare, IsFinite]
  | infinity s => cases s <;> simp [UnpackedFloat.lt, UnpackedFloat.compare, IsFinite]
  | finite s => cases s <;> simp [UnpackedFloat.lt, UnpackedFloat.compare]

theorem hasSign_of_neg (below : x < 0) : HasSign .negative x.toModel.unpack := by
  rcases neg_iff.1 below with infinite | ⟨mantissa, exponent, pos, finite⟩
  · rw [infinite]
    exact rfl
  · rw [finite]
    exact rfl

theorem beq_zero_iff : (x == 0) = true ↔ ∃ sign, x.toModel.unpack = .zero sign := by
  show x.toModel.unpack.beq (UnpackedFloat.zero .positive) = true ↔ _
  cases x.toModel.unpack with
  | notANumber | zero => simp [UnpackedFloat.beq, UnpackedFloat.compare]
  | infinity s | finite s => cases s <;> simp [UnpackedFloat.beq, UnpackedFloat.compare]

theorem le_zero_iff_beq (nonneg : 0 ≤ x) : x ≤ 0 ↔ (x == 0) = true := by
  rw [le_iff, beq_zero_iff]
  rw [le_iff] at nonneg
  revert nonneg
  show (UnpackedFloat.zero .positive).le x.toModel.unpack = true →
    (x.toModel.unpack.le (UnpackedFloat.zero .positive) = true ↔ _)
  cases x.toModel.unpack with
  | notANumber | zero => simp [UnpackedFloat.le, UnpackedFloat.compare]
  | infinity s | finite s => cases s <;> simp [UnpackedFloat.le, UnpackedFloat.compare]

/-- What is not zero lies on one side of it, unless it is no number. -/
theorem bne_zero_iff : (x != 0) = true ↔ 0 < x ∨ x < 0 ∨ x.toModel.unpack = .notANumber := by
  have told : (x != 0) = true ↔ ¬ ∃ sign, x.toModel.unpack = .zero sign := by
    rw [← beq_zero_iff, Bool.not_eq_true, ← Bool.not_eq_true']
    exact Iff.rfl
  rw [told, pos_iff, neg_iff]
  cases x.toModel.unpack with
  | notANumber | zero => simp [IsFinite]
  | infinity s | finite s => cases s <;> simp

theorem le_of_signs (hx : HasSign .negative x.toModel.unpack) (above : 0 ≤ y) : x ≤ y := by
  rw [le_iff] at above ⊢
  revert hx above
  show _ → (UnpackedFloat.zero .positive).le y.toModel.unpack = true → _
  cases x.toModel.unpack with
  | notANumber => exact False.elim
  | infinity s | zero s | finite s =>
    rintro rfl
    cases y.toModel.unpack with
    | notANumber | zero => simp [UnpackedFloat.le, UnpackedFloat.compare]
    | infinity t =>
      cases t with
      | positive => exact fun _ => rfl
      | negative => exact fun order => absurd order (by decide)
    | finite t => cases t <;> simp [UnpackedFloat.le, UnpackedFloat.compare]

theorem nonneg_of_hasSign (h : HasSign .positive x.toModel.unpack) : 0 ≤ x := le_iff.2 h.zero_le

theorem nonpos_of_hasSign (h : HasSign .negative x.toModel.unpack) : x ≤ 0 := le_iff.2 h.le_zero

end Order

section Doubles

open Float

variable {s t : Sign} {x y : Float}

theorem hasSign_div (hx : HasSign s x.toModel.unpack) (hy : IsFinite t y.toModel.unpack) :
    HasSign (s / t) (x / y).toModel.unpack := (hx.div hy).unpack_pack

theorem hasSign_mul (hx : HasSign s x.toModel.unpack) (hy : IsFinite t y.toModel.unpack) :
    HasSign (s * t) (x * y).toModel.unpack := (hx.mul hy).unpack_pack

theorem hasSign_neg (hx : HasSign s x.toModel.unpack) : HasSign (-s) (-x).toModel.unpack :=
  hx.neg.unpack_pack

theorem hasSign_toFloat (n : UInt64) : HasSign .positive n.toFloat.toModel.unpack :=
  (hasSign_ofNat _).unpack_pack

theorem power_bounds : ∀ place (few : place < exactlyRepresentablePowersOfTen.size),
    exactlyRepresentablePowersOfTen[place].isFinite = true ∧
    0 < exactlyRepresentablePowersOfTen[place] := by
  decide +kernel

/-- A number that is written without a sign has none. -/
theorem hasSign_written (digits : Nat) (down : Bool) (places : Nat) :
    HasSign .positive (Float.ofScientific digits down places).toModel.unpack := by
  unfold Float.ofScientific
  split
  · next few =>
    obtain ⟨finite, above⟩ := power_bounds _ (Nat.lt_succ_of_le few.2)
    have power := isFinite_of_pos finite above
    cases down with
    | false => exact hasSign_mul (hasSign_toFloat _) power
    | true => exact hasSign_div (hasSign_toFloat _) power
  · exact (hasSign_ofScientific digits _).unpack_pack

theorem isFinite_ofInt_of_pos {n : Int} (pos : 0 < n) (small : n < 2 ^ 53) :
    IsFinite .positive (Float.ofInt n).toModel.unpack := by
  obtain ⟨n, rfl⟩ := Int.eq_ofNat_of_zero_le (Int.le_of_lt pos)
  have above : (0 : ℚ) < n := Nat.cast_pos.2 (Int.natCast_pos.1 pos)
  have finite := (hasValue_ofNat (n := n) (by omega)).isFinite above.ne'
  rwa [if_pos above] at finite

theorem isFinite_ofInt_of_neg {n : Int} (neg : n < 0) (small : -2 ^ 53 < n) :
    IsFinite .negative (Float.ofInt n).toModel.unpack := by
  obtain ⟨n, rfl⟩ := Int.eq_negSucc_of_lt_zero neg
  have below : -((n + 1 : Nat) : ℚ) < 0 := neg_lt_zero.2 (Nat.cast_pos.2 (Nat.succ_pos n))
  have finite := (hasValue_neg (hasValue_ofNat (n := n + 1) (by omega))).isFinite below.ne
  rwa [if_neg below.le.not_gt] at finite

theorem HasSign.eq_of_toBits (h : HasSign s x.toModel.unpack) :
    s = if 2 ^ 63 ≤ x.toBits.toNat then .negative else .positive := by
  let bits : BitVec Format.binary64.numBits := x.toModel.toBits.toBitVec
  have whole : bits.toNat = x.toBits.toNat := rfl
  have below : bits.toNat < 2 ^ 64 := bits.isLt
  have first := toNat_unpackSign bits
  have told : Sign.ofBitVec (unpackSign bits) = s := (hasSign_unpack_iff.1 h).1
  rw [← told]
  by_cases signed : 2 ^ 63 ≤ x.toBits.toNat
  · rw [if_pos signed]
    refine if_neg fun unsigned => ?_
    rw [unsigned, BitVec.toNat_ofNat] at first
    omega
  · rw [if_neg signed]
    refine if_pos (BitVec.eq_of_toNat_eq ?_)
    rw [first, BitVec.toNat_ofNat]
    omega

/-- Rounding to places keeps the sign, even where nothing but a zero is left. -/
theorem hasSign_roundPlaces (h : HasSign s x.toModel.unpack) (places : Nat) :
    HasSign s (roundPlaces places x).toModel.unpack := by
  unfold roundPlaces
  split
  · next negative mantissa exponent finite =>
    have size := hasSign_written ((Ratio.ofBinary mantissa exponent).scale places).round true places
    rw [h.eq_of_toBits, sign_ofFloat finite]
    by_cases signed : 2 ^ 63 ≤ x.toBits.toNat
    · rw [if_pos signed, ofUnits, decide_eq_true signed]
      exact hasSign_neg size
    · rw [if_neg signed, ofUnits, decide_eq_false signed]
      exact size
  · exact h

end Doubles

end MarketAlerts.Number
