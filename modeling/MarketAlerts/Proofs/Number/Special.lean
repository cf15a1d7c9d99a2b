import MarketAlerts.Proofs.Number.Sign

/-!
What zeros, infinities and no numbers make of arithmetic. A zero and what is no number stay so under
sum, product, quotient and root, and never reach what is above zero. From every number, one of the
infinities is infinitely far.
-/
namespace MarketAlerts.Number

open Float.Model UnpackedFloat

/-- A zero, or no number at all. -/
def Vanishes : UnpackedFloat → Prop
  | .zero _ | .notANumber => True
  | .infinity _ | .finite .. => False

section Operations

variable {format : Format} {a b : UnpackedFloat}

theorem vanishes_of_hasValue (ha : HasValue 0 a) : Vanishes a := by
  cases a with
  | infinity | notANumber => contradiction
  | zero => trivial
  | finite sign mantissa exponent pos => exact apply_mul_zpow_ne_zero sign pos exponent ha.symm

theorem Vanishes.unpack_pack (ha : Vanishes a) :
    Vanishes (UnpackedFloat.unpack Format.binary64 (UnpackedFloat.pack Format.binary64 a)) := by
  rw [Number.unpack_pack]
  · exact ha
  · cases a <;> trivial

theorem Vanishes.add (ha : Vanishes a) (hb : Vanishes b) :
    Vanishes (UnpackedFloat.add format a b) := by
  cases a with
  | infinity | finite => contradiction
  | notANumber => trivial
  | zero s =>
    cases b with
    | infinity | finite => contradiction
    | notANumber => trivial
    | zero t => cases s <;> cases t <;> trivial

theorem Vanishes.mul (ha : Vanishes a) : Vanishes (UnpackedFloat.mul format a b) := by
  cases a with
  | infinity | finite => contradiction
  | notANumber => trivial
  | zero => cases b <;> trivial

theorem Vanishes.div (ha : Vanishes a) : Vanishes (UnpackedFloat.div format a b) := by
  cases a with
  | infinity | finite => contradiction
  | notANumber => trivial
  | zero => cases b <;> trivial

theorem Vanishes.sqrt (ha : Vanishes a) : Vanishes (UnpackedFloat.sqrt format a) := by
  cases a with
  | infinity | finite => contradiction
  | notANumber | zero => trivial

theorem vanishes_sub_notANumber : Vanishes (UnpackedFloat.sub format a .notANumber) := by
  cases a <;> trivial

theorem vanishes_div_infinity (sign : Sign) :
    Vanishes (UnpackedFloat.div format a (.infinity sign)) := by
  cases a <;> trivial

end Operations

section Doubles

variable {x y : Float}

theorem vanishes_add (hx : Vanishes x.toModel.unpack) (hy : Vanishes y.toModel.unpack) :
    Vanishes (x + y).toModel.unpack := (hx.add hy).unpack_pack

theorem vanishes_mul (hx : Vanishes x.toModel.unpack) : Vanishes (x * y).toModel.unpack :=
  hx.mul.unpack_pack

theorem vanishes_div (hx : Vanishes x.toModel.unpack) : Vanishes (x / y).toModel.unpack :=
  hx.div.unpack_pack

theorem vanishes_sqrt (hx : Vanishes x.toModel.unpack) : Vanishes x.sqrt.toModel.unpack :=
  hx.sqrt.unpack_pack

theorem vanishes_sub_of_notANumber (undefined : y.toModel.unpack = .notANumber) :
    Vanishes (x - y).toModel.unpack := by
  have difference :
      Vanishes (UnpackedFloat.sub Format.binary64 x.toModel.unpack y.toModel.unpack) := by
    rw [undefined]
    exact vanishes_sub_notANumber
  exact difference.unpack_pack

theorem vanishes_div_of_infinity {sign : Sign} (infinite : y.toModel.unpack = .infinity sign) :
    Vanishes (x / y).toModel.unpack := by
  have quotient :
      Vanishes (UnpackedFloat.div Format.binary64 x.toModel.unpack y.toModel.unpack) := by
    rw [infinite]
    exact vanishes_div_infinity sign
  exact quotient.unpack_pack

theorem not_pos_of_vanishes (hx : Vanishes x.toModel.unpack) : ¬ 0 < x := by
  intro above
  rcases pos_iff.1 above with infinite | ⟨mantissa, exponent, pos, finite⟩
  · rwa [infinite] at hx
  · rwa [finite] at hx

theorem not_le_of_vanishes (hx : Vanishes x.toModel.unpack) (above : 0 < y) : ¬ y ≤ x :=
  fun le => not_pos_of_vanishes hx (pos_of_le above le)

theorem unpack_pack_of_eq {a b : UnpackedFloat} (same : a = b) (canonical : IsCanonical b) :
    UnpackedFloat.unpack Format.binary64 (UnpackedFloat.pack Format.binary64 a) = b := by
  rw [same, unpack_pack canonical]

theorem notANumber_mul (undefined : x.toModel.unpack = .notANumber) :
    (x * y).toModel.unpack = .notANumber := by
  have product : UnpackedFloat.mul Format.binary64 x.toModel.unpack y.toModel.unpack =
      .notANumber := by
    rw [undefined]
    rfl
  exact unpack_pack_of_eq product trivial

theorem not_le_of_notANumber (undefined : x.toModel.unpack = .notANumber) : ¬ x ≤ y := by
  rw [le_iff, undefined]
  exact Bool.false_ne_true

/-- From every number, one of the two infinities is infinitely far. -/
theorem exists_far (defined : x.toModel.unpack ≠ .notANumber) :
    ∃ far : Float, (far - x).abs.toModel.unpack = .infinity .positive := by
  have far (sign : Sign) {y : Float}
      (difference : UnpackedFloat.sub Format.binary64 y.toModel.unpack x.toModel.unpack =
        .infinity sign) :
      (y - x).abs.toModel.unpack = .infinity .positive := by
    have apart : (y - x).toModel.unpack = .infinity sign := unpack_pack_of_eq difference trivial
    exact unpack_pack_of_eq (congrArg UnpackedFloat.abs apart) trivial
  have up : (1 / 0 : Float).toModel.unpack = .infinity .positive := rfl
  have down : (-1 / 0 : Float).toModel.unpack = .infinity .negative := rfl
  by_cases above : x.toModel.unpack = .infinity .positive
  · exact ⟨-1 / 0, far .negative (by rw [above, down]; rfl)⟩
  · refine ⟨1 / 0, far .positive ?_⟩
    rw [up]
    cases number : x.toModel.unpack with
    | notANumber => exact absurd number defined
    | infinity sign =>
      cases sign with
      | positive => exact absurd number above
      | negative => rfl
    | zero | finite => rfl

theorem infinite_div (hx : x.toModel.unpack = .infinity .positive)
    (hy : IsFinite .positive y.toModel.unpack) : (x / y).toModel.unpack = .infinity .positive := by
  obtain ⟨mantissa, exponent, pos, finite⟩ := hy
  have quotient : UnpackedFloat.div Format.binary64 x.toModel.unpack y.toModel.unpack =
      .infinity .positive := by
    rw [hx, finite]
    rfl
  exact unpack_pack_of_eq quotient trivial

theorem le_of_infinite (hx : x.toModel.unpack = .infinity .positive)
    (hy : IsFinite .positive y.toModel.unpack) : y ≤ x := by
  obtain ⟨mantissa, exponent, pos, finite⟩ := hy
  rw [le_iff, hx, finite]
  rfl

end Doubles

end MarketAlerts.Number
