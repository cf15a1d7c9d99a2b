import MarketAlerts.Calendar.Span
import MarketAlerts.Proofs.Number.Exact

/-!
Spans of doubles that are not below zero. The one such double that bears a sign is the negative
zero. A million million minutes still are a span.
-/
namespace MarketAlerts.Number

open Float.Model UnpackedFloat

variable {bits : BitVec Format.binary64.numBits}

/-- Bits that are not below zero bear no sign, unless they are those of the negative zero. -/
theorem toNat_le_of_zero_le
    (h : (UnpackedFloat.zero .positive).le (UnpackedFloat.unpack Format.binary64 bits) = true) :
    bits.toNat ≤ 2 ^ 63 := by
  have bound : bits.toNat < 2 ^ 64 := bits.isLt
  have sign := toNat_unpackSign bits
  have exponent := toNat_unpackExponent bits
  have mantissa := toNat_unpackMantissa bits
  by_cases positive : unpackSign bits = 0#1
  · have isZero : (unpackSign bits).toNat = 0 := by rw [positive]; rfl
    omega
  · -- With a sign the number is below zero unless all its other bits are zero.
    have negative : Sign.ofBitVec (unpackSign bits) = .negative := if_neg positive
    unfold UnpackedFloat.unpack at h
    dsimp only at h
    rw [negative] at h
    split at h
    · split at h <;> exact absurd h (by decide)
    · split at h
      · next low =>
        split at h
        · next empty =>
          have noExponent : (unpackExponent bits).toNat = 0 := by rw [low]; rfl
          have noMantissa : (unpackMantissa bits).toNat = 0 := by rw [empty]; rfl
          omega
        · exact absurd h (by simp [UnpackedFloat.le, UnpackedFloat.compare])
      · exact absurd h (by simp [UnpackedFloat.le, UnpackedFloat.compare])

/-- Without a sign, the exponent of the smaller double is the smaller one. -/
theorem exponent_le_of_le (unsigned : bits.toNat < 2 ^ 63) {mantissa : Nat} {exponent : Int}
    {pos : 0 < mantissa} (normal : -1075 ≤ exponent)
    (h : (UnpackedFloat.unpack Format.binary64 bits).le (.finite .positive mantissa exponent pos) =
    true) : (bits.toNat / 2 ^ 52 % 2 ^ 11 : Nat) ≤ exponent + 1075 := by
  have positive : Sign.ofBitVec (unpackSign bits) = .positive := by
    refine if_pos (BitVec.eq_of_toNat_eq ?_)
    rw [toNat_unpackSign, Nat.div_eq_of_lt unsigned]
    rfl
  rw [← toNat_unpackExponent]
  unfold UnpackedFloat.unpack at h
  dsimp only at h
  rw [positive] at h
  split at h
  · split at h <;> exact absurd h (by simp [UnpackedFloat.le, UnpackedFloat.compare])
  · split at h
    · next low =>
      have isZero : (unpackExponent bits).toNat = 0 := by rw [low]; rfl
      omega
    · -- Two numbers of the normal kind are compared by their exponents first.
      simp only [UnpackedFloat.le, UnpackedFloat.compare, Option.any_some,
        Ordering.isLE_then_iff_and] at h
      have ordered : ((unpackExponent bits).toNat : Int) - (1023 + 52) ≤ exponent :=
        Int.isLE_compare.1 h.1
      omega

theorem eq_of_toBits_eq {x y : Float} (h : x.toBits.toNat = y.toBits.toNat) : x = y := by
  have bits : x.toModel.toBits = y.toModel.toBits := UInt64.toNat_inj.1 h
  obtain ⟨a, _⟩ := x
  obtain ⟨b, _⟩ := y
  cases bits
  rfl

/-- A double that is not below zero bears no sign, unless it is the negative zero. -/
theorem lt_or_eq_of_nonneg {x : Float} (h : 0 ≤ x) : x.toBits.toNat < 2 ^ 63 ∨ x = -0.0 := by
  have le : (0 : Float).toModel.unpack.le x.toModel.unpack = true := of_decide_eq_true h
  have bits : x.toBits.toNat ≤ 2 ^ 63 := toNat_le_of_zero_le le
  rcases Nat.lt_or_eq_of_le bits with below | signed
  · exact .inl below
  · have zero : (-0.0 : Float).toBits.toNat = 2 ^ 63 := by decide +kernel
    exact .inr (eq_of_toBits_eq (signed.trans zero.symm))

theorem unpack_trillion : (1e12 : Float).toModel.unpack =
    .finite .positive 8192000000000000 (-13) (by decide) := rfl

/-- Up to a million million, the exponent of a double is at most -13. -/
theorem field_le_of_le {x : Float} (unsigned : x.toBits.toNat < 2 ^ 63) (h : x ≤ 1e12) :
    x.toBits.toNat / 2 ^ 52 % 2 ^ 11 ≤ 1062 := by
  have le : x.toModel.unpack.le (1e12 : Float).toModel.unpack = true := of_decide_eq_true h
  rw [unpack_trillion] at le
  exact Int.ofNat_le.1 (exponent_le_of_le unsigned (by decide) le)

theorem floor_ofBinary_lt {mantissa : Nat} {exponent : Int} (bound : mantissa < 2 ^ 53)
    (small : exponent ≤ -13) : (Ratio.ofBinary mantissa exponent).floor < 2 ^ 40 := by
  have whole : exponent.toNat = 0 := by omega
  have wide : 2 ^ 53 ≤ 2 ^ (-exponent).toNat * 2 ^ 40 := by
    rw [← Nat.pow_add]
    exact Nat.pow_le_pow_right (by decide) (by omega)
  unfold Ratio.floor Ratio.ofBinary
  rw [whole]
  refine Nat.div_lt_of_lt_mul (Nat.lt_of_lt_of_le ?_ wide)
  rwa [Nat.pow_eq, Nat.pow_zero, Nat.mul_one]

/-- Up to a million million, a double is finite, and its whole part has at most 40 digits of two. -/
theorem exists_ofFloat {x : Float} (nonneg : 0 ≤ x) (h : x ≤ 1e12) :
    ∃ negative mantissa exponent, Binary.ofFloat x = .finite negative mantissa exponent ∧
      (Ratio.ofBinary mantissa exponent).floor < 2 ^ 40 := by
  rcases lt_or_eq_of_nonneg nonneg with unsigned | rfl
  · have field := field_le_of_le unsigned h
    have fraction : x.toBits.toNat % 2 ^ 52 < 2 ^ 52 := Nat.mod_lt _ (by decide)
    unfold Binary.ofFloat
    simp only [Nat.pow_eq]
    rw [if_neg (by omega)]
    split
    · exact ⟨_, _, _, rfl, floor_ofBinary_lt (by omega) (by decide)⟩
    · exact ⟨_, _, _, rfl, floor_ofBinary_lt (by omega) (by omega)⟩
  · have zero : Binary.ofFloat (-0.0) = .finite true 0 (-1074) := by decide +kernel
    exact ⟨true, 0, -1074, zero, floor_ofBinary_lt (by decide) (by decide)⟩

end MarketAlerts.Number

namespace MarketAlerts.Calendar

theorem checkSpan_eq_ok {micros span : Int} (h : checkSpan micros = .ok span) : span = micros := by
  unfold checkSpan at h
  dsimp only at h
  split at h
  · cases h
  · split at h
    · cases h
    · cases h
      rfl

theorem checkSpan_of_natAbs_le {micros : Int} (short : micros.natAbs ≤ 999999999 * day) :
    checkSpan micros = .ok micros := by
  have unit : day = 86400000000 := by decide
  unfold checkSpan
  dsimp only
  rw [Int.fdiv_eq_ediv_of_nonneg _ (Int.natCast_nonneg day)]
  rw [unit] at short ⊢
  rw [if_neg (by omega), if_neg (by omega)]

/-- A million million minutes, and any fewer of them, make a span. -/
theorem exists_minutes {amount : Float} (nonneg : 0 ≤ amount) (short : amount ≤ 1e12) :
    ∃ pause, minutes amount = .ok pause := by
  obtain ⟨negative, mantissa, exponent, finite, whole⟩ := Number.exists_ofFloat nonneg short
  unfold minutes span
  rw [finite]
  dsimp only
  generalize (Number.Ratio.ofBinary mantissa exponent).floor = floor at whole ⊢
  have fraction : fractionMicros minute floor amount.abs ≤ minute := Nat.min_le_left _ _
  have size : floor * minute + fractionMicros minute floor amount.abs ≤ 999999999 * day := by
    have units : minute = 60000000 ∧ day = 86400000000 := by decide
    rw [units.1] at fraction ⊢
    omega
  refine ⟨_, checkSpan_of_natAbs_le ?_⟩
  split <;> omega

/-- A pause that is not below zero never is a step back. -/
theorem minutes_nonneg {amount : Float} (h : 0 ≤ amount) {pause : Int}
    (ok : minutes amount = .ok pause) : 0 ≤ pause := by
  unfold minutes span at ok
  split at ok
  · cases ok
  · cases ok
  · next negative mantissa exponent finite =>
    have micros := checkSpan_eq_ok ok
    rcases Number.lt_or_eq_of_nonneg h with below | rfl
    · have positive : negative = false := by
        rw [Number.sign_ofFloat finite]
        simpa using below
      rw [micros, positive]
      exact Int.natCast_nonneg _
    · have zero : Number.Binary.ofFloat (-0.0) = .finite true 0 (-1074) := by decide +kernel
      rw [zero] at finite
      obtain ⟨rfl, rfl, _⟩ := Number.Binary.finite.inj finite
      have whole : (Number.Ratio.ofBinary 0 exponent).floor = 0 := by
        simp [Number.Ratio.ofBinary, Number.Ratio.floor]
      have fraction : fractionMicros minute 0 (-0.0 : Float).abs = 0 := by decide +kernel
      rw [whole, fraction] at micros
      rw [micros]
      decide

end MarketAlerts.Calendar
