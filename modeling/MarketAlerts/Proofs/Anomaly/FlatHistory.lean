import MarketAlerts.Proofs.Anomaly.Signals
import MarketAlerts.Proofs.Market.PairwiseSum
import MarketAlerts.Proofs.Number.Special

/-!
The statistics of a history in which the price never changes. Its mean is the price as long as a
double can hold every multiple of the price up to the sum. A mean that is the price leaves no
deviation, and without one no price is an outlier; where the sum has been rounded, a deviation can
be left that makes outliers of ordinary prices.
-/
namespace MarketAlerts

open Calendar Number

namespace PriceHistory

variable {terms : List Float} {v : ℚ}

/-- Terms are summed exactly if every sum of some of them can be held. -/
theorem hasValue_sum (each : ∀ x ∈ terms, HasValue v x.toModel.unpack)
    (exact : ∀ count ≤ terms.length, IsExact (count * v)) :
    HasValue (terms.length * v) (sum terms).toModel.unpack := by
  have parts : terms.length ≤ terms.length →
      HasValue (terms.length * v) (pairwiseSum terms).toModel.unpack := by
    refine pairwiseSum_induction
      (P := fun count x => count ≤ terms.length → HasValue (count * v) x.toModel.unpack)
      (fun {m n x y} left right fits => ?_) (fun _ => ?_) (fun x member _ => ?_)
    · have total := hasValue_add (left (by omega)) (right (by omega))
      rw [← add_mul, ← Nat.cast_add] at total
      exact total (exact _ fits)
    · rw [Nat.cast_zero, zero_mul]
      exact rfl
    · rw [Nat.cast_one, one_mul]
      exact each x member
  have whole := hasValue_add (v := 0) (x := 0.0) rfl (parts le_rfl)
  rw [zero_add] at whole
  exact whole (exact _ le_rfl)

/-- The mean of equal terms is the term where their sum is exact. -/
theorem hasValue_mean (nonempty : terms ≠ []) (few : terms.length < 2 ^ 53)
    (each : ∀ x ∈ terms, HasValue v x.toModel.unpack)
    (exact : ∀ count ≤ terms.length, IsExact (count * v)) :
    HasValue v (mean terms).toModel.unpack := by
  have pos : terms.length ≠ 0 := by simpa using nonempty
  have count : (terms.length : ℚ) ≠ 0 := Nat.cast_ne_zero.2 pos
  have quotient := hasValue_div (hasValue_sum each exact) (hasValue_ofNat few) count
  rw [mul_div_cancel_left₀ v count] at quotient
  have one := exact 1 (Nat.one_le_iff_ne_zero.2 pos)
  rw [Nat.cast_one, one_mul] at one
  exact quotient one

/-- There is no deviation where no term is apart from the mean. -/
theorem vanishes_deviation (apart : ∀ x ∈ terms, Vanishes (x - mean terms).toModel.unpack) :
    Vanishes (deviation terms).toModel.unpack := by
  have squares : ∀ y ∈ terms.map fun x => (x - mean terms) * (x - mean terms),
      Vanishes y.toModel.unpack := by
    rw [List.forall_mem_map]
    exact fun x member => vanishes_mul (apart x member)
  have total :=
    pairwiseSum_induction (P := fun _ x => Vanishes x.toModel.unpack) vanishes_add trivial squares
  exact vanishes_sqrt (vanishes_div (vanishes_add (x := 0.0) trivial total))

theorem vanishes_deviation_of_hasValue (each : ∀ x ∈ terms, HasValue v x.toModel.unpack)
    (centre : HasValue v (mean terms).toModel.unpack) :
    Vanishes (deviation terms).toModel.unpack := by
  have zero : IsExact 0 := ⟨0, 0, by decide, by decide, by decide, by simp⟩
  refine vanishes_deviation fun x member => vanishes_of_hasValue ?_
  have apart := hasValue_sub (each x member) centre
  rw [sub_self] at apart
  exact apart zero

/-- Where there is a deviation there is a mean. -/
theorem mean_ne_notANumber (above : 0 < deviation terms) :
    (mean terms).toModel.unpack ≠ .notANumber :=
  fun undefined =>
    not_pos_of_vanishes (vanishes_deviation fun _ _ => vanishes_sub_of_notANumber undefined) above

end PriceHistory

namespace Anomaly

/-- No price that is seen is an outlier. -/
def RaisesNoOutlier (points : List PricePoint) : Prop :=
  ∀ config seen news now finding, evaluate config seen news (some points) now = .ok finding →
    ¬ finding.Reports .outlier

theorem sigma_pos (config : AnomalyConfig) : 0 < config.sigma.val :=
  pos_of_le (show (0 : Float) < 0.5 by decide) config.sigma.property.1

variable {points : List PricePoint} {spread : PriceHistory.Statistics}

/-- An outlier needs a deviation, and one that is not infinite. -/
theorem raisesNoOutlier_iff (told : spread? (some points) = some spread)
    (centred : 0 < spread.deviation → spread.mean.toModel.unpack ≠ .notANumber) :
    RaisesNoOutlier points ↔ ¬ (0 < spread.deviation ∧ spread.deviation.isFinite = true) := by
  constructor
  · rintro silent ⟨above, bounded⟩
    have size := isFinite_of_pos bounded above
    obtain ⟨far, apart⟩ := exists_far (centred above)
    obtain ⟨finding, found⟩ :=
      exists_finding asking { rally with price := far } (some points) (early 0)
    refine silent _ _ _ _ _ found ((AnomalyFinding.reports_iff found).2 ⟨spread, told, above, ?_⟩)
    exact le_of_infinite (infinite_div apart size) (isFinite_of_pos (by decide) (sigma_pos asking))
  · intro unmet config seen news now finding found reported
    obtain ⟨other, same, above, reached⟩ := (AnomalyFinding.reports_iff found).1 reported
    obtain rfl := Option.some.inj (told.symm.trans same)
    refine absurd reached (not_le_of_vanishes ?_ (sigma_pos config))
    rcases pos_iff.1 above with infinite | ⟨mantissa, exponent, pos, finite⟩
    · exact vanishes_div_of_infinity infinite
    · have bounded : spread.deviation.isFinite = true :=
        isFinite_iff.2 ⟨_, by rw [finite]; exact rfl⟩
      exact absurd ⟨above, bounded⟩ unmet

theorem spread?_of_long (long : leastHistory ≤ points.length)
    (told : PriceHistory.statistics points = .ok spread) : spread? (some points) = some spread := by
  unfold spread?
  dsimp only
  rw [if_pos long, told]
  rfl

/-- In a history of one price, nothing that is seen is an outlier if and only if its deviation is
not above zero or is infinite. There is none where the mean is the price itself, and so it is where
the sum of the prices has no more digits than a double holds: a price of few digits, in a history
that is not too long. -/
theorem flat_history_raises_no_outlier {price : Float} (finite : price.isFinite = true)
    (long : leastHistory ≤ points.length) (flat : ∀ point ∈ points, (price == point.price) = true) :
    ∃ spread, PriceHistory.statistics points = .ok spread ∧
      (RaisesNoOutlier points ↔ ¬ (0 < spread.deviation ∧ spread.deviation.isFinite = true)) ∧
      ((price == spread.mean) = true → RaisesNoOutlier points) ∧
      ∀ negative (units lift : Nat) exponent,
        Binary.ofFloat price = .finite negative (units * 2 ^ lift) exponent →
        exponent + lift ≤ 971 → points.length < 2 ^ 53 → units * points.length < 2 ^ 53 →
          (price == spread.mean) = true ∧ RaisesNoOutlier points := by
  have each {v : ℚ} (value : HasValue v price.toModel.unpack) :
      ∀ x ∈ points.map (·.price), HasValue v x.toModel.unpack :=
    List.forall_mem_map.2 fun point member => (beq_iff_of_hasValue value).1 (flat point member)
  have nonempty : points ≠ [] := by
    rintro rfl
    exact absurd long (by decide)
  let spread : PriceHistory.Statistics :=
    ⟨PriceHistory.mean (points.map (·.price)), PriceHistory.deviation (points.map (·.price))⟩
  have told : PriceHistory.statistics points = .ok spread := if_neg (by simpa using nonempty)
  have silent := raisesNoOutlier_iff (spread?_of_long long told) PriceHistory.mean_ne_notANumber
  have centred (same : (price == spread.mean) = true) : RaisesNoOutlier points := by
    obtain ⟨v, value⟩ := isFinite_iff.1 finite
    have vanishes :=
      PriceHistory.vanishes_deviation_of_hasValue (each value) ((beq_iff_of_hasValue value).1 same)
    exact silent.2 fun deviates => not_pos_of_vanishes vanishes deviates.1
  refine ⟨spread, told, silent, centred, fun negative units lift exponent read most few short => ?_⟩
  have least := exponent_ofFloat_ge read
  have value := hasValue_of_units read
  have centre : (price == spread.mean) = true := by
    refine (beq_iff_of_hasValue value).2
      (PriceHistory.hasValue_mean (by simpa using nonempty) (by simpa using few)
        (each value) fun count fits => ?_)
    rw [List.length_map] at fits
    exact isExact_multiple (by omega) most ((Nat.mul_le_mul_left units fits).trans_lt short)
  exact ⟨centre, centred centre⟩

/-- The same price on 25 days. -/
def level (price : Float) : List PricePoint := .replicate 25 ⟨early 0, price, 1000⟩

/-- A price of 401 quarters: 25 of them make 10025 quarters, and no digit is lost. -/
theorem flat_history_raises_no_outlier_quarters :
    (∀ point ∈ level 100.25, ((100.25 : Float) == point.price) = true) ∧
    RaisesNoOutlier (level 100.25) := by
  have flat : ∀ point ∈ level 100.25, ((100.25 : Float) == point.price) = true := by decide +kernel
  obtain ⟨spread, -, -, -, exact⟩ :=
    flat_history_raises_no_outlier (by decide +kernel) (by decide) flat
  have read : Binary.ofFloat 100.25 = .finite false (401 * 2 ^ 44) (-46) := by decide +kernel
  exact ⟨flat, (exact false 401 44 (-46) read (by decide) (by decide) (by decide)).2⟩

/-- Not so with a price of a thousand and one tenths. The mean falls short of it by its last digit,
and a price that is 0.9 percent above it lies more than sixty million million deviations from it. -/
theorem rounded_mean_raises_outlier :
    ¬ ∀ (price : Float) points config seen news now finding, price.isFinite = true →
      leastHistory ≤ points.length → (∀ point ∈ points, (price == point.price) = true) →
      evaluate config seen news (some points) now = .ok finding → ¬ finding.Reports .outlier := by
  intro silent
  obtain ⟨finding, found⟩ :=
    exists_finding asking { rally with price := 101 } (some (level 100.1)) (early 0)
  let prices := (level 100.1).map (·.price)
  have told : spread? (some (level 100.1)) =
      some ⟨PriceHistory.mean prices, PriceHistory.deviation prices⟩ :=
    spread?_of_long (by decide) (if_neg (by decide))
  have above : 0 < PriceHistory.deviation prices := by decide +kernel
  have reached : asking.sigma.val ≤
      zScore ⟨PriceHistory.mean prices, PriceHistory.deviation prices⟩
        { rally with price := 101 } := by decide +kernel
  have flat : ∀ point ∈ level 100.1, ((100.1 : Float) == point.price) = true := by decide +kernel
  exact silent 100.1 _ _ _ _ _ _ (by decide +kernel) (by decide) flat found
    ((AnomalyFinding.reports_iff found).2 ⟨_, told, above, reached⟩)

end Anomaly

end MarketAlerts
