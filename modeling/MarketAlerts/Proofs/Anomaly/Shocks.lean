import MarketAlerts.Proofs.Anomaly.Signals
import MarketAlerts.Proofs.Number.Special
import MarketAlerts.Rule.Condition

/-!
Price shocks and volume shocks at their edges. A price shock is what a rule on the price change
calls one, but for a previous close of zero, which is no change to the detector and no value to the
rule. A volume shock needs an average volume above zero; a negative average turns the comparison
round.
-/
namespace MarketAlerts

open Calendar Number

namespace Anomaly

variable {config : AnomalyConfig} {seen : Observation} {history : Option (List PricePoint)}
  {news : Option (Coverage Float)} {now : Timestamp} {finding : AnomalyFinding}

section PriceMove

/-- The rule that holds where the price has changed by the threshold of a config. -/
def moveRule (config : AnomalyConfig) (id : String) (baseline : Option Float) : Condition :=
  ⟨id, .known .priceChange, .known .percentageChange, config.priceChange.val, baseline⟩

theorem matched_moveRule {id : String} {baseline : Option Float} {analyzer : Analyzer Float}
    {told : Option (Coverage Float)} :
    ((moveRule config id baseline).judge analyzer seen told).matched = true ↔
      ∃ move, seen.priceChange? = some move ∧ config.priceChange.val ≤ move.abs := by
  unfold moveRule Condition.judge
  simp only [Field.value?]
  cases seen.priceChange? with
  | none => simp [Condition.judgeValue]
  | some move =>
    show decide (config.priceChange.val ≤ move.abs) = true ↔ _
    rw [decide_eq_true_iff]
    simp

/-- A threshold is not below zero, so that no change reaches it only if it is zero. -/
theorem priceShock_of_no_change (change : seen.priceChange? = none) :
    PriceShock config seen ↔ (config.priceChange.val == 0) = true := by
  have move : (priceMove seen).abs = 0 := by
    rw [priceMove, change]
    rfl
  rw [PriceShock, move]
  exact le_zero_iff_beq config.priceChange.property.1

/-- Away from a previous close of zero, the detector reports a price shock if and only if the rule
holds. At a previous close of zero the rule never holds, and a price shock is reported if and only
if the threshold is zero. -/
theorem price_shock_iff_rule (analyzer : Analyzer Float) (id : String) (baseline : Option Float)
    (told : Option (Coverage Float)) (found : evaluate config seen news history now = .ok finding) :
    ((seen.previousClose == 0) = false →
      (finding.Reports .price ↔ ((moveRule config id baseline).judge analyzer seen told).matched =
        true)) ∧
    ((seen.previousClose == 0) = true →
      ((moveRule config id baseline).judge analyzer seen told).matched = false ∧
      (finding.Reports .price ↔ (config.priceChange.val == 0) = true)) := by
  have shock : finding.Reports .price ↔ PriceShock config seen := AnomalyFinding.reports_iff found
  rw [shock, ← Bool.not_eq_true ((moveRule config id baseline).judge analyzer seen told).matched,
    matched_moveRule]
  refine ⟨fun other => ?_, fun zero => ?_⟩
  · have change :
        seen.priceChange? = some ((seen.price - seen.previousClose) / seen.previousClose * 100) :=
      if_neg (by rw [other]; decide)
    simp [PriceShock, priceMove, change]
  · have change : seen.priceChange? = none := if_pos zero
    exact ⟨by simp [change], priceShock_of_no_change change⟩

/-- A rise by half is a price shock, and a price after a close of zero is none. -/
theorem price_shock_iff_rule_rally :
    (∃ finding, evaluate asking rally none none (early 0) = .ok finding ∧ finding.Reports .price) ∧
    ∃ finding, evaluate asking { rally with previousClose := 0 } none none (early 0) = .ok finding ∧
      ¬ finding.Reports .price := by
  constructor
  · obtain ⟨finding, found⟩ := exists_finding asking rally none (early 0)
    obtain ⟨agree, -⟩ := price_shock_iff_rule (.ofKeywords none none 0.1) "move" none none found
    have change : rally.priceChange? = some 50 := by decide +kernel
    exact ⟨finding, found, (agree (by decide)).2 (matched_moveRule.2 ⟨50, change, by decide⟩)⟩
  · obtain ⟨finding, found⟩ :=
      exists_finding asking { rally with previousClose := 0 } none (early 0)
    obtain ⟨-, edge⟩ := price_shock_iff_rule (.ofKeywords none none 0.1) "move" none none found
    exact ⟨finding, found, fun reported => absurd ((edge (by decide)).2.1 reported) (by decide)⟩

/-- A previous close of zero is reported as a price shock where the threshold is zero, and no rule
holds there. -/
theorem zero_close_is_price_shock :
    ¬ ∀ config seen history news now finding analyzer id baseline told,
      evaluate config seen news history now = .ok finding →
        (finding.Reports .price ↔ ((moveRule config id baseline).judge analyzer seen told).matched =
          true) := by
  intro agree
  let config : AnomalyConfig := { asking with priceChange := ⟨0, by decide⟩ }
  let seen : Observation := { rally with previousClose := 0 }
  obtain ⟨finding, found⟩ := exists_finding config seen none (early 0)
  have change : seen.priceChange? = none := if_pos (by decide)
  have shock : finding.Reports .price :=
    (AnomalyFinding.reports_iff found).2 ((priceShock_of_no_change change).2 (by decide))
  have matched := (agree _ _ _ _ _ _ (.ofKeywords none none 0.1) "move" none none found).1 shock
  obtain ⟨move, told, -⟩ := matched_moveRule.1 matched
  rw [change] at told
  contradiction

end PriceMove

section Volume

/-- The multiplier is one at least, and not infinite. -/
theorem isFinite_volumeSpike (config : AnomalyConfig) :
    IsFinite .positive config.volumeSpike.val.toModel.unpack := by
  obtain ⟨least, most⟩ := config.volumeSpike.property
  have hundred : IsFinite .positive (100 : Float).toModel.unpack :=
    isFinite_of_pos (by decide) (by decide)
  exact isFinite_of_le (pos_of_le (show (0 : Float) < 1 by decide) least) most hundred

theorem volumeShock_iff : VolumeShock config seen ↔
    ∃ usual, seen.averageVolume = some usual ∧ (usual != 0) = true ∧
    usual * config.volumeSpike.val ≤ seen.volume := by
  unfold VolumeShock Observation.usualVolume?
  simp only [Option.filter_eq_some_iff, and_assoc]

/-- As long as the average volume is not below zero, a volume shock is reported only for one above
zero; without one above zero an anomaly is detected by its price or as an outlier. With an average
below zero, which multiplied is further below, every volume that is not below zero is reported as a
shock. -/
theorem volume_shock_needs_average (found : evaluate config seen news history now = .ok finding) :
    ((∀ usual, seen.averageVolume = some usual → ¬ usual < 0) →
      (finding.Reports .volume ↔ ∃ usual, seen.averageVolume = some usual ∧ 0 < usual ∧
        usual * config.volumeSpike.val ≤ seen.volume)) ∧
    ((∀ usual, seen.averageVolume = some usual → ¬ usual < 0 ∧ ¬ 0 < usual) →
      (finding.detected = true ↔ finding.Reports .price ∨ finding.Reports .outlier)) ∧
    ∀ usual, seen.averageVolume = some usual → usual < 0 →
      (finding.Reports .volume ↔ usual * config.volumeSpike.val ≤ seen.volume) ∧
      (0 ≤ seen.volume → finding.Reports .volume) := by
  have shock : finding.Reports .volume ↔ VolumeShock config seen := AnomalyFinding.reports_iff found
  rw [volumeShock_iff] at shock
  have regular (ordered : ∀ usual, seen.averageVolume = some usual → ¬ usual < 0) :
      finding.Reports .volume ↔ ∃ usual, seen.averageVolume = some usual ∧ 0 < usual ∧
        usual * config.volumeSpike.val ≤ seen.volume := by
    rw [shock]
    refine exists_congr fun usual => and_congr_right fun given => and_congr_left fun reached => ?_
    have defined : usual.toModel.unpack ≠ .notANumber :=
      fun undefined => not_le_of_notANumber (notANumber_mul undefined) reached
    rw [bne_zero_iff]
    simp [ordered usual given, defined]
  refine ⟨regular, fun idle => ?_, fun usual given below => ?_⟩
  · have silent : ¬ finding.Reports .volume := by
      rw [regular fun usual given => (idle usual given).1]
      rintro ⟨usual, given, above, -⟩
      exact (idle usual given).2 above
    rw [AnomalyFinding.detected_iff found]
    simp [silent]
  · have reported : finding.Reports .volume ↔ usual * config.volumeSpike.val ≤ seen.volume := by
      rw [shock]
      simp [given, bne_zero_iff, below]
    refine ⟨reported, fun nonneg => reported.2 (le_of_signs ?_ nonneg)⟩
    exact hasSign_mul (hasSign_of_neg below) (isFinite_volumeSpike config)

/-- Ten times the average volume is a shock, and no volume is one without an average. -/
theorem volume_shock_needs_average_rally :
    (∃ finding, evaluate asking { rally with averageVolume := some 10 } none none (early 0) =
    .ok finding ∧
      finding.Reports .volume) ∧
    ∃ finding, evaluate asking { rally with volume := 1e300 } none none (early 0) = .ok finding ∧
      ¬ finding.Reports .volume := by
  constructor
  · obtain ⟨finding, found⟩ :=
      exists_finding asking { rally with averageVolume := some 10 } none (early 0)
    obtain ⟨regular, -, -⟩ := volume_shock_needs_average found
    have ordered : ∀ usual, some (10 : Float) = some usual → ¬ usual < 0 := by
      rintro usual ⟨⟩
      decide
    exact ⟨finding, found, (regular ordered).2 ⟨10, rfl, by decide, by decide⟩⟩
  · obtain ⟨finding, found⟩ := exists_finding asking { rally with volume := 1e300 } none (early 0)
    obtain ⟨regular, -, -⟩ := volume_shock_needs_average found
    refine ⟨finding, found, fun reported => ?_⟩
    obtain ⟨usual, given, -⟩ := (regular fun usual given => by cases given).1 reported
    cases given

/-- A single share is a volume shock where the average is a loss of seven hundred thousand. -/
theorem negative_average_is_volume_shock :
    ¬ ∀ config seen history news now finding, evaluate config seen news history now = .ok finding →
      finding.Reports .volume → ∃ usual, seen.averageVolume = some usual ∧ 0 < usual := by
  intro needs
  let seen : Observation := { rally with volume := 1, averageVolume := some (-700000) }
  obtain ⟨finding, found⟩ := exists_finding asking seen none (early 0)
  have shock : VolumeShock asking seen := volumeShock_iff.2 ⟨-700000, rfl, by decide, by decide⟩
  obtain ⟨usual, given, above⟩ :=
    needs _ _ _ _ _ _ found ((AnomalyFinding.reports_iff found).2 shock)
  cases given
  exact absurd above (by decide)

end Volume

end Anomaly

end MarketAlerts
