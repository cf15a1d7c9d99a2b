import MarketAlerts.Proofs.Document.Checked
import MarketAlerts.Proofs.Engine.Ordinary

/-!
The thresholds that the defaults of anomaly detection stand for: those of the same values. There are
such thresholds exactly for defaults within the bounds; of others each value that is out of its
bounds is named.
-/
namespace MarketAlerts

open Document Checked

/-- The defaults of the same values. -/
def AnomalyConfig.settings (config : AnomalyConfig) : AnomalySettings :=
  { priceChange := config.priceChange
    volumeSpike := config.volumeSpike
    sigma := config.sigma
    requiresNoNews := config.requiresNoNews
    lookbackHours := config.lookbackHours.val }

namespace AnomalySettings

/-- The defaults that are out of bounds, in the order of the fields. -/
def misfits (s : AnomalySettings) : List (String × Misfit) :=
  (missed? 0 100 s.priceChange).toList.map ("price_change_threshold", ·)
    ++ (missed? 1 100 s.volumeSpike).toList.map ("volume_spike_multiplier", ·)
    ++ (missed? 0.5 5 s.sigma).toList.map ("statistical_sigma", ·)
    ++ (missed? 1 168 s.lookbackHours).toList.map ("news_lookback_hours", ·)

/-- Nothing but bounds can be wrong with defaults. -/
theorem misfits_config (s : AnomalySettings) :
    s.config.issues.filterMap Issue.misfit? = s.misfits := by
  unfold config misfits
  simp only [issues_seq, issues_map, issues_within, issues_integerWithin, List.filterMap_append,
    misfits_boundIssues]
  simp [issues]

/-- Values of thresholds are defaults for these thresholds. -/
theorem config_settings (config : AnomalyConfig) : config.settings.config = .valid config := by
  have price : within 0 100 config.settings.priceChange = .valid config.priceChange :=
    within_eq_valid_iff.2 rfl
  have volume : within 1 100 config.settings.volumeSpike = .valid config.volumeSpike :=
    within_eq_valid_iff.2 rfl
  have sigma : within 0.5 5 config.settings.sigma = .valid config.sigma := within_eq_valid_iff.2 rfl
  have lookback : integerWithin 1 168 config.settings.lookbackHours = .valid config.lookbackHours :=
    integerWithin_eq_valid_iff.2 rfl
  rw [AnomalySettings.config, price, volume, sigma, lookback]
  rfl

/-- Defaults stand for the thresholds of the same values and for no others. -/
theorem config_eq_valid_iff {s : AnomalySettings} {config : AnomalyConfig} :
    s.config = .valid config ↔ config.settings = s := by
  constructor
  · intro valid
    obtain ⟨_, lookback, four, hours, rfl⟩ := seq_eq_valid_iff.1 valid
    obtain ⟨_, news, three, flag, rfl⟩ := seq_eq_valid_iff.1 four
    obtain ⟨_, sigma, two, deviations, rfl⟩ := seq_eq_valid_iff.1 three
    obtain ⟨_, volume, one, multiple, rfl⟩ := seq_eq_valid_iff.1 two
    obtain ⟨price, percent, rfl⟩ := map_eq_valid_iff.1 one
    obtain rfl : s.requiresNoNews = news := Checked.valid.inj flag
    rw [AnomalyConfig.settings, within_eq_valid_iff.1 (under_eq_valid_iff.1 percent),
      within_eq_valid_iff.1 (under_eq_valid_iff.1 multiple),
      within_eq_valid_iff.1 (under_eq_valid_iff.1 deviations),
      integerWithin_eq_valid_iff.1 (under_eq_valid_iff.1 hours)]
  · rintro rfl
    exact config_settings config

theorem config_settings_withinBounds (config : AnomalyConfig) : config.settings.WithinBounds where
  priceChange := config.priceChange.2
  volumeSpike := config.volumeSpike.2
  sigma := config.sigma.2
  lookbackHours := by
    have hours := config.lookbackHours.2
    show 1 ≤ (config.lookbackHours.val : Int) ∧ (config.lookbackHours.val : Int) ≤ 168
    omega

theorem exists_config_iff {s : AnomalySettings} :
    (∃ config, s.config = .valid config) ↔ s.WithinBounds := by
  refine ⟨?_, WithinBounds.exists_config⟩
  rintro ⟨config, valid⟩
  obtain rfl := config_eq_valid_iff.1 valid
  exact config_settings_withinBounds config

/-- Defaults out of bounds are refused as thresholds, for these bounds. -/
theorem orRefuse_config {s : AnomalySettings} (outside : ¬ s.WithinBounds)
    (record helpAddress : String) :
    s.config.orRefuse record helpAddress = .error (.refused record s.misfits helpAddress) := by
  rw [eq_invalid_issues fun valid => outside (exists_config_iff.1 valid), orRefuse, misfits_config]

end AnomalySettings

end MarketAlerts
