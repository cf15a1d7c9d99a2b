import MarketAlerts.Calendar.ZoneRule
import MarketAlerts.Proofs.Anomaly.Thresholds
import MarketAlerts.Proofs.Desk.Reports
import MarketAlerts.Proofs.Settings

/-!
Defaults of anomaly detection in use. Settings are accepted with any defaults; an alert that has no
thresholds of its own is evaluated by the defaults within their bounds as if it carried them.
Defaults outside are found out each time that such an alert comes past the gates, and its evaluation
fails.
-/
namespace MarketAlerts

open Document Calendar

section

variable [Installation]

/-- An alert of the anomaly kind that carries no thresholds. -/
structure Alert.UsesDefaults (alert : Alert) : Prop where
  kind : alert.kind = .known .anomaly
  bare : alert.anomaly = none

/-- What it comes to that defaults are out of bounds. -/
def AnomalySettings.refusal (s : AnomalySettings) : Fault :=
  .refused "AnomalyConfig" s.misfits Installation.helpAddress

namespace Engine

variable {engine : Engine} {alert : Alert} {evidence : Evidence} {now : Timestamp}

theorem defaultAnomaly_eq_ok_iff {config : AnomalyConfig} :
    engine.defaultAnomaly = .ok config ↔ config.settings = engine.settings.anomaly := by
  rw [defaultAnomaly, Checked.orRefuse_eq_ok_iff, AnomalySettings.config_eq_valid_iff]

theorem defaultAnomaly_eq_error (outside : ¬ engine.settings.anomaly.WithinBounds) :
    engine.defaultAnomaly = .error engine.settings.anomaly.refusal :=
  AnomalySettings.orRefuse_config outside _ _

/-- The rule of an alert without thresholds is that of an alert that carries the defaults. -/
theorem dispatch_of_default {config : AnomalyConfig} (bare : alert.anomaly = none)
    (fine : engine.defaultAnomaly = .ok config) (evidence : Evidence) (now : Timestamp) :
    engine.dispatch alert evidence now =
      engine.dispatch { alert with anomaly := some config } evidence now := by
  unfold dispatch dispatchWith
  rw [bare, Option.elim_none, fine]
  rfl

theorem evaluate_of_default {config : AnomalyConfig} (bare : alert.anomaly = none)
    (fine : engine.defaultAnomaly = .ok config) (evidence : Evidence) (now : Timestamp)
    (triggersToday : Option Nat) (id : String) :
    engine.evaluate alert evidence now triggersToday id =
      engine.evaluate { alert with anomaly := some config } evidence now triggersToday id := by
  -- The gates and the event do not look at thresholds.
  rw [evaluate_eq, evaluate_eq, dispatch_of_default bare fine]
  rfl

theorem evaluate_of_outside (h : alert.UsesDefaults)
    (outside : ¬ engine.settings.anomaly.WithinBounds) {triggersToday : Option Nat}
    (passed : engine.screen alert now.aware triggersToday = .ok .passed) (evidence : Evidence)
    (id : String) : engine.evaluate alert evidence now triggersToday id =
      .error engine.settings.anomaly.refusal := by
  have refused : engine.dispatch alert (engine.informed evidence) now.aware =
      .error engine.settings.anomaly.refusal := by
    unfold dispatch dispatchWith
    rw [h.kind, h.bare, Option.elim_none, defaultAnomaly_eq_error outside]
    rfl
  rw [evaluate_eq, passed, ok_bind]
  dsimp only
  rw [refused]
  rfl

end Engine

namespace Desk

section Tick

variable {desk : Desk} {listed : List Nat} {market : Market} {now : Timestamp} {position : Nat}
  {woken : Alert} {evaluation : Evaluation}

/-- In a tick, too, an alert without thresholds is evaluated as if it carried the defaults. -/
theorem report_of_default (awake : (desk.awake listed now.aware).alerts[position]? = some woken)
    (bare : woken.anomaly = none) {config : AnomalyConfig}
    (same : config.settings = desk.engine.settings.anomaly)
    (member : evaluation ∈ desk.reports listed market now position) :
    ∃ id, evaluation =
      desk.engine.evaluateListed { woken with anomaly := some config } market now.aware id := by
  obtain ⟨id, rfl⟩ := eq_of_mem_reports member awake
  refine ⟨id, ?_⟩
  have fine := Engine.defaultAnomaly_eq_ok_iff.2 same
  unfold Engine.evaluateListed
  simp only [Engine.evaluate_of_default bare fine]

/-- Where an alert without thresholds comes past the gates, defaults out of bounds are reported as
its error. -/
theorem error_of_outside (awake : (desk.awake listed now.aware).alerts[position]? = some woken)
    (h : woken.UsesDefaults) (outside : ¬ desk.engine.settings.anomaly.WithinBounds)
    {seen : Observation} (observed : market.observation woken.ticker = some seen)
    (passed : desk.engine.screen woken now.aware none = .ok .passed)
    (member : evaluation ∈ desk.reports listed market now position) :
    evaluation.record.error = some desk.engine.settings.anomaly.refusal.message := by
  obtain ⟨id, rfl⟩ := eq_of_mem_reports member awake
  have failed (evidence : Engine.Evidence) : desk.engine.evaluate woken evidence now.aware none id =
      .error desk.engine.settings.anomaly.refusal :=
    Engine.evaluate_of_outside h outside passed evidence id
  unfold Engine.evaluateListed Evaluation.record
  simp only [observed, failed]

end Tick

/-- Settings are accepted whatever the defaults of anomaly detection are, and the defaults are held
to the bounds of thresholds where they are used. An engine has thresholds of the same values if all
are within the bounds, and then an alert that carries none is evaluated as if it carried these.
Otherwise there are none, each value that is out of bounds is named, and every report on such an
alert that comes past the gates has this as its error. -/
theorem defaults_checked_in_use (environment : Environment) (desk : Desk) :
    let settings := desk.engine.settings
    Settings.read environment settings.keywords = .valid settings ∧
    (∀ config, desk.engine.defaultAnomaly = .ok config ↔ config.settings = settings.anomaly) ∧
    ((∃ config, desk.engine.defaultAnomaly = .ok config) ↔ settings.anomaly.WithinBounds) ∧
    (¬ settings.anomaly.WithinBounds →
      desk.engine.defaultAnomaly =
        .error (.refused "AnomalyConfig" settings.anomaly.misfits Installation.helpAddress)) ∧
    ∀ listed market now position woken,
      (desk.awake listed now.aware).alerts[position]? = some woken → woken.UsesDefaults →
      ∀ evaluation ∈ desk.reports listed market now position,
        (∀ config, config.settings = settings.anomaly → ∃ id, evaluation =
          desk.engine.evaluateListed { woken with anomaly := some config } market now.aware id) ∧
        ∀ seen, market.observation woken.ticker = some seen →
          desk.engine.screen woken now.aware none = .ok .passed → ¬ settings.anomaly.WithinBounds →
          evaluation.record.error =
            some (Fault.report "AnomalyConfig" settings.anomaly.misfits
              Installation.helpAddress) := by
  intro settings
  refine ⟨Settings.read_keywords environment settings, fun _ => Engine.defaultAnomaly_eq_ok_iff, ?_,
    Engine.defaultAnomaly_eq_error, ?_⟩
  · simp only [Engine.defaultAnomaly, Checked.orRefuse_eq_ok_iff]
    exact AnomalySettings.exists_config_iff
  · intro listed market now position woken awake h evaluation member
    exact ⟨fun config same => report_of_default awake h.bare same member,
      fun seen observed passed outside => error_of_outside awake h outside observed passed member⟩

end Desk

end

namespace Desk

/-- An alert of the anomaly kind without thresholds, on an engine whose default for the deviations
is given. -/
def bare (sigma : Float) : Desk :=
  { engine :=
      { pair.engine with
        settings := { Settings.default with anomaly := { AnomalySettings.default with sigma } } }
    alerts := [{ Alert.eager "first" true with kind := .known .anomaly }] }

theorem defaults_checked_in_use_wideSigma :
    Settings.read [] (bare 10).engine.settings.keywords = .valid (bare 10).engine.settings ∧
      (bare 10).engine.defaultAnomaly =
        .error (.refused "AnomalyConfig" [("statistical_sigma", ⟨.atMost, "5", "10.0", "float"⟩)]
          Installation.helpAddress) ∧
      ((bare 10).reports [0] .steady (oClock 12) 0).length = 1 ∧
      ∀ evaluation ∈ (bare 10).reports [0] .steady (oClock 12) 0,
        evaluation.record.error =
        some ("1 validation error for AnomalyConfig\nstatistical_sigma\n" ++
          "  Input should be less than or equal to 5 " ++
          "[type=less_than_equal, input_value=10.0, input_type=float]\n" ++
          "    For further information visit " ++ Installation.helpAddress
          ++ "/v/less_than_equal") := by
  have outside : ¬ (bare 10).engine.settings.anomaly.WithinBounds := fun bounds =>
    absurd bounds.sigma.2 (by decide)
  obtain ⟨accepted, -, -, failed, reported⟩ := defaults_checked_in_use [] (bare 10)
  refine ⟨accepted, (failed outside).trans (congrArg _ (by decide +kernel)),
    (bare 10).length_reports [0] .steady (oClock 12) (by decide), fun evaluation member => ?_⟩
  obtain ⟨-, error⟩ := reported [0] .steady (oClock 12) 0 _ rfl ⟨rfl, rfl⟩ evaluation member
  exact (error _ rfl rfl outside).trans (by decide +kernel)

/-- Settings that ask for ten deviations are accepted, though no thresholds allow for more than
five: an engine is built with them, and an alert of the anomaly kind ends in an error. -/
theorem accepts_wideSigma :
    ∃ settings engine,
      Settings.read [] [("anomaly", .record [("VIGIL_ANOMALY_STATISTICAL_SIGMA", .integer 10)])] =
        .valid settings ∧
      Engine.build settings none none none pair.engine.nameEvent = .ok engine ∧
      engine.defaultAnomaly =
        .error (.refused "AnomalyConfig" [("statistical_sigma", ⟨.atMost, "5", "10.0", "float"⟩)]
          Installation.helpAddress) ∧
      ((Desk.mk engine (bare 10).alerts).reports [0] .steady (oClock 12) 0).map (·.record.error) =
        [some ("1 validation error for AnomalyConfig\nstatistical_sigma\n" ++
          "  Input should be less than or equal to 5 " ++
          "[type=less_than_equal, input_value=10.0, input_type=float]\n" ++
          "    For further information visit " ++ Installation.helpAddress
          ++ "/v/less_than_equal")] := by
  refine ⟨_, _, rfl, rfl, ?_, ?_⟩
  · refine (Engine.defaultAnomaly_eq_error fun bounds => ?_).trans
      (congrArg Except.error (by decide +kernel))
    exact absurd bounds.sigma.2 (by decide +kernel)
  · decide +kernel

end Desk

end MarketAlerts
