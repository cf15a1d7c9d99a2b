import MarketAlerts.Proofs.Alert.TimeOfDay
import MarketAlerts.Proofs.Calendar.Span
import MarketAlerts.Proofs.Engine.Verdict
import MarketAlerts.Proofs.History.Log

/-!
Evaluations at ordinary times. Nothing on the way of an evaluation fails, whatever numbers it meets:
the calendar holds every time that is asked for, every zone is known, every time of day can be read,
and the defaults of anomaly detection are within their bounds.
-/
namespace MarketAlerts

open Document Calendar

/-- Defaults that keep to the bounds of thresholds. -/
structure AnomalySettings.WithinBounds (settings : AnomalySettings) : Prop where
  priceChange : 0 ≤ settings.priceChange ∧ settings.priceChange ≤ 100
  volumeSpike : 1 ≤ settings.volumeSpike ∧ settings.volumeSpike ≤ 100
  sigma : 0.5 ≤ settings.sigma ∧ settings.sigma ≤ 5
  lookbackHours : 1 ≤ settings.lookbackHours ∧ settings.lookbackHours ≤ 168

theorem AnomalySettings.WithinBounds.exists_config {settings : AnomalySettings}
    (bounds : settings.WithinBounds) : ∃ config, settings.config = .valid config := by
  obtain ⟨⟨priceLeast, priceMost⟩, ⟨volumeLeast, volumeMost⟩, ⟨sigmaLeast, sigmaMost⟩, least,
      most⟩ := bounds
  have most : settings.lookbackHours ≤ (168 : Nat) := most
  have least : (1 : Nat) ≤ settings.lookbackHours := least
  unfold config within integerWithin
  rw [dif_pos priceMost, dif_pos priceLeast, dif_pos volumeMost, dif_pos volumeLeast,
    dif_pos sigmaMost, dif_pos sigmaLeast, dif_pos most, dif_pos least]
  exact ⟨_, rfl⟩

/-- A cooldown of at most a million million minutes. -/
def Frequency.HasShortCooldown (frequency : Frequency) : Prop :=
  frequency.cooldownMinutes.val ≤ 1e12

/-- News are looked for up to a year back. -/
theorem Coverage.exists_isRecent (news : Option (Coverage Float)) {lookback : Nat}
    (short : lookback ≤ 365 * day) {now : Timestamp} (ordinary : now.IsOrdinary) :
    ∃ recent, isRecent news (.ok lookback) now = .ok recent := by
  obtain ⟨cutoff, back⟩ := ordinary.aware.exists_shift short
  unfold isRecent
  cases news with
  | none => exact ⟨_, rfl⟩
  | some news =>
    dsimp only
    split
    · exact ⟨_, rfl⟩
    · rw [ok_bind, back, ok_bind]
      exact ⟨_, rfl⟩

theorem Anomaly.exists_evaluate (config : AnomalyConfig) (seen : Observation)
    (news : Option (Coverage Float)) (history : Option (List PricePoint)) {now : Timestamp}
    (ordinary : now.IsOrdinary) : ∃ finding,
    evaluate config seen news history now = .ok finding := by
  have short : config.lookbackHours.val * hour ≤ 365 * day := by
    have week := config.lookbackHours.2.2
    have units : hour = 3600000000 ∧ day = 86400000000 := by decide
    rw [units.1, units.2]
    omega
  have silenced : ∃ silenced, isSilenced config news now = .ok silenced := by
    obtain ⟨recent, looked⟩ := Coverage.exists_isRecent news short ordinary
    unfold isSilenced
    split
    · exact ⟨recent, looked⟩
    · exact ⟨_, rfl⟩
  obtain ⟨silenced, found⟩ := silenced
  rw [evaluate, found]
  exact ⟨_, rfl⟩

theorem Evaluation.error_record_eq_none_iff {evaluation : Evaluation} :
    evaluation.record.error = none ↔ ∀ fault, evaluation.outcome ≠ .failed fault := by
  unfold record
  cases evaluation.outcome <;> simp

variable [Installation]

/-- A history of a known zone, with events of ordinary times. -/
structure History.IsOrdinary (history : History) : Prop where
  named : ∃ zone, Zone.find? history.zone = some zone
  dated : ∀ event ∈ history.events, event.triggeredAt.IsOrdinary

theorem History.IsOrdinary.exists_countToday {history : History} (h : history.IsOrdinary)
    (alertId : String) {now : Timestamp} (ordinary : now.IsOrdinary) : ∃ count,
    history.countToday alertId now = .ok count := by
  obtain ⟨zone, named⟩ := h.named
  have shown (event : Event) (member : event ∈ history.events) :
      event.alertId = alertId → zone.Reaches event.triggeredAt :=
    fun _ => (h.dated event member).reaches zone
  exact ⟨_, countToday_of_reaches named (ordinary.reaches zone) shown⟩

structure Engine.IsOrdinary (engine : Engine) : Prop where
  anomaly : engine.settings.anomaly.WithinBounds
  history : engine.history.IsOrdinary

namespace Gate

variable {alert : Alert} {context : GateContext}

theorem exists_check (ordinary : context.now.IsOrdinary) {other : Zone}
    (known : Zone.find? (Zone.nameOr context.zone) = some other)
    (short : alert.frequency.HasShortCooldown) (gate : Gate) :
    ∃ answer, gate.check alert context = .ok answer := by
  cases gate with
  | quietHours =>
    obtain ⟨silent, told⟩ := alert.quietHours.exists_holds ordinary known
    rw [check, told, ok_bind]
    split <;> exact ⟨_, rfl⟩
  | cooldown =>
    obtain ⟨pause, span⟩ := exists_minutes alert.frequency.cooldownMinutes.2 short
    unfold check
    cases alert.lastTriggeredAt with
    | none => exact ⟨_, rfl⟩
    | some last =>
      dsimp only
      rw [span, ok_bind]
      split <;> exact ⟨_, rfl⟩
  | _ => exact ⟨_, rfl⟩

theorem exists_run {gates : List Gate}
    (fine : ∀ gate : Gate, ∃ answer, gate.check alert context = .ok answer) :
    ∃ decision, run alert context gates = .ok decision := by
  induction gates with
  | nil => exact ⟨.passed, rfl⟩
  | cons first rest ih =>
    obtain ⟨answer, checked⟩ := fine first
    rw [run, checked, ok_bind]
    cases answer with
    | some reason => exact ⟨_, rfl⟩
    | none => exact ih

end Gate

namespace Engine

variable {engine : Engine} {alert : Alert} {now : Timestamp}

theorem IsOrdinary.exists_screen (h : engine.IsOrdinary) (short : alert.frequency.HasShortCooldown)
    (ordinary : now.IsOrdinary) (triggersToday : Option Nat) :
    ∃ decision, engine.screen alert now triggersToday = .ok decision := by
  have counted : ∃ count, triggersToday.elim (engine.history.countToday alert.id now) .ok =
      .ok count := by
    cases triggersToday with
    | some count => exact ⟨count, rfl⟩
    | none => exact h.history.exists_countToday alert.id ordinary
  obtain ⟨count, counted⟩ := counted
  have known := engine.settings.engine.zone.is_known
  have fallback : Zone.find? (Zone.nameOr (some engine.settings.engine.zone.name)) =
      some engine.settings.engine.zone.zone := by rw [Zone.nameOr_of_find? known, known]
  rw [screen, counted, ok_bind]
  exact Gate.exists_run (Gate.exists_check ordinary fallback short)

/-- An alert without thresholds of its own has those of the settings. -/
theorem IsOrdinary.exists_thresholds (h : engine.IsOrdinary) (alert : Alert) :
    ∃ config, alert.anomaly.elim engine.defaultAnomaly .ok = .ok config := by
  cases alert.anomaly with
  | some config => exact ⟨config, rfl⟩
  | none =>
    obtain ⟨config, valid⟩ := h.anomaly.exists_config
    refine ⟨config, ?_⟩
    rw [Option.elim_none, defaultAnomaly, valid]
    rfl

theorem IsOrdinary.exists_dispatch (h : engine.IsOrdinary) (alert : Alert) (seen : Observation)
    (news : Option (Coverage Float)) (prices : Option (List PricePoint))
    (ordinary : now.IsOrdinary) :
    ∃ finding, engine.dispatch alert ⟨some seen, news, prices⟩ now = .ok finding := by
  unfold dispatch dispatchWith
  cases alert.kind with
  | other name => exact ⟨_, rfl⟩
  | known kind =>
    cases kind with
    | anomaly =>
      obtain ⟨config, thresholds⟩ := h.exists_thresholds alert
      obtain ⟨finding, found⟩ := Anomaly.exists_evaluate config seen news prices ordinary
      dsimp only
      rw [thresholds, ok_bind, found, ok_bind]
      exact ⟨_, rfl⟩
    | _ => exact ⟨_, rfl⟩

/-- At an ordinary time an evaluation on an observation is carried out, and it has an outcome. -/
theorem IsOrdinary.exists_evaluate (h : engine.IsOrdinary)
    (short : alert.frequency.HasShortCooldown) (ordinary : now.IsOrdinary) (seen : Observation)
    (news : Option (Coverage Float)) (prices : Option (List PricePoint))
    (triggersToday : Option Nat) (id : String) :
    ∃ outcome, engine.evaluate alert ⟨some seen, news, prices⟩ now triggersToday id = .ok outcome ∧
      ∀ fault, outcome ≠ .failed fault := by
  obtain ⟨decision, screened⟩ := h.exists_screen short ordinary.aware triggersToday
  rw [evaluate_eq, screened, ok_bind]
  cases decision with
  | blocked gate reason => exact ⟨_, rfl, nofun⟩
  | passed =>
    obtain ⟨finding, found⟩ :=
      h.exists_dispatch alert seen (engine.resolveNews news) prices ordinary.aware
    have judged : engine.dispatch alert (engine.informed ⟨some seen, news, prices⟩) now.aware =
      .ok finding := found
    dsimp only
    rw [judged, ok_bind]
    split
    · exact ⟨_, rfl, nofun⟩
    · exact ⟨_, rfl, nofun⟩

end Engine

end MarketAlerts
