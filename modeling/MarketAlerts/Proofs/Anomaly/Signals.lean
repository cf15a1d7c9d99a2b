import MarketAlerts.Proofs.Anomaly.Suppression

/-!
Which signals a finding reports. Each signal has words that begin in its own way, so that what is
reported is what is there, signal by signal.
-/
namespace MarketAlerts

open Calendar

namespace Anomaly

inductive Signal
  | price | volume | outlier

namespace Signal

/-- How what is said of a signal begins. -/
def opening : Signal → String
  | price => "Price change"
  | volume => "Volume spike"
  | outlier => "Statistical outlier"

variable (config : AnomalyConfig) (seen : Observation) (history : Option (List PricePoint))

def words : Signal → Option String
  | price => priceShock? config seen
  | volume => volumeShock? config seen
  | outlier => outlier? config seen history

def IsPresent : Signal → Prop
  | price => PriceShock config seen
  | volume => VolumeShock config seen
  | outlier => Outlier config seen history

variable {config seen history} {signal other : Signal} {text : String}

theorem mem_signals : text ∈ signals config seen history ↔ ∃ signal,
    words config seen history signal = some text := by
  have all : signals config seen history = [price, volume, outlier].filterMap
      (words config seen history) := rfl
  rw [all, List.mem_filterMap]
  refine exists_congr fun signal => and_iff_right ?_
  cases signal <;> simp

theorem isSome_words : (words config seen history signal).isSome = true ↔
    IsPresent config seen history signal := by
  cases signal with
  | price => exact isSome_priceShock?
  | volume => exact isSome_volumeShock?
  | outlier => exact isSome_outlier?

theorem exists_opening_of_words (said : words config seen history signal = some text) :
    ∃ rest, text = signal.opening ++ rest := by
  cases signal with
  | price =>
    simp only [words, priceShock?] at said
    split at said <;> cases said
    exact ⟨": " ++ _, by simp only [opening, String.append_assoc]; rfl⟩
  | volume =>
    simp only [words, volumeShock?] at said
    split at said
    · split at said <;> cases said
      exact ⟨": " ++ _, by simp only [opening, String.append_assoc]; rfl⟩
    · cases said
  | outlier =>
    simp only [words, outlier?] at said
    split at said
    · split at said <;> cases said
      exact ⟨": " ++ _, by simp only [opening, String.append_assoc]; rfl⟩
    · cases said

/-- The first letters tell the signals apart. -/
theorem eq_of_opening_append {rest others : String}
    (same : signal.opening ++ rest = other.opening ++ others) : signal = other := by
  have letters := congrArg (fun text => text.toList.head?) same
  cases signal <;> cases other <;> simp [opening] at letters ⊢

end Signal

/-- Without news nothing fails. -/
theorem exists_finding (config : AnomalyConfig) (seen : Observation)
    (history : Option (List PricePoint)) (now : Timestamp) : ∃ finding,
    evaluate config seen none history now = .ok finding := by
  unfold evaluate isSilenced
  split <;> exact ⟨_, rfl⟩

end Anomaly

namespace AnomalyFinding

/-- One of the conditions that are met begins as what is said of the signal. -/
def Reports (finding : AnomalyFinding) (signal : Anomaly.Signal) : Prop :=
  ∃ rest, signal.opening ++ rest ∈ finding.conditionsMet

variable {config : AnomalyConfig} {seen : Observation} {history : Option (List PricePoint)}
  {news : Option (Coverage Float)} {now : Timestamp} {finding : AnomalyFinding}
  {signal : Anomaly.Signal}

theorem reports_iff (found : Anomaly.evaluate config seen news history now = .ok finding) :
    finding.Reports signal ↔ signal.IsPresent config seen history := by
  obtain ⟨silenced, -, rfl⟩ := Anomaly.exists_conclude found
  have conditions :
      (Anomaly.conclude (Anomaly.signals config seen history) silenced).conditionsMet =
      Anomaly.signals config seen history := rfl
  rw [Reports, conditions, ← Anomaly.Signal.isSome_words]
  constructor
  · rintro ⟨rest, member⟩
    obtain ⟨other, said⟩ := Anomaly.Signal.mem_signals.1 member
    obtain ⟨others, same⟩ := Anomaly.Signal.exists_opening_of_words said
    rw [Anomaly.Signal.eq_of_opening_append same, said]
    rfl
  · intro there
    obtain ⟨text, said⟩ := Option.isSome_iff_exists.1 there
    obtain ⟨rest, rfl⟩ := Anomaly.Signal.exists_opening_of_words said
    exact ⟨rest, Anomaly.Signal.mem_signals.2 ⟨signal, said⟩⟩

/-- An anomaly is detected if and only if one of the signals is reported. -/
theorem detected_iff (found : Anomaly.evaluate config seen news history now = .ok finding) :
    finding.detected = true ↔ finding.Reports .price ∨ finding.Reports .volume ∨
    finding.Reports .outlier := by
  simp only [reports_iff found]
  obtain ⟨silenced, -, rfl⟩ := Anomaly.exists_conclude found
  have detected : (Anomaly.conclude (Anomaly.signals config seen history) silenced).detected =
      true ↔
      Anomaly.signals config seen history ≠ [] := by simp [Anomaly.conclude]
  exact detected.trans Anomaly.signals_ne_nil_iff

end AnomalyFinding

end MarketAlerts
