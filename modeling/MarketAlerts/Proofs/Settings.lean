import MarketAlerts.Settings

/-!
All settings there are can be asked for. The keywords that write settings down are read back as the
same settings, whatever the environment says: nothing is refused but what is no value of a setting
at all.
-/
namespace MarketAlerts

open Document

/-- A name is its own name in any case, so keywords of the group's names are no strangers to it. -/
theorem refuseStrangers_of_subset {α : Type} {names : List String} {keywords : Fields}
    (known : keywords.map (·.1) ⊆ names) (group : Checked α) :
    refuseStrangers names keywords group = group := by
  rw [refuseStrangers, List.filter_eq_nil_iff.2]
  · cases group <;> rfl
  · intro entry member
    have named : names.any (isSameName entry.1) = true :=
      List.any_eq_true.2 ⟨entry.1, known (List.mem_map_of_mem member), beq_self_eq_true _⟩
    simp [named]

theorem NamedZone.ofName?_name [Installation] (zone : NamedZone) :
    ofName? zone.name = some zone := by
  unfold ofName?
  split
  · next other found =>
    obtain rfl : other = zone.zone := Option.some.inj (found.symm.trans zone.is_known)
    rfl
  · next unknown =>
    rw [zone.is_known] at unknown
    contradiction

theorem QuietHours.asZone_name [Installation] (zone : NamedZone) :
    asZone (.text zone.name) = .valid zone := by
  rw [asZone]
  dsimp only [Datum.asText, Checked.andThen]
  rw [NamedZone.ofName?_name]

section Groups

variable (environment : Environment)

namespace EngineSettings

theorem asWorkers_integer (workers : { n : Int // 1 ≤ n }) :
    asWorkers (.integer workers) = .valid workers :=
  dif_pos workers.2

variable [Installation]

def keywords (s : EngineSettings) : Fields := [
  ("VIGIL_TIMEZONE", .text s.zone.name), ("VIGIL_MAX_WORKERS", .integer s.maxWorkers)]

theorem read_keywords (s : EngineSettings) : read environment s.keywords = .valid s := by
  rw [read, refuseStrangers_of_subset (List.Subset.refl names)]
  show mk <$> (QuietHours.asZone (.text s.zone.name)).under _ <*>
    (asWorkers (.integer s.maxWorkers)).under _ = _
  rw [QuietHours.asZone_name, asWorkers_integer]
  rfl

end EngineSettings

namespace SentimentSettings

def keywords (s : SentimentSettings) : Fields := [
  ("VIGIL_SENTIMENT_NEGATIVE_THRESHOLD", .number s.negativeThreshold),
  ("VIGIL_SENTIMENT_KEYWORD_WEIGHT", .number s.keywordWeight)]

theorem read_keywords (s : SentimentSettings) : read environment s.keywords = .valid s := by
  rw [read, refuseStrangers_of_subset (List.Subset.refl names)]
  rfl

end SentimentSettings

namespace AnomalySettings

def keywords (s : AnomalySettings) : Fields := [
  ("VIGIL_ANOMALY_PRICE_CHANGE_THRESHOLD", .number s.priceChange),
  ("VIGIL_ANOMALY_VOLUME_SPIKE_MULTIPLIER", .number s.volumeSpike),
  ("VIGIL_ANOMALY_STATISTICAL_SIGMA", .number s.sigma),
  ("VIGIL_ANOMALY_REQUIRES_NO_NEWS", .flag s.requiresNoNews),
  ("VIGIL_ANOMALY_NEWS_LOOKBACK_HOURS", .integer s.lookbackHours)]

theorem read_keywords (s : AnomalySettings) : read environment s.keywords = .valid s := by
  rw [read, refuseStrangers_of_subset (List.Subset.refl names)]
  rfl

end AnomalySettings

namespace HistorySettings

def keywords (s : HistorySettings) : Fields := [("VIGIL_HISTORY_MAX_EVENTS", .integer s.maxEvents)]

theorem read_keywords (s : HistorySettings) : read environment s.keywords = .valid s := by
  rw [read, refuseStrangers_of_subset (List.Subset.refl names)]
  rfl

end HistorySettings

namespace Settings

variable [Installation]

def keywords (s : Settings) : Fields := [
  ("engine", .record s.engine.keywords), ("sentiment", .record s.sentiment.keywords),
  ("anomaly", .record s.anomaly.keywords), ("history", .record s.history.keywords)]

/-- No settings are refused. -/
theorem read_keywords (s : Settings) : read environment s.keywords = .valid s := by
  show mk <$> (EngineSettings.read environment s.engine.keywords).under _
    <*> (SentimentSettings.read environment s.sentiment.keywords).under _
    <*> (AnomalySettings.read environment s.anomaly.keywords).under _
    <*> (HistorySettings.read environment s.history.keywords).under _ = _
  rw [EngineSettings.read_keywords, SentimentSettings.read_keywords, AnomalySettings.read_keywords,
    HistorySettings.read_keywords]
  rfl

end Settings

end Groups

end MarketAlerts
