import MarketAlerts.Alert.QuietHours
import MarketAlerts.Anomaly.Config
import MarketAlerts.Text.Lowercase

/-!
Settings in four groups, and the whole of them. A group is read from keywords and from the
environment, where keywords win; the case of a name does not matter.
-/
namespace MarketAlerts

open Document Calendar

/-- Names are the same whatever their case. -/
def isSameName (a b : String) : Bool := Text.lower a == Text.lower b

/-- The keywords of a group under its names: the one written alike, else the first in any case. -/
def pickKeywords (keywords : Fields) (names : List String) : Fields :=
  names.filterMap fun name =>
    (keywords.lookup name <|> (keywords.find? fun (key, _) => isSameName key name).map (·.2)).map
      (name, ·)

abbrev Environment := List (String × String)

namespace Environment

/-- The value of a name in any case; of several the last counts. -/
def find? (environment : Environment) (name : String) : Option String :=
  (environment.reverse.find? fun (key, _) => isSameName key name).map (·.2)

/-- Keywords first, then what the environment says under the names of a group. -/
def fields (environment : Environment) (keywords : Fields) (names : List String) : Fields :=
  pickKeywords keywords names
    ++ names.filterMap fun name => (environment.find? name).map fun value => (name, .text value)

end Environment

/-- Refuses keywords that are no name of the group in any case, after all other issues. -/
def refuseStrangers {α : Type} (names : List String) (keywords : Fields) (group : Checked α) :
    Checked α :=
  let strangers := keywords.filter fun (key, _) => !names.any (isSameName key)
  let check : Checked Unit :=
    if strangers.isEmpty then .valid ()
    else .invalid (strangers.map fun (key, _) => ⟨[key], .unknownSetting⟩)
  (fun group _ => group) <$> group <*> check

variable [Installation]

structure EngineSettings where
  zone : NamedZone
  maxWorkers : { n : Int // 1 ≤ n }

namespace EngineSettings

def default : EngineSettings :=
  { zone := ⟨Zone.defaultName, .utc, Zone.find?_default⟩
    maxWorkers := ⟨8, by decide⟩ }

def names : List String := ["VIGIL_TIMEZONE", "VIGIL_MAX_WORKERS"]

def asWorkers (d : Datum) : Checked { n : Int // 1 ≤ n } :=
  d.asInteger.andThen fun value => if h : 1 ≤ value then .valid ⟨value, h⟩
    else .flaw (.outOfBounds (.of .atLeast 1 value))

def read (environment : Environment) (keywords : Fields) : Checked EngineSettings :=
  let fields := environment.fields keywords names
  refuseStrangers names keywords <|
    EngineSettings.mk
      <$> fields.optional "VIGIL_TIMEZONE" default.zone QuietHours.asZone
      <*> fields.optional "VIGIL_MAX_WORKERS" default.maxWorkers asWorkers

def write (s : EngineSettings) : Datum := .record [
  ("timezone", .text s.zone.name), ("max_workers", .integer s.maxWorkers)]

end EngineSettings

structure SentimentSettings where
  negativeThreshold : Float
  keywordWeight : Float

namespace SentimentSettings

def default : SentimentSettings := ⟨-0.3, 0.2⟩

def names : List String := ["VIGIL_SENTIMENT_NEGATIVE_THRESHOLD", "VIGIL_SENTIMENT_KEYWORD_WEIGHT"]

def read (environment : Environment) (keywords : Fields) : Checked SentimentSettings :=
  let fields := environment.fields keywords names
  refuseStrangers names keywords <|
    SentimentSettings.mk
      <$> fields.optional "VIGIL_SENTIMENT_NEGATIVE_THRESHOLD" default.negativeThreshold
        Datum.asNumber
      <*> fields.optional "VIGIL_SENTIMENT_KEYWORD_WEIGHT" default.keywordWeight Datum.asNumber

def write (s : SentimentSettings) : Datum := .record [
  ("negative_threshold", .number s.negativeThreshold), ("keyword_weight", .number s.keywordWeight)]

end SentimentSettings

/-- Defaults of anomaly detection. They are not held to the bounds until they are used. -/
structure AnomalySettings where
  priceChange : Float
  volumeSpike : Float
  sigma : Float
  requiresNoNews : Bool
  lookbackHours : Int

namespace AnomalySettings

def default : AnomalySettings := ⟨15, 5, 2, true, 24⟩

def names : List String := [
  "VIGIL_ANOMALY_PRICE_CHANGE_THRESHOLD", "VIGIL_ANOMALY_VOLUME_SPIKE_MULTIPLIER",
  "VIGIL_ANOMALY_STATISTICAL_SIGMA", "VIGIL_ANOMALY_REQUIRES_NO_NEWS",
  "VIGIL_ANOMALY_NEWS_LOOKBACK_HOURS"]

def read (environment : Environment) (keywords : Fields) : Checked AnomalySettings :=
  let fields := environment.fields keywords names
  refuseStrangers names keywords <|
    AnomalySettings.mk
      <$> fields.optional "VIGIL_ANOMALY_PRICE_CHANGE_THRESHOLD" default.priceChange Datum.asNumber
      <*> fields.optional "VIGIL_ANOMALY_VOLUME_SPIKE_MULTIPLIER" default.volumeSpike Datum.asNumber
      <*> fields.optional "VIGIL_ANOMALY_STATISTICAL_SIGMA" default.sigma Datum.asNumber
      <*> fields.optional "VIGIL_ANOMALY_REQUIRES_NO_NEWS" default.requiresNoNews Datum.asFlag
      <*> fields.optional "VIGIL_ANOMALY_NEWS_LOOKBACK_HOURS" default.lookbackHours Datum.asInteger

def write (s : AnomalySettings) : Datum := .record [
  ("price_change_threshold", .number s.priceChange),
  ("volume_spike_multiplier", .number s.volumeSpike), ("statistical_sigma", .number s.sigma),
  ("requires_no_news", .flag s.requiresNoNews), ("news_lookback_hours", .integer s.lookbackHours)]

/-- The thresholds that the defaults stand for, if they are within bounds. -/
def config (settings : AnomalySettings) : Checked AnomalyConfig :=
  AnomalyConfig.mk
    <$> (within 0 100 settings.priceChange).under "price_change_threshold"
    <*> (within 1 100 settings.volumeSpike).under "volume_spike_multiplier"
    <*> (within 0.5 5 settings.sigma).under "statistical_sigma"
    <*> .valid settings.requiresNoNews
    <*> (integerWithin 1 168 settings.lookbackHours).under "news_lookback_hours"

end AnomalySettings

structure HistorySettings where
  maxEvents : Int

namespace HistorySettings

def default : HistorySettings := ⟨1000⟩

def names : List String := ["VIGIL_HISTORY_MAX_EVENTS"]

def read (environment : Environment) (keywords : Fields) : Checked HistorySettings :=
  let fields := environment.fields keywords names
  refuseStrangers names keywords <|
    HistorySettings.mk <$>
      fields.optional "VIGIL_HISTORY_MAX_EVENTS" default.maxEvents Datum.asInteger

def write (s : HistorySettings) : Datum := .record [
  ("max_events", .integer s.maxEvents)]

end HistorySettings

structure Settings where
  engine : EngineSettings
  sentiment : SentimentSettings
  anomaly : AnomalySettings
  history : HistorySettings

namespace Settings

def default : Settings := ⟨.default, .default, .default, .default⟩

/-- A group that is left out has its defaults, whatever the environment says; others are ignored. -/
def read (environment : Environment) (keywords : Fields) : Checked Settings :=
  let keywords := pickKeywords keywords ["engine", "sentiment", "anomaly", "history"]
  Settings.mk
    <$> keywords.optional "engine" .default (Datum.asRecord (EngineSettings.read environment))
    <*> keywords.optional "sentiment" .default (Datum.asRecord (SentimentSettings.read environment))
    <*> keywords.optional "anomaly" .default (Datum.asRecord (AnomalySettings.read environment))
    <*> keywords.optional "history" .default (Datum.asRecord (HistorySettings.read environment))

def write (s : Settings) : Datum := .record [
  ("engine", s.engine.write), ("sentiment", s.sentiment.write), ("anomaly", s.anomaly.write),
  ("history", s.history.write)]

end Settings

end MarketAlerts
