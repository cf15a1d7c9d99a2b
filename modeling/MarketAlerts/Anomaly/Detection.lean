import MarketAlerts.Anomaly.Config
import MarketAlerts.Calendar.Span
import MarketAlerts.Finding
import MarketAlerts.Log
import MarketAlerts.Market.Observation
import MarketAlerts.Market.PriceHistory
import MarketAlerts.News.Coverage

/-!
Anomalies: a price shock, a volume shock and a statistical outlier, each looked for on its own.
Recent news explains an anomaly, and an explained one does not fire where news must be absent.
-/
namespace MarketAlerts

open Document

structure AnomalyFinding extends Finding where
  detected : Bool
  explained : Bool

def AnomalyFinding.read : Datum → Checked AnomalyFinding :=
  Datum.asRecord fun fields =>
    (fun triggered reason conditionsMet detected explained =>
      { triggered, reason, conditionsMet, detected, explained })
      <$> fields.required "triggered" Datum.asFlag
      <*> fields.required "reason" Datum.asText
      <*> fields.optional "conditions_met" [] (Datum.asList Datum.asText)
      <*> fields.optional "detected" false Datum.asFlag
      <*> fields.optional "explained_by_news" false Datum.asFlag

def AnomalyFinding.write (f : AnomalyFinding) : Datum := .record (f.fields ++ [
  ("detected", .flag f.detected), ("explained_by_news", .flag f.explained)])

namespace Anomaly

/-- The price change in percent, where a previous close of zero counts as no change. -/
def priceMove (seen : Observation) : Float := seen.priceChange?.getD 0

def priceShock? (config : AnomalyConfig) (seen : Observation) : Option String :=
  let move := priceMove seen
  if config.priceChange.val ≤ move.abs then
    some ("Price change: " ++ Number.fixed 2 move ++ "% (threshold: "
      ++ Number.general config.priceChange ++ "%)")
  else none

def volumeShock? (config : AnomalyConfig) (seen : Observation) : Option String :=
  match seen.usualVolume? with
  | some usual =>
    if usual * config.volumeSpike.val ≤ seen.volume then
      some ("Volume spike: " ++ Number.fixed 1 (seen.volume / usual) ++ "x average")
    else none
  | none => none

/-- The history long enough for the statistical signal. -/
def leastHistory : Nat := 20

/-- Mean and deviation of the history, where it is long enough. -/
def spread? (history : Option (List PricePoint)) : Option PriceHistory.Statistics :=
  match history with
  | some points =>
    if leastHistory ≤ points.length then (PriceHistory.statistics points).toOption else none
  | none => none

/-- Distance from the mean in deviations. -/
def zScore (spread : PriceHistory.Statistics) (seen : Observation) : Float :=
  (seen.price - spread.mean).abs / spread.deviation

def outlier? (config : AnomalyConfig) (seen : Observation) (history : Option (List PricePoint)) :
    Option String :=
  match spread? history with
  | some spread =>
    if 0 < spread.deviation ∧ config.sigma.val ≤ zScore spread seen then
      some ("Statistical outlier: " ++ Number.fixed 2 (zScore spread seen) ++ "σ from mean")
    else none
  | none => none

/-- What is unusual, in words. -/
def signals (config : AnomalyConfig) (seen : Observation) (history : Option (List PricePoint)) :
    List String :=
  [priceShock? config seen, volumeShock? config seen, outlier? config seen history].filterMap id

/-- The conclusion from the signals and from whether recent news stands in the way. -/
def conclude (signals : List String) (silenced : Bool) : AnomalyFinding :=
  let detected := !signals.isEmpty
  { triggered := detected && !silenced
    reason :=
      if !detected then "No anomaly detected"
      else if silenced then "Anomaly detected but explained by news"
      else "Anomaly detected: " ++ String.intercalate "; " signals
    conditionsMet := signals
    detected
    explained := detected && silenced }

/-- Whether the config asks for the absence of news and there is some. -/
def isSilenced (config : AnomalyConfig) (news : Option (Coverage Float))
    (now : Calendar.Timestamp) : Except Fault Bool :=
  if config.requiresNoNews then
    Coverage.isRecent news (.ok (config.lookbackHours.val * Calendar.hour)) now
  else .ok false

def evaluate (config : AnomalyConfig) (seen : Observation) (news : Option (Coverage Float))
    (history : Option (List PricePoint)) (now : Calendar.Timestamp) : Except Fault AnomalyFinding :=
  (isSilenced config news now).map (conclude (signals config seen history))

/-- A history without spread is passed over with a note. -/
def log (seen : Observation) (history : Option (List PricePoint)) : List LogLine :=
  match spread? history with
  | some spread =>
    if 0 < spread.deviation then []
    else [⟨.debug, seen.ticker ++ ": flat price history, z-score skipped"⟩]
  | none => []

end Anomaly

end MarketAlerts
