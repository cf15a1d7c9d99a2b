import MarketAlerts.Document.Reader
import MarketAlerts.Document.Writer

/-!
What is seen of one ticker at one moment.
-/
namespace MarketAlerts

open Document

structure Observation where
  ticker : String
  price : Float
  previousClose : Float
  volume : Float
  averageVolume : Option Float
  peRatio : Option Float
  rsi : Option Float
  movingAverage50 : Option Float
  movingAverage200 : Option Float
  marketCap : Option Float
  timestamp : Calendar.Timestamp

namespace Observation

def read (defaults : Defaults) : Datum → Checked Observation :=
  Datum.asRecord fun fields =>
    Observation.mk
      <$> fields.required "ticker" Datum.asText
      <*> fields.required "price" Datum.asNumber
      <*> fields.required "previous_close" Datum.asNumber
      <*> fields.required "volume" Datum.asNumber
      <*> fields.nullable "average_volume" Datum.asNumber
      <*> fields.nullable "pe_ratio" Datum.asNumber
      <*> fields.nullable "rsi" Datum.asNumber
      <*> fields.nullable "moving_avg_50" Datum.asNumber
      <*> fields.nullable "moving_avg_200" Datum.asNumber
      <*> fields.nullable "market_cap" Datum.asNumber
      <*> fields.optional "timestamp" defaults.now Datum.asTime

def write (o : Observation) : Datum := .record [
  ("ticker", .text o.ticker), ("price", .number o.price),
  ("previous_close", .number o.previousClose),
  ("volume", .number o.volume), ("average_volume", .ofOption .number o.averageVolume),
  ("pe_ratio", .ofOption .number o.peRatio), ("rsi", .ofOption .number o.rsi),
  ("moving_avg_50", .ofOption .number o.movingAverage50),
  ("moving_avg_200", .ofOption .number o.movingAverage200),
  ("market_cap", .ofOption .number o.marketCap), ("timestamp", .ofTime o.timestamp)]

/-- The move from the previous close in percent of it; a close of zero gives none. -/
def priceChange? (seen : Observation) : Option Float :=
  if seen.previousClose == 0 then none
  else some ((seen.price - seen.previousClose) / seen.previousClose * 100)

/-- The average volume, where it is given and not zero. -/
def usualVolume? (seen : Observation) : Option Float :=
  seen.averageVolume.filter (· != 0)

def volumeRatio? (seen : Observation) : Option Float :=
  seen.usualVolume?.map (seen.volume / ·)

end Observation

end MarketAlerts
