import MarketAlerts.Market.Observation
import MarketAlerts.News.Coverage

/-!
The numbers that a rule can refer to. A number that cannot be derived is unavailable, never zero.
-/
namespace MarketAlerts

open Document

inductive Field
  | price | priceChange | volume | volumeRatio
  | peRatio | rsi | movingAverage50 | movingAverage200
  | newsSentiment | marketCap
  deriving DecidableEq

namespace Field

instance : Coded Field where
  code
    | price => "PRICE"
    | priceChange => "PRICE_CHANGE"
    | volume => "VOLUME"
    | volumeRatio => "VOLUME_RATIO"
    | peRatio => "PE_RATIO"
    | rsi => "RSI"
    | movingAverage50 => "MOVING_AVG_50"
    | movingAverage200 => "MOVING_AVG_200"
    | newsSentiment => "NEWS_SENTIMENT"
    | marketCap => "MARKET_CAP"
  all := [price, priceChange, volume, volumeRatio, peRatio, rsi, movingAverage50, movingAverage200,
    newsSentiment, marketCap]

def name (field : Field) : String := Coded.code field

/-- The value of a field; sentiment is scored by the given analyzer where none is supplied. -/
def value? (analyzer : Analyzer Float) (seen : Observation) (news : Option (Coverage Float)) :
    Field → Option Float
  | price => some seen.price
  | priceChange => seen.priceChange?
  | volume => some seen.volume
  | volumeRatio => seen.volumeRatio?
  | peRatio => seen.peRatio
  | rsi => seen.rsi
  | movingAverage50 => seen.movingAverage50
  | movingAverage200 => seen.movingAverage200
  | newsSentiment => news.bind (·.sentiment? analyzer)
  | marketCap => seen.marketCap

/-- The item of an observation that a field looks at first; sentiment needs none. -/
def firstItem? : Field → Option String
  | price => some "price"
  | priceChange => some "previous_close"
  | volume => some "volume"
  | volumeRatio => some "average_volume"
  | peRatio => some "pe_ratio"
  | rsi => some "rsi"
  | movingAverage50 => some "moving_avg_50"
  | movingAverage200 => some "moving_avg_200"
  | newsSentiment => none
  | marketCap => some "market_cap"

def find (name : String) : Except Fault Field :=
  match Coded.find? name with
  | some field => .ok field
  | none => .error (.notField name)

end Field

end MarketAlerts
