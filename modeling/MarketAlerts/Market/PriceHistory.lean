import MarketAlerts.Document.Reader
import MarketAlerts.Document.Writer

/-!
Past prices of a ticker, their mean and their standard deviation. Sums are taken in blocks: long
lists are halved at a multiple of eight, shorter ones are added in eight lanes side by side.
-/
namespace MarketAlerts

open Document

structure PricePoint where
  timestamp : Calendar.Timestamp
  price : Float
  volume : Float

def PricePoint.read (_ : Defaults) : Datum → Checked PricePoint :=
  Datum.asRecord fun fields =>
    PricePoint.mk
      <$> fields.required "timestamp" Datum.asTime
      <*> fields.required "price" Datum.asNumber
      <*> fields.optional "volume" 0 Datum.asNumber

def PricePoint.write (p : PricePoint) : Datum := .record [
  ("timestamp", .ofTime p.timestamp), ("price", .number p.price), ("volume", .number p.volume)]

namespace PriceHistory

/-- Adds block after block of eight to the lanes; what is left is shorter than eight. -/
def addBlocks (lanes : List Float) (rest : List Float) : List Float × List Float :=
  if rest.length < 8 then (lanes, rest)
  else addBlocks (List.zipWith (· + ·) lanes (rest.take 8)) (rest.drop 8)
termination_by rest.length
decreasing_by simp; omega

def joinLanes : List Float → Float
  | [a, b, c, d, e, f, g, h] => ((a + b) + (c + d)) + ((e + f) + (g + h))
  | lanes => lanes.foldl (· + ·) (-0.0)

/-- The sum of at most 128 terms. -/
def blockSum (terms : List Float) : Float :=
  if terms.length < 8 then terms.foldl (· + ·) (-0.0)
  else
    let (lanes, rest) := addBlocks (terms.take 8) (terms.drop 8)
    rest.foldl (· + ·) (joinLanes lanes)

/-- The sum of any number of terms. -/
def pairwiseSum (terms : List Float) : Float :=
  if terms.length ≤ 128 then blockSum terms
  else
    let half := terms.length / 2 - terms.length / 2 % 8
    pairwiseSum (terms.take half) + pairwiseSum (terms.drop half)
termination_by terms.length
decreasing_by all_goals simp; omega

def sum (terms : List Float) : Float := 0.0 + pairwiseSum terms

def mean (terms : List Float) : Float := sum terms / Float.ofNat terms.length

/-- The square root of the mean squared distance from the mean. -/
def deviation (terms : List Float) : Float :=
  let centre := mean terms
  let squares := terms.map fun x => (x - centre) * (x - centre)
  (sum squares / Float.ofNat terms.length).sqrt

structure Statistics where
  mean : Float
  deviation : Float

def statistics (points : List PricePoint) : Except Fault Statistics :=
  if points.isEmpty then .error .noPrices
  else
    let prices := points.map (·.price)
    .ok ⟨mean prices, deviation prices⟩

end PriceHistory

end MarketAlerts
