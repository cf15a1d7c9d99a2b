import MarketAlerts.Number.Quantity

/-!
Time of the delivery loop. It may be kept in doubles, where a deadline counts as due a little early,
also when windows are whole numbers, or in exact numbers.
-/
namespace MarketAlerts

class Timescale (τ : Type) where
  start : τ
  /-- The time a number of seconds after another. -/
  after : (clock seconds : τ) → τ
  ofMinutes : τ → τ
  /-- Whether the scale can hold a span of so many seconds. -/
  canHold : (seconds : τ) → Bool
  /-- Whether a pause of so many seconds takes any time. -/
  takesTime : τ → Bool
  /-- Whether a deadline is due when the clock shows a time. -/
  isDue : (deadline clock : τ) → Bool
  isBefore : τ → τ → Bool
  isUpTo : (deadline limit : τ) → Bool

instance : Timescale Float where
  start := 0
  after clock seconds := clock + seconds
  ofMinutes minutes := minutes * 60
  canHold _ := true
  takesTime seconds := 0 < seconds
  isDue deadline clock := deadline ≤ clock || deadline < clock + 1e-9
  isBefore a b := a < b
  isUpTo deadline limit := deadline ≤ limit

open Number in
/-- A whole number of minutes is turned into seconds before it is rounded. -/
instance : Timescale Quantity where
  start := .double 0
  after clock seconds := .double (clock.nearest + seconds.nearest)
  ofMinutes
    | .whole minutes => .whole (minutes * 60)
    | .double minutes => .double (minutes * 60)
  canHold seconds := seconds.asDouble.isOk
  takesTime seconds := 0 < seconds.nearest
  isDue deadline clock := Timescale.isDue deadline.nearest clock.nearest
  isBefore a b := Timescale.isBefore a.nearest b.nearest
  isUpTo deadline limit := Timescale.isUpTo deadline.nearest limit.nearest

instance : Timescale Rat where
  start := 0
  after clock seconds := clock + seconds
  ofMinutes minutes := minutes * 60
  canHold _ := true
  takesTime seconds := 0 < seconds
  isDue deadline clock := deadline ≤ clock
  isBefore a b := a < b
  isUpTo deadline limit := deadline ≤ limit

end MarketAlerts
