import MarketAlerts.Alert.Basic
import MarketAlerts.Event
import MarketAlerts.Settings

/-!
The events fired so far, the latest of them up to a bound, and the counts taken by local calendar
day. Days are those of one zone, whose name may be unknown until it is used.
-/
namespace MarketAlerts

open Document Calendar

variable [Installation]

structure History where
  zone : String
  capacity : Nat
  /-- The earliest first. -/
  events : List Event

namespace History

/-- The bound in force: none and zero stand for the default. -/
def capacityOf (maxEvents : Option Int) : Except Fault Nat :=
  let bound := match maxEvents with
    | some bound => if bound = 0 then HistorySettings.default.maxEvents else bound
    | none => HistorySettings.default.maxEvents
  if machineEnd ≤ bound ∨ bound < -machineEnd then .error .capacityTooLarge
  else if bound < 0 then .error .negativeCapacity
  else .ok bound.toNat

def build (maxEvents : Option Int) (zone : Option String) : Except Fault History :=
  (capacityOf maxEvents).map fun capacity => ⟨Zone.nameOr zone, capacity, []⟩

/-- The events at the end of a list, up to a number. -/
def latest (count : Nat) (events : List Event) : List Event :=
  events.drop (events.length - count)

def record (history : History) (event : Event) : History :=
  { history with events := latest history.capacity (history.events ++ [event]) }

def recordAll (history : History) (events : List Event) : History :=
  events.foldl record history

def clear (history : History) : History := { history with events := [] }

def size (history : History) : Nat := history.events.length

/-- The most recent events first; a negative limit leaves out so many of the oldest. -/
def recent (history : History) (limit : Int) : List Event :=
  let newest := history.events.reverse
  if 0 ≤ limit then newest.take limit.toNat else newest.take (newest.length - limit.natAbs)

/-- The calendar day of a time in the history's zone. -/
def dayOf (history : History) (t : Timestamp) : Except Fault Nat :=
  (t.inNamed history.zone).map (·.days)

/-- Counts events of an alert on a day. -/
def countOn (history : History) (alertId : String) (today : Nat) : List Event → Except Fault Nat
  | [] => .ok 0
  | event :: rest => do
    let here ←
      if event.alertId = alertId then (history.dayOf event.triggeredAt).map (decide <| · = today)
      else .ok false
    let others ← countOn history alertId today rest
    return others + (if here then 1 else 0)

def countToday (history : History) (alertId : String) (now : Timestamp) : Except Fault Nat := do
  history.countOn alertId (← history.dayOf now) history.events

end History

/-- Triggers of all alerts, summed up. -/
structure AlertStatistics where
  totalAlerts : Int
  activeAlerts : Int
  triggeredToday : Int
  triggeredThisWeek : Int
  triggeredThisMonth : Int
  averagePerDay : Float
  topTicker : Option String
  topKind : Option (Label AlertKind)

namespace AlertStatistics

def read : Datum → Checked AlertStatistics :=
  Datum.asRecord fun fields =>
    AlertStatistics.mk
      <$> fields.optional "total_alerts" 0 Datum.asInteger
      <*> fields.optional "active_alerts" 0 Datum.asInteger
      <*> fields.optional "triggered_today" 0 Datum.asInteger
      <*> fields.optional "triggered_this_week" 0 Datum.asInteger
      <*> fields.optional "triggered_this_month" 0 Datum.asInteger
      <*> fields.optional "average_triggers_per_day" 0 Datum.asNumber
      <*> fields.nullable "most_triggered_ticker" Datum.asText
      <*> fields.nullable "most_triggered_alert_type" (fun d => (d.asCoded AlertKind).map .known)

def write (s : AlertStatistics) : Datum := .record [
  ("total_alerts", .integer s.totalAlerts), ("active_alerts", .integer s.activeAlerts),
  ("triggered_today", .integer s.triggeredToday),
  ("triggered_this_week", .integer s.triggeredThisWeek),
  ("triggered_this_month", .integer s.triggeredThisMonth),
  ("average_triggers_per_day", .number s.averagePerDay),
  ("most_triggered_ticker", .ofOption .text s.topTicker),
  ("most_triggered_alert_type", .ofOption .ofLabel s.topKind)]

/-- The value met most often, the one met first among equals. -/
def mostCommon? {α : Type} [DecidableEq α] (values : List α) : Option α :=
  values.eraseDups.foldl
    (fun best value => match best with
      | none => some value
      | some leader => if values.count leader < values.count value then some value else some leader)
    none

/-- The kind of the alert of an event; of several alerts with one identifier the last counts. -/
def kindOf? (alerts : List Alert) (alertId : String) : Option (Label AlertKind) :=
  (alerts.reverse.find? (·.id = alertId)).map (·.kind)

/-- Triggers per day from the first recorded day to today, to two places. -/
def perDay (events : Nat) (days : Int) : Except Fault Float :=
  if days = 0 then .error .divisionByZero
  else .ok (Number.roundPlaces 2 (Float.ofNat events / Float.ofInt days))

end AlertStatistics

open AlertStatistics in
def History.statistics (history : History) (alerts : List Alert) (now : Timestamp) :
    Except Fault AlertStatistics := do
  let today ← history.dayOf now
  let days ← history.events.mapM fun event => history.dayOf event.triggeredAt
  let since (start : Nat) : Int := (days.filter fun d => start ≤ d && d ≤ today).length
  let totals : AlertStatistics :=
    { totalAlerts := alerts.length
      activeAlerts := (alerts.filter (·.status = .active)).length
      triggeredToday := since today
      triggeredThisWeek := since (weekStart today)
      triggeredThisMonth := since (monthStart today)
      averagePerDay := 0
      topTicker := none
      topKind := none }
  match days.min? with
  | none => return totals
  | some first =>
    let average ← perDay history.events.length (today - first + 1)
    return { totals with
      averagePerDay := average
      topTicker := mostCommon? (history.events.map (·.ticker))
      topKind := mostCommon? (history.events.filterMap fun event => kindOf? alerts event.alertId) }

end MarketAlerts
