import MarketAlerts.Alert.QuietHours
import MarketAlerts.Anomaly.Config
import MarketAlerts.Rule.Group

/-!
An alert: what it watches for, how often it may fire, and the bookkeeping of its past.
-/
namespace MarketAlerts

open Document Calendar

/-- How an alert is evaluated. -/
inductive AlertKind
  | threshold | multiCondition | newsTriggered | anomaly
  deriving DecidableEq

instance : Coded AlertKind where
  code
    | .threshold => "THRESHOLD"
    | .multiCondition => "MULTI_CONDITION"
    | .newsTriggered => "NEWS_TRIGGERED"
    | .anomaly => "ANOMALY"
  all := [.threshold, .multiCondition, .newsTriggered, .anomaly]

inductive AlertStatus
  | active | triggered | snoozed | dismissed | expired | disabled
  deriving DecidableEq

instance : Coded AlertStatus where
  code
    | .active => "ACTIVE"
    | .triggered => "TRIGGERED"
    | .snoozed => "SNOOZED"
    | .dismissed => "DISMISSED"
    | .expired => "EXPIRED"
    | .disabled => "DISABLED"
  all := [.active, .triggered, .snoozed, .dismissed, .expired, .disabled]

inductive Priority
  | low | medium | high | critical
  deriving DecidableEq

instance : Coded Priority where
  code
    | .low => "LOW"
    | .medium => "MEDIUM"
    | .high => "HIGH"
    | .critical => "CRITICAL"
  all := [.low, .medium, .high, .critical]

/-- How often an alert may fire, and whether its events are delivered in batches. -/
structure Frequency where
  maxPerDay : NatWithin 1 100
  cooldownMinutes : { x : Float // 0 ≤ x }
  batching : Bool
  windowMinutes : { x : Float // 0 < x ∧ x ≤ 1440 }

namespace Frequency

def default : Frequency :=
  { maxPerDay := ⟨3, by decide⟩
    cooldownMinutes := ⟨60, by decide⟩
    batching := true
    windowMinutes := ⟨15, by decide⟩ }

def read : Datum → Checked Frequency :=
  Datum.asRecord fun fields =>
    Frequency.mk
      <$> fields.optional "max_per_day" default.maxPerDay
            (fun d => d.asInteger.andThen (integerWithin 1 100))
      <*> fields.optional "cooldown_minutes" default.cooldownMinutes
            (fun d => d.asNumber.andThen (atLeast 0))
      <*> fields.optional "batching_enabled" default.batching Datum.asFlag
      <*> fields.optional "batching_window_minutes" default.windowMinutes
            (fun d => d.asNumber.andThen (above 0 1440))

def write (f : Frequency) : Datum := .record [
  ("max_per_day", .ofNat f.maxPerDay), ("cooldown_minutes", .number f.cooldownMinutes),
  ("batching_enabled", .flag f.batching), ("batching_window_minutes", .number f.windowMinutes)]

end Frequency

variable [Installation]

structure Alert where
  id : String
  ticker : String
  name : String
  description : Option String
  kind : Label AlertKind
  priority : Priority
  status : AlertStatus
  groups : List Group
  anomaly : Option AnomalyConfig
  frequency : Frequency
  quietHours : QuietHours
  createdAt : Timestamp
  updatedAt : Timestamp
  expiresAt : Option Timestamp
  snoozedUntil : Option Timestamp
  lastTriggeredAt : Option Timestamp
  triggeredCount : Nat

namespace Alert

def read (defaults : Defaults) : Datum → Checked Alert :=
  Datum.asRecord fun fields =>
    Alert.mk
      <$> fields.optional "id" defaults.id Datum.asText
      <*> fields.required "ticker" (Datum.asTextSized 1 none)
      <*> fields.required "name" (Datum.asTextSized 1 (some 100))
      <*> fields.nullable "description" (Datum.asTextSized 0 (some 500))
      <*> fields.required "type" (fun d => (d.asCoded AlertKind).map .known)
      <*> fields.optional "priority" .medium (Datum.asCoded Priority)
      <*> fields.optional "status" .active (Datum.asCoded AlertStatus)
      <*> fields.optional "condition_groups" [] (Datum.asList (Group.read defaults))
      <*> fields.nullable "anomaly_config" AnomalyConfig.read
      <*> fields.optional "frequency" Frequency.default Frequency.read
      <*> fields.optional "quiet_hours" QuietHours.default QuietHours.read
      <*> fields.optional "created_at" defaults.now Datum.asTime
      <*> fields.optional "updated_at" defaults.now Datum.asTime
      <*> fields.nullable "expires_at" Datum.asTime
      <*> fields.nullable "snoozed_until" Datum.asTime
      <*> fields.nullable "last_triggered_at" Datum.asTime
      <*> fields.optional "triggered_count" 0 (fun d => d.asInteger.andThen asCount)

/-- The part of an alert that changes. -/
def bookkeeping (a : Alert) : Fields := [
  ("status", .ofCoded a.status), ("snoozed_until", .ofOption .ofTime a.snoozedUntil),
  ("last_triggered_at", .ofOption .ofTime a.lastTriggeredAt),
  ("triggered_count", .ofNat a.triggeredCount), ("updated_at", .ofTime a.updatedAt)]

def write (a : Alert) : Datum := .record (a.bookkeeping ++ [
  ("id", .text a.id), ("ticker", .text a.ticker), ("name", .text a.name),
  ("description", .ofOption .text a.description), ("type", .ofLabel a.kind),
  ("priority", .ofCoded a.priority), ("condition_groups", .ofList Group.write a.groups),
  ("anomaly_config", .ofOption AnomalyConfig.write a.anomaly), ("frequency", a.frequency.write),
  ("quiet_hours", a.quietHours.write), ("created_at", .ofTime a.createdAt),
  ("expires_at", .ofOption .ofTime a.expiresAt)])

end Alert

end MarketAlerts
