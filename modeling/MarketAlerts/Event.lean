import MarketAlerts.Calendar.Span
import MarketAlerts.Document.Reader
import MarketAlerts.Document.Writer

/-!
A fired alert. An event never changes; what a user does with it gives a new copy.
-/
namespace MarketAlerts

open Document Calendar

inductive UserAction
  | pending | viewed | dismissed | snoozed
  deriving DecidableEq

instance : Coded UserAction where
  code
    | .pending => "PENDING"
    | .viewed => "VIEWED"
    | .dismissed => "DISMISSED"
    | .snoozed => "SNOOZED"
  all := [.pending, .viewed, .dismissed, .snoozed]

structure Event where
  id : String
  alertId : String
  ticker : String
  triggeredAt : Timestamp
  reason : String
  conditionsMet : List String
  price : Float
  volume : Option Float
  newsCount : Option Int
  sentiment : Option Float
  action : UserAction
  actionAt : Option Timestamp
  snoozedUntil : Option Timestamp

namespace Event

def read (defaults : Defaults) : Datum → Checked Event :=
  Datum.asRecord fun fields =>
    Event.mk
      <$> fields.optional "id" defaults.id Datum.asText
      <*> fields.required "alert_id" Datum.asText
      <*> fields.required "ticker" Datum.asText
      <*> fields.optional "triggered_at" defaults.now Datum.asTime
      <*> fields.required "trigger_reason" Datum.asText
      <*> fields.optional "conditions_met" [] (Datum.asTuple Datum.asText)
      <*> fields.required "price_at_trigger" Datum.asNumber
      <*> fields.nullable "volume_at_trigger" Datum.asNumber
      <*> fields.nullable "news_count" Datum.asInteger
      <*> fields.nullable "sentiment" Datum.asNumber
      <*> fields.optional "user_action" .pending (Datum.asCoded UserAction)
      <*> fields.nullable "action_at" Datum.asTime
      <*> fields.nullable "snoozed_until" Datum.asTime

def write (e : Event) : Datum := .record [
  ("id", .text e.id), ("alert_id", .text e.alertId), ("ticker", .text e.ticker),
  ("triggered_at", .ofTime e.triggeredAt), ("trigger_reason", .text e.reason),
  ("conditions_met", .ofTexts e.conditionsMet), ("price_at_trigger", .number e.price),
  ("volume_at_trigger", .ofOption .number e.volume), ("news_count", .ofOption .integer e.newsCount),
  ("sentiment", .ofOption .number e.sentiment), ("user_action", .ofCoded e.action),
  ("action_at", .ofOption .ofTime e.actionAt), ("snoozed_until", .ofOption .ofTime e.snoozedUntil)]

/-- An event refuses every change in place. A name that begins with an underscore belongs to none of
its fields: what is set under it leaves the event as it is. -/
def assign (event : Event) (field : String) : Checked Event :=
  if field.toList.head? = some '_' then .valid event else .invalid [⟨[field], .frozen⟩]

def view (event : Event) (now : Timestamp) : Event :=
  { event with action := .viewed, actionAt := some now }

def dismiss (event : Event) (now : Timestamp) : Event :=
  { event with action := .dismissed, actionAt := some now }

/-- Puts the event off; the span counts from the present instant. -/
def snooze (event : Event) (hours : Number.Quantity) (now : Timestamp) : Except Fault Event := do
  let span ← Calendar.hours hours
  let wake ← now.aware.shift span
  return { event with action := .snoozed, actionAt := some now, snoozedUntil := some wake }

end Event

end MarketAlerts
