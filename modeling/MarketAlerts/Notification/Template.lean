import MarketAlerts.Event
import MarketAlerts.Log

/-!
A notification: one form for all channels, made from the events of one ticker.
-/
namespace MarketAlerts

open Document

inductive Urgency
  | info | warning | critical
  deriving DecidableEq

instance : Coded Urgency where
  code
    | .info => "info"
    | .warning => "warning"
    | .critical => "critical"
  all := [.info, .warning, .critical]

/-- Labelled values that are shown beside the text. -/
abbrev Facts := List (String × String)

structure Template where
  title : String
  body : String
  urgency : Urgency
  ticker : String
  eventIds : List String
  facts : List Facts
  extras : Fields

namespace Template

def read : Datum → Checked Template :=
  Datum.asRecord fun fields =>
    Template.mk
      <$> fields.required "title" Datum.asText
      <*> fields.required "body" Datum.asText
      <*> fields.optional "level" .info (Datum.asCoded Urgency)
      <*> fields.required "ticker" Datum.asText
      <*> fields.optional "event_ids" [] (Datum.asList Datum.asText)
      <*> fields.optional "fields" [] (Datum.asList (Datum.asMapping Datum.asText))
      <*> fields.optional "extras" [] (Datum.asMapping .valid)

def write (t : Template) : Datum := .record [
  ("title", .text t.title), ("body", .text t.body), ("level", .ofCoded t.urgency),
  ("ticker", .text t.ticker), ("event_ids", .ofTexts t.eventIds),
  ("fields",
    .ofList (fun facts => .record (facts.map fun (key, value) => (key, .text value))) t.facts),
  ("extras", .record t.extras)]

def line (event : Event) : String :=
  "- " ++ event.triggeredAt.clockText ++ " " ++ event.reason

def headline (ticker : String) : List Event → String
  | [event] => ticker ++ ": " ++ event.reason
  | events => ticker ++ ": " ++ toString events.length ++ " alerts triggered"

def fact (key value : String) : Facts := [("key", key), ("value", value)]

/-- Price, volume and number of articles of the latest event, as far as they are there. -/
def factsOf (latest : Event) : List Facts :=
  fact "Price" (Number.fixed 2 latest.price)
    :: (latest.volume.map fun volume => fact "Volume" (Number.grouped volume)).toList
    ++ ((latest.newsCount.filter (· ≠ 0)).map fun count => fact "News" (toString count)).toList

/-- One line for each event; without events there is nothing to make a notification of. -/
def compose (ticker : String) (events : List Event) : Except Fault Template :=
  match events.getLast? with
  | none => .error .noEvents
  | some latest => .ok {
      title := headline ticker events
      body := String.intercalate "\n" (events.map line)
      urgency := if 1 < events.length then .warning else .info
      ticker
      eventIds := events.map (·.id)
      facts := factsOf latest
      extras := [] }

/-- A fact as `key=value`; it must have both. -/
def factText (facts : Facts) : Except Fault String :=
  match facts.lookup "key", facts.lookup "value" with
  | none, _ => .error (.missingKey "key")
  | some _, none => .error (.missingKey "value")
  | some key, some value => .ok (key ++ "=" ++ value)

def urgencyText : Urgency → String
  | .info => "INFO"
  | .warning => "WARNING"
  | .critical => "CRITICAL"

/-- The notification as one line of the log. -/
def logLine (template : Template) : Except Fault LogLine := do
  let facts ← template.facts.mapM factText
  let text := "[" ++ urgencyText template.urgency ++ "] " ++ template.title
  let text := if facts.isEmpty then text else text ++ " (" ++ String.intercalate ", " facts ++ ")"
  return ⟨if template.urgency = .critical then .warning else .info, text⟩

end Template

end MarketAlerts
