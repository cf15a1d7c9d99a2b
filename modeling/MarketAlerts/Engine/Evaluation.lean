import MarketAlerts.Alert.Gate
import MarketAlerts.Event

/-!
The outcome of one alert in one tick.
-/
namespace MarketAlerts

open Document

inductive EvaluationOutcome
  | unobserved
  | blocked (gate : Gate) (reason : String)
  | quiet (finding : Finding)
  | fired (event : Event)
  | failed (fault : Fault)

structure Evaluation where
  alertId : String
  ticker : String
  outcome : EvaluationOutcome

/-- An evaluation as reports show it, with a place for everything that may be known. -/
structure EvaluationRecord where
  alertId : String
  ticker : String
  triggered : Bool := false
  reason : String := ""
  conditionsMet : List String := []
  event : Option Event := none
  blockedBy : Option String := none
  error : Option String := none

def EvaluationRecord.read (defaults : Defaults) : Datum → Checked EvaluationRecord :=
  Datum.asRecord fun fields =>
    EvaluationRecord.mk
      <$> fields.required "alert_id" Datum.asText
      <*> fields.required "ticker" Datum.asText
      <*> fields.optional "triggered" false Datum.asFlag
      <*> fields.optional "reason" "" Datum.asText
      <*> fields.optional "conditions_met" [] (Datum.asList Datum.asText)
      <*> fields.nullable "event" (Event.read defaults)
      <*> fields.nullable "blocked_by" Datum.asText
      <*> fields.nullable "error" Datum.asText

def EvaluationRecord.write (e : EvaluationRecord) : Datum := .record [
  ("alert_id", .text e.alertId), ("ticker", .text e.ticker), ("triggered", .flag e.triggered),
  ("reason", .text e.reason), ("conditions_met", .ofTexts e.conditionsMet),
  ("event", .ofOption Event.write e.event), ("blocked_by", .ofOption .text e.blockedBy),
  ("error", .ofOption .text e.error)]

/-- A decision of the gates as reports show it. -/
structure DecisionRecord where
  passed : Bool
  gate : Option String
  reason : String

def DecisionRecord.read : Datum → Checked DecisionRecord :=
  Datum.asRecord fun fields =>
    DecisionRecord.mk
      <$> fields.required "passed" Datum.asFlag
      <*> fields.nullable "gate" Datum.asText
      <*> fields.optional "reason" "" Datum.asText

def DecisionRecord.write (d : DecisionRecord) : Datum := .record [
  ("passed", .flag d.passed), ("gate", .ofOption .text d.gate), ("reason", .text d.reason)]

def Decision.record : Decision → DecisionRecord
  | passed => ⟨true, none, ""⟩
  | blocked gate reason => ⟨false, some gate.name, reason⟩

namespace Evaluation

def record (evaluation : Evaluation) : EvaluationRecord :=
  let shown : EvaluationRecord := { alertId := evaluation.alertId, ticker := evaluation.ticker }
  match evaluation.outcome with
  | .unobserved => { shown with reason := "No market data", blockedBy := some "market_data" }
  | .blocked gate reason => { shown with reason, blockedBy := some gate.name }
  | .quiet finding =>
    { shown with reason := finding.reason, conditionsMet := finding.conditionsMet }
  | .fired event =>
    { shown with
      triggered := true
      reason := event.reason
      conditionsMet := event.conditionsMet
      event := some event }
  | .failed fault => { shown with error := some fault.message }

/-- The event of an alert that fired. -/
def event? (evaluation : Evaluation) : Option Event :=
  match evaluation.outcome with
  | .fired event => some event
  | _ => none

end Evaluation

end MarketAlerts
