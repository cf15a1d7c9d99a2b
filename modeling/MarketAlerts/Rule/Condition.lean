import MarketAlerts.Log
import MarketAlerts.Rule.Field
import MarketAlerts.Rule.Operator

/-!
One comparison of a rule. A condition that names no field or no operator loads and never holds.
-/
namespace MarketAlerts

open Document

structure Condition where
  id : String
  field : Label Field
  operator : Label Operator
  value : Float
  baseline : Option Float

/-- Whether a condition holds, and what to say about it. -/
structure Verdict where
  matched : Bool
  description : String

def Verdict.read : Datum → Checked Verdict :=
  Datum.asRecord fun fields =>
    Verdict.mk
      <$> fields.required "matched" Datum.asFlag
      <*> fields.required "description" Datum.asText

def Verdict.write (v : Verdict) : Datum := .record [
  ("matched", .flag v.matched), ("description", .text v.description)]

namespace Condition

def read (defaults : Defaults) : Datum → Checked Condition :=
  Datum.asRecord fun fields =>
    Condition.mk
      <$> fields.optional "id" defaults.id Datum.asText
      <*> fields.required "field" (Datum.asLabel Field "ConditionField")
      <*> fields.required "operator" (Datum.asLabel Operator "ConditionOperator")
      <*> fields.required "value" Datum.asNumber
      <*> fields.nullable "baseline_value" Datum.asNumber

def write (c : Condition) : Datum := .record [
  ("id", .text c.id), ("field", .ofLabel c.field), ("operator", .ofLabel c.operator),
  ("value", .number c.value), ("baseline_value", .ofOption .number c.baseline)]

/-- The comparison in words, with the value found. -/
def describe (condition : Condition) (field : Field) (operator : Operator) (actual : Float) :
    String :=
  field.name ++ " " ++ operator.symbol ++ " " ++ Number.general condition.value
    ++ " (actual: " ++ Number.fixed 2 actual ++ ")"

/-- The verdict on a value that may be unavailable. -/
def judgeValue (condition : Condition) (field : Field) (operator : Operator) :
    Option Float → Verdict
  | none => ⟨false, field.name ++ " data unavailable"⟩
  | some actual =>
    let description := condition.describe field operator actual
    if operator.isCrossing then ⟨false, description ++ " requires previous observation"⟩
    else ⟨operator.compare actual condition.value, description⟩

def judge (analyzer : Analyzer Float) (condition : Condition) (seen : Observation)
    (news : Option (Coverage Float)) : Verdict :=
  match condition.field, condition.operator with
  | .other name, _ => ⟨false, "unknown field " ++ name⟩
  | .known _, .other name => ⟨false, "unknown operator " ++ name⟩
  | .known field, .known operator =>
    condition.judgeValue field operator (field.value? analyzer seen news)

def warning (condition : Condition) (what name : String) : LogLine :=
  ⟨.warning, "Condition " ++ condition.id ++ ": unknown " ++ what ++ " " ++ Text.quoted name⟩

/-- What judging writes: a warning for an unknown name, a note for an unavailable value. -/
def log (analyzer : Analyzer Float) (condition : Condition) (seen : Observation)
    (news : Option (Coverage Float)) : List LogLine :=
  match condition.field, condition.operator with
  | .other name, _ => [condition.warning "field" name]
  | .known _, .other name => [condition.warning "operator" name]
  | .known field, .known _ =>
    match field.value? analyzer seen news with
    | some _ => []
    | none => [⟨.debug, seen.ticker ++ ": " ++ field.name ++ " unavailable for condition "
        ++ condition.id⟩]

end Condition

end MarketAlerts
