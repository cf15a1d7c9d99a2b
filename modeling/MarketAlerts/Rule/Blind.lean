import MarketAlerts.Rule.Group

/-!
Rules without an observation. What needs one fails and says which item it looked for; names that
are unknown and a sentiment that is supplied are judged as ever.
-/
namespace MarketAlerts

open Document

def Field.blindValue? (analyzer : Analyzer Float) (news : Option (Coverage Float)) (field : Field) :
    Except Fault (Option Float) :=
  match field.firstItem? with
  | some item => .error (.noObservation item)
  | none => .ok (news.bind (·.sentiment? analyzer))

/-- An unavailable value is noted under the ticker, which only an observation has. -/
def Condition.judgeBlind (analyzer : Analyzer Float) (condition : Condition)
    (news : Option (Coverage Float)) : Except Fault Verdict :=
  match condition.field, condition.operator with
  | .other name, _ => .ok ⟨false, "unknown field " ++ name⟩
  | .known _, .other name => .ok ⟨false, "unknown operator " ++ name⟩
  | .known field, .known operator => do
    match ← field.blindValue? analyzer news with
    | some actual => return condition.judgeValue field operator (some actual)
    | none => .error (.noObservation "ticker")

def Condition.logBlind (condition : Condition) : List LogLine :=
  match condition.field, condition.operator with
  | .other name, _ => [condition.warning "field" name]
  | .known _, .other name => [condition.warning "operator" name]
  | .known _, .known _ => []

namespace Group

def evaluateBlind (analyzer : Analyzer Float) (groups : List Group)
    (news : Option (Coverage Float)) : Except Fault Finding := do
  let judged ← groups.mapM fun group => do
    return (group.logic, ← group.conditions.mapM fun c => c.judgeBlind analyzer news)
  return conclude judged

/-- What is written before the first condition that fails. -/
def logBlind (analyzer : Analyzer Float) (groups : List Group) (news : Option (Coverage Float)) :
    List LogLine :=
  let judged := (groups.flatMap (·.conditions)).takeWhile fun c =>
    (c.judgeBlind analyzer news).toBool
  judged.flatMap (·.logBlind)

end Group

end MarketAlerts
