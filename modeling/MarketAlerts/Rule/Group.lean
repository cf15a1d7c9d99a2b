import MarketAlerts.Finding
import MarketAlerts.Rule.Condition

/-!
Groups of conditions. A rule fires when one of its groups is satisfied, and it names the conditions
that hold in satisfied groups, in the order written.
-/
namespace MarketAlerts

open Document

inductive Logic
  | all | any
  deriving DecidableEq

instance : Coded Logic where
  code
    | .all => "AND"
    | .any => "OR"
  all := [.all, .any]

structure Group where
  id : String
  logic : Logic
  conditions : List Condition

namespace Group

def read (defaults : Defaults) : Datum → Checked Group :=
  Datum.asRecord fun fields =>
    Group.mk
      <$> fields.optional "id" defaults.id Datum.asText
      <*> fields.optional "logic" .all (Datum.asCoded Logic)
      <*> fields.optional "conditions" [] (Datum.asList (Condition.read defaults))

def write (g : Group) : Datum := .record [
  ("id", .text g.id), ("logic", .ofCoded g.logic),
  ("conditions", .ofList Condition.write g.conditions)]

/-- Whether the verdicts satisfy the logic; no verdicts satisfy neither. -/
def satisfied (logic : Logic) (verdicts : List Verdict) : Bool :=
  !verdicts.isEmpty && match logic with
    | .all => verdicts.all (·.matched)
    | .any => verdicts.any (·.matched)

/-- The verdicts of a group in the order of its conditions. -/
def verdicts (analyzer : Analyzer Float) (seen : Observation) (news : Option (Coverage Float))
    (group : Group) : List Verdict :=
  group.conditions.map fun condition => condition.judge analyzer seen news

/-- Sums up the verdicts of all groups. -/
def conclude (judged : List (Logic × List Verdict)) : Finding :=
  let met := judged.filter fun (logic, verdicts) => satisfied logic verdicts
  let descriptions := met.flatMap fun (_, verdicts) =>
    (verdicts.filter (·.matched)).map (·.description)
  { triggered := !met.isEmpty
    reason :=
      if met.isEmpty then "No conditions met"
      else "Conditions met: " ++ String.intercalate ", " descriptions
    conditionsMet := descriptions }

def evaluate (analyzer : Analyzer Float) (groups : List Group) (seen : Observation)
    (news : Option (Coverage Float)) : Finding :=
  conclude (groups.map fun group => (group.logic, group.verdicts analyzer seen news))

def log (analyzer : Analyzer Float) (groups : List Group) (seen : Observation)
    (news : Option (Coverage Float)) : List LogLine :=
  groups.flatMap fun group => group.conditions.flatMap fun c => c.log analyzer seen news

end Group

end MarketAlerts
