import MarketAlerts.Document.Datum
import MarketAlerts.Number.Quantity

/-!
Comparisons of a value with a target.
-/
namespace MarketAlerts

open Document

inductive Operator
  | greaterThan | lessThan | greaterThanEqual | lessThanEqual
  | equal | notEqual
  | percentageChange
  | crossesAbove | crossesBelow
  deriving DecidableEq

namespace Operator

instance : Coded Operator where
  code
    | greaterThan => "GREATER_THAN"
    | lessThan => "LESS_THAN"
    | greaterThanEqual => "GREATER_THAN_EQUAL"
    | lessThanEqual => "LESS_THAN_EQUAL"
    | equal => "EQUAL"
    | notEqual => "NOT_EQUAL"
    | percentageChange => "PERCENTAGE_CHANGE"
    | crossesAbove => "CROSSES_ABOVE"
    | crossesBelow => "CROSSES_BELOW"
  all := [greaterThan, lessThan, greaterThanEqual, lessThanEqual, equal, notEqual,
    percentageChange, crossesAbove, crossesBelow]

def symbol : Operator → String
  | greaterThan => ">"
  | lessThan => "<"
  | greaterThanEqual => "≥"
  | lessThanEqual => "≤"
  | equal => "="
  | notEqual => "≠"
  | percentageChange => "%Δ"
  | crossesAbove => "↑"
  | crossesBelow => "↓"

/-- How far apart two values may be and still be equal. -/
def tolerance : Float := 0.01

/-- A percentage change is compared by its size alone. A crossing needs the observation before this
one, which no rule sees, and never holds. -/
def compare (actual : Float) (operator : Operator) (target : Float) : Bool :=
  match operator with
  | greaterThan => target < actual
  | lessThan => actual < target
  | greaterThanEqual => target ≤ actual
  | lessThanEqual => actual ≤ target
  | equal => (actual - target).abs < tolerance
  | notEqual => tolerance ≤ (actual - target).abs
  | percentageChange => target ≤ actual.abs
  | crossesAbove => false
  | crossesBelow => false

def isCrossing : Operator → Bool
  | crossesAbove => true
  | crossesBelow => true
  | _ => false

/-- The comparison of numbers as they are given, which is exact for whole numbers. -/
def compareGiven (actual : Number.Quantity) (operator : Operator) (target : Number.Quantity) :
    Except Fault Bool :=
  match operator with
  | greaterThan => .ok (target.isBelow actual)
  | lessThan => .ok (actual.isBelow target)
  | greaterThanEqual => .ok (target.isAtMost actual)
  | lessThanEqual => .ok (actual.isAtMost target)
  | equal => (actual.distance target).map (·.isBelow (.double tolerance))
  | notEqual => (actual.distance target).map (Number.Quantity.double tolerance).isAtMost
  | percentageChange => .ok (target.isAtMost actual.size)
  | crossesAbove => .ok false
  | crossesBelow => .ok false

/-- On doubles both comparisons agree. -/
theorem compareGiven_double (actual : Float) (operator : Operator) (target : Float) :
    compareGiven (.double actual) operator (.double target) =
      .ok (compare actual operator target) := by
  cases operator <;> rfl

/-- A comparison by a name that may be none. -/
def compareNamed (actual : Number.Quantity) (operator : Label Operator) (target : Number.Quantity) :
    Except Fault Bool :=
  match operator with
  | .known operator => compareGiven actual operator target
  | .other _ => .ok false

/-- The symbol, or the name itself where it names no operator. -/
def symbolOf : Label Operator → String
  | .known operator => operator.symbol
  | .other name => name

end Operator

end MarketAlerts
