import MarketAlerts.Calendar.Timestamp
import MarketAlerts.Number.Quantity

/-!
Spans of time given as a number of minutes or hours. A span is a whole number of microseconds: the
fraction of a unit is multiplied out and a half goes to the even neighbour.
-/
namespace MarketAlerts.Calendar

/-- Refuses spans whose days do not fit. -/
def checkSpan (micros : Int) : Except Fault Int :=
  let days := micros.fdiv day
  if days < -2147483648 ∨ 2147483647 < days then .error .spanTooLong
  else if days < -999999999 ∨ 999999999 < days then .error (.spanDays days)
  else .ok micros

/-- Microseconds of the part behind the point; they never make more than one unit. -/
def fractionMicros (unit whole : Nat) (size : Float) : Nat :=
  min unit (Number.fractionTimes unit whole size).round

def span (unit : Nat) (amount : Float) : Except Fault Int :=
  match Number.Binary.ofFloat amount with
  | .nan => .error .spanOfNaN
  | .infinite _ => .error .spanOfInfinity
  | .finite negative mantissa exponent =>
    let whole := (Number.Ratio.ofBinary mantissa exponent).floor
    let micros := whole * unit + fractionMicros unit whole amount.abs
    checkSpan (if negative then -micros else micros)

def minutes (amount : Float) : Except Fault Int := span minute amount

def hours : Number.Quantity → Except Fault Int
  | .whole amount => checkSpan (amount * hour)
  | .double amount => span hour amount

end MarketAlerts.Calendar
