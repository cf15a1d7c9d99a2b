import MarketAlerts.Fault
import MarketAlerts.Number.Binary

/-!
Numbers as they are given: whole numbers of any size, and doubles. Comparisons are exact, also
between the two kinds; where a whole number meets a double in arithmetic it is rounded first.
-/
namespace MarketAlerts.Number

/-- How a double compares with a whole number; what is no number compares with none. -/
def Binary.versus (whole : Int) : Binary → Option Ordering
  | finite negative mantissa exponent =>
    let size := Ratio.ofBinary mantissa exponent
    let numerator : Int := if negative then -size.num else size.num
    some (compare numerator (whole * size.den))
  | infinite negative => some (if negative then .lt else .gt)
  | nan => none

inductive Quantity
  | whole (value : Int)
  | double (value : Float)

namespace Quantity

def isBelow : Quantity → Quantity → Bool
  | whole a, whole b => a < b
  | double a, double b => a < b
  | whole a, double b => (Binary.ofFloat b).versus a == some .gt
  | double a, whole b => (Binary.ofFloat a).versus b == some .lt

def isAtMost : Quantity → Quantity → Bool
  | whole a, whole b => a ≤ b
  | double a, double b => a ≤ b
  | whole a, double b => ((Binary.ofFloat b).versus a).any (·.isGE)
  | double a, whole b => ((Binary.ofFloat a).versus b).any (·.isLE)

def size : Quantity → Quantity
  | whole a => whole a.natAbs
  | double a => double a.abs

/-- The nearest double. -/
def nearest : Quantity → Float
  | whole a => Float.ofInt a
  | double a => a

/-- The nearest double, unless it would be infinite. -/
def asDouble : Quantity → Except Fault Float
  | whole a =>
    let rounded := Float.ofInt a
    if rounded.isInf then .error .tooLargeForDouble else .ok rounded
  | double a => .ok a

/-- How far two numbers lie apart. -/
def distance : Quantity → Quantity → Except Fault Quantity
  | whole a, whole b => .ok (whole (a - b).natAbs)
  | a, b => do
    let left ← a.asDouble
    return double (left - (← b.asDouble)).abs

end Quantity

end MarketAlerts.Number
