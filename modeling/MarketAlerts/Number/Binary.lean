/-!
Doubles as exact dyadic numbers, and the rounding rule of every written number: a quotient goes to
the nearest integer, and half way between two of them to the even one.
-/
namespace MarketAlerts.Number

/-- What a double denotes; a finite one is `mantissa * 2 ^ exponent` with a sign. -/
inductive Binary
  | finite (negative : Bool) (mantissa : Nat) (exponent : Int)
  | infinite (negative : Bool)
  | nan
  deriving DecidableEq

def Binary.ofFloat (x : Float) : Binary :=
  let bits : Nat := x.toBits.toNat
  let negative := decide (Nat.pow 2 63 ≤ bits)
  let field : Nat := bits / Nat.pow 2 52 % Nat.pow 2 11
  let fraction : Nat := bits % Nat.pow 2 52
  if field = 2047 then (if fraction = 0 then .infinite negative else .nan)
  else if field = 0 then .finite negative fraction (-1074)
  else .finite negative (Nat.pow 2 52 + fraction) ((field : Int) - 1075)

/-- A quotient of naturals. -/
structure Ratio where
  num : Nat
  den : Nat

namespace Ratio

def ofBinary (mantissa : Nat) (exponent : Int) : Ratio :=
  ⟨mantissa * Nat.pow 2 exponent.toNat, Nat.pow 2 (-exponent).toNat⟩

/-- Multiplies by a power of ten of either sign. -/
def scale (r : Ratio) (power : Int) : Ratio :=
  ⟨r.num * Nat.pow 10 power.toNat, r.den * Nat.pow 10 (-power).toNat⟩

def floor (r : Ratio) : Nat :=
  r.num / r.den

def isAtMost (r s : Ratio) : Bool :=
  r.num * s.den ≤ s.num * r.den

def round (r : Ratio) : Nat :=
  let below := r.num / r.den
  let rest := 2 * (r.num % r.den)
  if rest < r.den then below
  else if r.den < rest then below + 1
  else below + below % 2

/-- The nearest integer, where a half goes up. -/
def roundUp (r : Ratio) : Nat :=
  (2 * r.num + r.den) / (2 * r.den)

end Ratio

/-- The largest whole number not above a finite double. -/
def Binary.floor? : Binary → Option Int
  | finite negative mantissa exponent =>
    let size := Ratio.ofBinary mantissa exponent
    some (if negative then -((size.num + size.den - 1) / size.den : Nat) else size.floor)
  | _ => none

/-- The whole number that a finite double is, if it is one. -/
def Binary.whole? (x : Binary) : Option Int :=
  match x with
  | finite _ mantissa exponent =>
    let size := Ratio.ofBinary mantissa exponent
    if size.num % size.den = 0 then x.floor? else none
  | _ => none

/-- A double less a whole number not above it, multiplied by a unit as doubles are. -/
def fractionTimes (unit : Nat) (floor : Int) (x : Float) : Ratio :=
  match Binary.ofFloat ((x - Float.ofInt floor) * Float.ofNat unit) with
  | .finite _ mantissa exponent => .ofBinary mantissa exponent
  | _ => ⟨0, 1⟩

end MarketAlerts.Number
