import MarketAlerts.Number.Binary

/-!
Written forms of doubles: a fixed number of places, with or without groups of three digits, and the
general form with a number of significant digits. All start from the exact value.
-/
namespace MarketAlerts.Number

def digitsOf (value : Nat) : List Char :=
  (Nat.toDigits 10 value)

/-- Zeros in front up to a width. -/
def padLeft (width : Nat) (digits : List Char) : List Char :=
  List.replicate (width - digits.length) '0' ++ digits

/-- Commas between groups of three digits, counted from the right. -/
def groupThousands (digits : List Char) : List Char :=
  let rec go : List Char → List Char
    | a :: b :: c :: d :: rest => a :: b :: c :: ',' :: go (d :: rest)
    | rest => rest
  (go digits.reverse).reverse

def signText (negative : Bool) : List Char :=
  if negative then ['-'] else []

/-- A count of units of `10 ^ -places`, written with that many places. -/
def unitsText (group : List Char → List Char) (places units : Nat) : List Char :=
  let whole := group (digitsOf (units / Nat.pow 10 places))
  if places = 0 then whole
  else whole ++ '.' :: padLeft places (digitsOf (units % Nat.pow 10 places))

/-- Infinities and the value that is no number are written as words. -/
def write (x : Float) (finite : Bool → Ratio → List Char) : String :=
  match Binary.ofFloat x with
  | .finite negative mantissa exponent =>
    String.ofList (signText negative ++ finite negative (.ofBinary mantissa exponent))
  | .infinite negative => String.ofList (signText negative ++ ['i', 'n', 'f'])
  | .nan => "nan"

def fixed (places : Nat) (x : Float) : String :=
  write x fun _ r => unitsText id places (r.scale places).round

/-- No places, and commas between thousands. -/
def grouped (x : Float) : String :=
  write x fun _ r => unitsText groupThousands 0 r.round

/-- `digits * 10 ^ (exponent + 1 - count)`, where `count` is the number of significant digits. -/
structure Significant where
  digits : Nat
  exponent : Int

/-- The exponent of the leading digit of a positive quotient. -/
def Ratio.leading (r : Ratio) : Int :=
  let guess : Int := (digitsOf r.num).length - (digitsOf r.den).length
  let scaled := r.scale (-guess)
  if scaled.den ≤ scaled.num then guess else guess - 1

/-- Rounds to `count` significant digits. -/
def Significant.of (count : Nat) (r : Ratio) : Significant :=
  if r.num = 0 then ⟨0, 0⟩
  else
    let exponent := r.leading
    let digits := (r.scale (count - 1 - exponent)).round
    if digits = Nat.pow 10 count then ⟨Nat.pow 10 (count - 1), exponent + 1⟩ else ⟨digits, exponent⟩

/-- Drops the zeros that end a fraction, and the point if nothing is left of it. -/
def stripFraction (text : List Char) : List Char :=
  if text.contains '.' then
    match text.reverse.dropWhile (· == '0') with
    | '.' :: rest => rest.reverse
    | rest => rest.reverse
  else text

/-- At least two digits with a sign. -/
def exponentText (exponent : Int) : List Char :=
  (if exponent < 0 then '-' else '+') :: padLeft 2 (digitsOf exponent.natAbs)

/-- Positional from `10 ^ -4` up to the number of significant digits, else with an exponent. -/
def generalText (count : Nat) (r : Ratio) : List Char :=
  let s := Significant.of count r
  if -4 ≤ s.exponent ∧ s.exponent < count then
    let places := (count - 1 - s.exponent).toNat
    stripFraction (unitsText id places s.digits)
  else
    stripFraction (unitsText id (count - 1) s.digits) ++ 'e' :: exponentText s.exponent

/-- Six significant digits, as messages write thresholds. -/
def general (x : Float) : String :=
  write x fun _ r => generalText 6 r

/-- Seventeen significant digits, which no two doubles share. -/
def exact (x : Float) : String :=
  write x fun _ r => generalText 17 r

/-- Whether a quotient lies so near to a positive double that no other double is meant. Below a
power of two the next double is but half as far; half way to the next one the even mantissa is
meant. -/
def isMeantBy (mantissa : Nat) (exponent : Int) (r : Ratio) : Bool :=
  let below := if mantissa = Nat.pow 2 52 && -1074 < exponent then 1 else 2
  let low := Ratio.ofBinary (4 * mantissa - below) (exponent - 2)
  let high := Ratio.ofBinary (4 * mantissa + 2) (exponent - 2)
  if mantissa % 2 = 0 then low.isAtMost r && r.isAtMost high
  else !r.isAtMost low && !high.isAtMost r

/-- A number of significant digits that mean a positive double; the nearest to it where there are
some. -/
def Significant.meaning? (mantissa : Nat) (exponent : Int) (count : Nat) : Option Significant :=
  let r := Ratio.ofBinary mantissa exponent
  let power := r.leading + 1 - count
  let scaled := r.scale (-power)
  let digits := [scaled.round, scaled.floor, scaled.floor + 1].find? fun digits =>
    isMeantBy mantissa exponent (Ratio.scale ⟨digits, 1⟩ power)
  digits.map fun digits =>
    if digits = Nat.pow 10 count then ⟨Nat.pow 10 (count - 1), r.leading + 1⟩
      else ⟨digits, r.leading⟩

/-- Positional from `10 ^ -4` to below `10 ^ 16`, with a fraction in any case, else with an
exponent. -/
def shortestText (count : Nat) (s : Significant) : List Char :=
  if -4 ≤ s.exponent ∧ s.exponent < 16 then
    let places := (max 1 (count - 1 - s.exponent)).toNat
    unitsText id places (s.digits * Nat.pow 10 (places + s.exponent + 1 - count).toNat)
  else
    unitsText id (count - 1) s.digits ++ 'e' :: exponentText s.exponent

/-- The fewest significant digits that mean a double, as values are shown; seventeen always do. -/
def shortest (x : Float) : String :=
  match Binary.ofFloat x with
  | .finite negative mantissa exponent =>
    let counts := List.range' 1 17
    let written := counts.findSome? fun count =>
      (Significant.meaning? mantissa exponent count).map (shortestText count)
    String.ofList (signText negative ++ if mantissa = 0 then ['0', '.', '0'] else written.getD [])
  | .infinite negative => String.ofList (signText negative ++ ['i', 'n', 'f'])
  | .nan => "nan"

/-- The nearest double to a count of units of `10 ^ -places`. -/
def ofUnits (negative : Bool) (places units : Nat) : Float :=
  let magnitude := Float.ofScientific units true places
  if negative then -magnitude else magnitude

/-- Rounds a double to a number of decimal places. -/
def roundPlaces (places : Nat) (x : Float) : Float :=
  match Binary.ofFloat x with
  | .finite negative mantissa exponent =>
    ofUnits negative places ((Ratio.ofBinary mantissa exponent).scale places).round
  | _ => x

end MarketAlerts.Number
