import MarketAlerts.Text.Blank
import MarketAlerts.Text.Digit

/-!
Reading of number literals. Digits may be set apart by single underscores; a decimal literal has a
fraction, an exponent or both, or is a word for an infinity or for no number.
-/
namespace MarketAlerts.Number

open MarketAlerts.Text

/-- The leading digits, and what follows; an underscore is passed between two digits only. -/
def takeDigitsFrom (afterDigit : Bool) : List Char → List Char × List Char
  | [] => ([], [])
  | c :: rest =>
    if c.isDigit then
      let (digits, left) := takeDigitsFrom true rest
      (c :: digits, left)
    else if afterDigit && c == '_' && rest.head?.any Char.isDigit then takeDigitsFrom false rest
    else ([], c :: rest)

def takeDigits (text : List Char) : List Char × List Char :=
  takeDigitsFrom false text

def valueOf (digits : List Char) : Nat :=
  digits.foldl (fun value c => 10 * value + (c.toNat - 48)) 0

/-- A sign in front, and what follows. -/
def takeSign : List Char → Bool × List Char
  | '-' :: rest => (true, rest)
  | '+' :: rest => (false, rest)
  | text => (false, text)

def signed (negative : Bool) (magnitude : Nat) : Int :=
  if negative then -magnitude else magnitude

/-- A whole number: sign, then digits and nothing else. -/
def integer? (text : List Char) : Option Int :=
  let (negative, rest) := takeSign text
  match takeDigits rest with
  | ([], _) => none
  | (digits, []) => some (signed negative (valueOf digits))
  | _ => none

/-- The most digits of a whole number that are read. -/
def longestInteger : Nat := 4300

/-- The number of digits of a literal that has too many of them. -/
def excessDigits? (text : List Char) : Option Nat :=
  let (digits, rest) := takeDigits (takeSign text).2
  if longestInteger < digits.length && rest.head? != some '_' then some digits.length else none

/-- The nearest double to `mantissa * 10 ^ exponent`. -/
def nearest (mantissa : Nat) (exponent : Int) : Float :=
  let order := exponent + (Nat.toDigits 10 mantissa).length
  if mantissa = 0 ∨ order < -400 then 0
  else if 400 < order then 1 / 0
  else Float.ofScientific mantissa (exponent < 0) exponent.natAbs

/-- The exponent part of a literal; absent it counts as zero. -/
def exponent? : List Char → Option Int
  | [] => some 0
  | c :: rest => if c = 'e' || c = 'E' then integer? rest else none

/-- Digits, a point and more digits, one side of the point at least, and an exponent. -/
def magnitude? (text : List Char) : Option Float :=
  let (whole, rest) := takeDigits text
  let (fraction, rest) := match rest with
    | '.' :: more => takeDigits more
    | _ => ([], rest)
  if whole.isEmpty && fraction.isEmpty then none
  else (exponent? rest).map fun exponent =>
    nearest (valueOf (whole ++ fraction)) (exponent - fraction.length)

/-- A decimal literal without blanks around it. -/
def decimal? (text : List Char) : Option Float :=
  let (negative, rest) := takeSign text
  let magnitude := match String.ofList (rest.map Char.toLower) with
    | "inf" | "infinity" => some (1 / 0)
    | "nan" => some (0 / 0)
    | _ => magnitude? rest
  magnitude.map fun x => if negative then -x else x

/-- Plain text as a literal: digits of every script become plain ones, blanks around it are
dropped. -/
def plain (text : String) : List Char :=
  (trim text.toList).map fun c => (digit? c).elim c digitChar

def integerOf? (text : String) : Option Int :=
  integer? (plain text)

def decimalOf? (text : String) : Option Float :=
  decimal? (plain text)

/-- Why a text in a document is no whole number. -/
inductive IntegerFlaw
  | unreadable | tooLong
  deriving DecidableEq

/-- Takes out underscores that stand one by one between other characters. -/
def joined? (text : List Char) : Option (List Char) :=
  if text.head? = some '_' || text.getLast? = some '_'
    || (text.zip (text.drop 1)).contains ('_', '_') then
    none
  else some (text.filter (· != '_'))

/-- Takes a plus away; a minus may not follow it. -/
def withoutPlus? : List Char → Option (List Char)
  | '+' :: '-' :: _ => none
  | '+' :: rest => some rest
  | text => some text

/-- Takes away a point with nothing but zeros behind it, at least one. -/
def withoutZeroFraction (text : List Char) : List Char :=
  match text.dropWhile (· != '.') with
  | '.' :: c :: rest => if (c :: rest).all (· == '0') then text.takeWhile (· != '.') else text
  | _ => text

/-- Passes zeros and underscores; what follows them must begin with another digit or a minus, and
where nothing follows the last of them stays. -/
def passZeros (last : Char) : List Char → Option (List Char)
  | [] => some [last]
  | c :: rest =>
    if c = '0' || c = '_' then passZeros c rest
    else if c = '-' || c.isDigit then some (c :: rest)
    else none

/-- Takes away zeros in front; a minus behind them counts as the sign of the number. -/
def withoutZeros? : List Char → Option (List Char)
  | [] => none
  | c :: rest =>
    if c = '0' then passZeros c rest
    else if c = '-' || c.isDigit then some (c :: rest)
    else none

/-- Takes away the zeros between a minus, if there is one, and the number. -/
def withoutSignedZeros? : List Char → Option (List Char)
  | '-' :: rest => (withoutZeros? rest).map ('-' :: ·)
  | text => withoutZeros? text

/-- A minus or none, and what follows. -/
def takeMinus : List Char → Bool × List Char
  | '-' :: rest => (true, rest)
  | text => (false, text)

/-- Whether a text begins with a number that is too long. A blank, a plus or a zero in front is no
such beginning; what comes after the digits does not matter. -/
def isOverlong (text : List Char) : Bool :=
  let digits := (takeMinus text).2.takeWhile Char.isDigit
  digits.head? != some '0' && longestInteger < digits.length

/-- A minus or none, then digits, of which the first is no zero unless it stands alone. Only digits
count towards the length. -/
def shortInteger? (text : List Char) : Option Int :=
  let (negative, digits) := takeMinus text
  if digits.isEmpty || !digits.all Char.isDigit || digits.head? = some '0' && 1 < digits.length then
    none
  else if longestInteger < digits.length then none
  else some (signed negative (valueOf digits))

/-- A whole number in a document: zeros in front and zeros after a point do not count, and
underscores may stand between digits. A number that is too long is said to be so only where
the text begins with it. -/
def integerField (text : String) : Except IntegerFlaw Int :=
  let text := text.toList
  let bare := (withoutPlus? (trim text)).bind fun text =>
    withoutSignedZeros? (withoutZeroFraction text)
  if isOverlong text then .error .tooLong
  else match bare.bind fun text => shortInteger? ((joined? text).getD text) with
    | some value => .ok value
    | none => .error .unreadable

/-- A decimal number in a document: underscores may stand anywhere inside, but then no blanks
around. -/
def decimalField? (text : String) : Option Float :=
  let text := text.toList
  if text.contains '_' then (joined? text).bind decimal? else decimal? (trim text)

end MarketAlerts.Number
