import MarketAlerts.Calendar.Timestamp
import MarketAlerts.Document.Issue
import MarketAlerts.Number.Literal

/-!
Times as documents write them: a date with a time of day and perhaps an offset, a bare date, or a
count of seconds since 1970 in universal time, of milliseconds when it is large.
-/
namespace MarketAlerts.Calendar

/-- Two digits and the rest. -/
def twoDigits? : List Char → Option (Nat × List Char)
  | a :: b :: rest => if a.isDigit && b.isDigit then some (Number.valueOf [a, b], rest) else none
  | _ => none

/-- The day of a date of four, two and two digits, and what follows. The year 0, a leap year, can be
written as well; its days lie before day 0. -/
def datePart? (text : List Char) : Option (Int × List Char) := do
  let (century, text) ← twoDigits? text
  let (year, text) ← twoDigits? text
  let '-' :: text := text | none
  let (month, text) ← twoDigits? text
  let '-' :: text := text | none
  let (day, text) ← twoDigits? text
  let date : Date := ⟨century * 100 + year, month, day⟩
  guard date.isValid
  some (if date.year = 0 then (date.toDays : Int) - 366 else date.toDays, text)

/-- Microseconds of the digits behind the point, cut after the sixth. -/
def fractionPart? (text : List Char) : Option (Nat × List Char) :=
  let point := text.head?.any fun c => c == '.' || c == ','
  if point then
    let digits := (text.drop 1).takeWhile Char.isDigit
    if digits.isEmpty then none
    else some (Number.valueOf ((digits ++ List.replicate 6 '0').take 6),
      (text.drop 1).dropWhile Char.isDigit)
  else some (0, text)

/-- Microseconds of the day, and what follows; the seconds may be absent. -/
def clockPart? (text : List Char) : Option (Nat × List Char) := do
  let (hours, text) ← twoDigits? text
  let ':' :: text := text | none
  let (minutes, text) ← twoDigits? text
  guard (hours < 24 && minutes < 60)
  let start := hours * hour + minutes * minute
  match text with
  | ':' :: text =>
    let (seconds, text) ← twoDigits? text
    guard (seconds < 60)
    let (micros, text) ← fractionPart? text
    some (start + seconds * second + micros, text)
  | _ => some (start, text)

/-- An offset that ends the text: a letter for universal time, or a sign with hours and minutes. -/
def offsetPart? : List Char → Option (Option Offset)
  | [] => some none
  | ['Z'] => some (some .utc)
  | ['z'] => some (some .utc)
  | sign :: text => do
    guard (sign = '+' || sign = '-' || sign.toNat = 0x2212)
    let (hours, text) ← twoDigits? text
    let text := if text.head? = some ':' then text.drop 1 else text
    let (minutes, text) ← twoDigits? text
    guard (text.isEmpty && minutes < 60)
    let size : Int := hours * hour + minutes * minute
    let micros := if sign = '+' then size else -size
    if h : micros.natAbs < day then some (some ⟨micros, h⟩) else none

/-- A time of the years 0 to 9999 as documents may write it. No timestamp holds the year 0. -/
structure WrittenTime where
  wall : Int
  offset : Option Offset

namespace WrittenTime

/-- The first microsecond of the year 0. -/
def earliest : Int := -(366 * day : Nat)

def ofWall? (wall : Int) (offset : Option Offset) : Option WrittenTime :=
  if earliest ≤ wall ∧ wall < horizon then some ⟨wall, offset⟩ else none

/-- Day 0 of the count of seconds. -/
def epoch : Nat := (Date.mk 1970 1 1).toDays * day

/-- A count above this is in milliseconds. -/
def largestSeconds : Nat := 20000000000

def ofCount? (count : Int) : Option WrittenTime :=
  let unit := if count.natAbs ≤ largestSeconds then second else 1000
  ofWall? (epoch + count * unit) (some .utc)

/-- A fractional count: whole units up to its floor, and the rest to the nearest microsecond. -/
def ofFraction? (count : Float) : Option WrittenTime :=
  match Number.Binary.floor? (.ofFloat count) with
  | some floor =>
    let unit := if Float.ofNat largestSeconds < count.abs then 1000 else second
    ofWall? (epoch + floor * unit + (Number.fractionTimes unit floor count).roundUp) (some .utc)
  | none => none

/-- A count written as text: digits with a sign, or a decimal number with a point. -/
def ofNumeral? (text : List Char) : Option WrittenTime :=
  let (negative, rest) := Number.takeSign text
  let digits := rest.takeWhile Char.isDigit
  match rest.dropWhile Char.isDigit with
  | [] => if digits.isEmpty then none else ofCount? (Number.signed negative (Number.valueOf digits))
  | '.' :: _ => if text.contains '_' then none else (Number.decimal? text).bind ofFraction?
  | _ => none

/-- The date and the time of day stand apart by one character. -/
def ofIso? (text : List Char) : Option WrittenTime := do
  let (date, text) ← datePart? text
  let start : Int := date * day
  match text with
  | [] => ofWall? start none
  | between :: text =>
    guard (['T', 't', ' ', '_'].contains between)
    let (time, text) ← clockPart? text
    ofWall? (start + time) (← offsetPart? text)

def ofText? (text : String) : Option WrittenTime :=
  ofIso? text.toList <|> ofNumeral? text.toList

end WrittenTime

namespace Timestamp

def ofWritten? (written : WrittenTime) : Option Timestamp :=
  ofWall? written.wall written.offset

end Timestamp

end MarketAlerts.Calendar
