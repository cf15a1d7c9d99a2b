import MarketAlerts.Calendar.Date
import MarketAlerts.Fault
import MarketAlerts.Number.Decimal

/-!
Times of the years 1 to 9999 with an optional offset from universal time. A time without an offset
is read as universal time; times are compared as instants, whatever their offsets.
-/
namespace MarketAlerts.Calendar

def second : Nat := 1000000
def minute : Nat := 60 * second
def hour : Nat := 60 * minute
def day : Nat := 24 * hour

/-- The first microsecond after the last day. -/
def horizon : Nat := lastDay * day

/-- Microseconds east of universal time, less than a day either way. -/
structure Offset where
  micros : Int
  lt_day : micros.natAbs < day := by decide
  deriving DecidableEq

namespace Offset

def ofSeconds (seconds : Int) (lt_day : (seconds * second).natAbs < day := by decide) : Offset :=
  ⟨seconds * second, lt_day⟩

def utc : Offset := ofSeconds 0

/-- Hours and minutes with a sign; seconds and microseconds only when there are some. -/
def text (offset : Offset) : String :=
  let size := offset.micros.natAbs
  let padded (width n : Nat) := String.ofList (Number.padLeft width (Number.digitsOf n))
  (if offset.micros < 0 then "-" else "+") ++ padded 2 (size / hour) ++ ":"
  ++ padded 2 (size / minute % 60)
    ++ (if size % minute = 0 then "" else ":" ++ padded 2 (size / second % 60))
    ++ (if size % second = 0 then "" else "." ++ padded 6 (size % second))

end Offset

/-- Microseconds shown by the clock on the wall, counted from the start of day 0. -/
structure Timestamp where
  wall : Nat
  offset : Option Offset
  wall_lt : wall < horizon
  deriving DecidableEq

namespace Timestamp

def ofWall? (wall : Int) (offset : Option Offset) : Option Timestamp :=
  if h : 0 ≤ wall ∧ wall < horizon then some ⟨wall.toNat, offset, by omega⟩ else none

def ofWall (wall : Int) (offset : Option Offset) : Except Fault Timestamp :=
  match ofWall? wall offset with
  | some t => .ok t
  | none => .error .dateOutOfRange

def offsetOrUtc (t : Timestamp) : Offset := t.offset.getD .utc

/-- The same wall time, with universal time where no offset is given. -/
def aware (t : Timestamp) : Timestamp := { t with offset := some t.offsetOrUtc }

/-- Microseconds of universal time; the instant that comparisons use. -/
def instant (t : Timestamp) : Int := t.wall - t.offsetOrUtc.micros

@[simp] theorem offsetOrUtc_aware (t : Timestamp) : t.aware.offsetOrUtc = t.offsetOrUtc := rfl

@[simp] theorem instant_aware (t : Timestamp) : t.aware.instant = t.instant := rfl

@[simp] theorem aware_aware (t : Timestamp) : t.aware.aware = t.aware := rfl

/-- Moves the wall clock by a number of microseconds. -/
def shift (t : Timestamp) (micros : Int) : Except Fault Timestamp :=
  ofWall (t.wall + micros) t.offset

def days (t : Timestamp) : Nat := t.wall / day

def minuteOfDay (t : Timestamp) : Nat := t.wall / minute % 1440

def weekday (t : Timestamp) : Nat := sundayWeekday t.days

/-- Hours and minutes of the wall clock. -/
def clockText (t : Timestamp) : String :=
  let two (n : Nat) := String.ofList (Number.padLeft 2 (Number.digitsOf n))
  two (t.minuteOfDay / 60) ++ ":" ++ two (t.minuteOfDay % 60)

/-- Date, time to the second, microseconds when there are some, and the offset when there is one. -/
def text (t : Timestamp) : String :=
  let padded (width n : Nat) := String.ofList (Number.padLeft width (Number.digitsOf n))
  let date := Date.ofDays t.days
  let micros := t.wall % second
  padded 4 date.year ++ "-" ++ padded 2 date.month ++ "-" ++ padded 2 date.day ++ "T" ++ t.clockText
    ++ ":" ++ padded 2 (t.wall / second % 60)
    ++ (if micros = 0 then "" else "." ++ padded 6 micros)
    ++ (t.offset.elim "" Offset.text)

end Timestamp

end MarketAlerts.Calendar
