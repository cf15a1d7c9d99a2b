import MarketAlerts.Document.Issue

/-!
The ways an operation can fail, and the message of each.
-/
namespace MarketAlerts

inductive Fault
  /-- A record is not made, since numbers under keys of it are out of bounds. -/
  | refused (record : String) (misfits : List (String × Document.Misfit)) (helpAddress : String)
  /-- A time would fall outside the years 1 to 9999. -/
  | dateOutOfRange
  /-- A span would exceed what a whole number of days can count. -/
  | spanDays (days : Int)
  | spanTooLong | spanOfInfinity | spanOfNaN
  /-- A zone is named by a relative path without detours that stays in the folder of zones. -/
  | absoluteZone (name : String) | crookedZone (name : String) | strayZone (name : String)
  | unknownZone (name : String)
  | divisionByZero
  | noEvents
  | missingKey (key : String)
  | noObservation (item : String)
  | noEventLoop
  | negativeCapacity | capacityTooLarge
  | noPrices
  | tooFewParts (found : Nat) | tooManyParts
  /-- A literal has more digits than are read. -/
  | tooManyDigits (found : Nat)
  | tooLargeForDouble
  | notInteger (text : String) | notNumber (text : String)
  | notField (name : String)
  deriving DecidableEq

namespace Fault

/-- Each number that is out of bounds, after the number of them. -/
def report (record : String) (misfits : List (String × Document.Misfit)) (helpAddress : String) :
    String :=
  toString misfits.length ++ " validation error" ++ (if misfits.length = 1 then "" else "s")
    ++ " for " ++ record
    ++ String.join (misfits.map fun (key, misfit) => "\n" ++ misfit.text key helpAddress)

def message : Fault → String
  | refused record misfits helpAddress => report record misfits helpAddress
  | dateOutOfRange => "date value out of range"
  | spanDays days => "days=" ++ toString days ++ "; must have magnitude <= 999999999"
  | spanTooLong => "Python int too large to convert to C int"
  | spanOfInfinity => "cannot convert float infinity to integer"
  | spanOfNaN => "cannot convert float NaN to integer"
  | absoluteZone name => "ZoneInfo keys may not be absolute paths, got: " ++ name
  | crookedZone name => "ZoneInfo keys must be normalized relative paths, got: " ++ name
  | strayZone name => "ZoneInfo keys must refer to subdirectories of TZPATH, got: " ++ name
  | unknownZone name => Text.quoted ("No time zone found with key " ++ name)
  | divisionByZero => "division by zero"
  | noEvents => "list index out of range"
  | missingKey key => Text.quoted key
  | noObservation item => "\x27NoneType\x27 object has no attribute " ++ Text.quoted item
  | noEventLoop => "no running event loop"
  | negativeCapacity => "maxlen must be non-negative"
  | capacityTooLarge => "Python int too large to convert to C ssize_t"
  | noPrices => "calculate_statistics requires at least one data point"
  | tooFewParts found => "not enough values to unpack (expected 2, got " ++ toString found ++ ")"
  | tooManyParts => "too many values to unpack (expected 2)"
  | tooManyDigits found =>
    "Exceeds the limit (4300 digits) for integer string conversion: value has " ++ toString found
      ++ " digits; use sys.set_int_max_str_digits() to increase the limit"
  | tooLargeForDouble => "int too large to convert to float"
  | notInteger text =>
    "invalid literal for int() with base 10: " ++ String.ofList ((Text.quoted text).toList.take 200)
  | notNumber text => "could not convert string to float: " ++ Text.quoted text
  | notField name => Text.quoted name ++ " is not a valid ConditionField"

end Fault

end MarketAlerts
