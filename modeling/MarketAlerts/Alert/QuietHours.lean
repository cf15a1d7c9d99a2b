import MarketAlerts.Document.Reader
import MarketAlerts.Document.Writer
import MarketAlerts.Installation

/-!
Hours in which an alert keeps silent: a window of the local day on chosen weekdays, which runs
through midnight when it starts later than it ends.
-/
namespace MarketAlerts

open Document Calendar

/-- Hours 00 to 23, a colon, minutes 00 to 59. The second digit of a pair may be a digit of any
script unless the hour starts with a 2, and one line break may follow. -/
def isTimeOfDay (text : String) : Bool :=
  let isPair (hour : Char × Char) : Bool :=
    ((hour.1 = '0' || hour.1 = '1') && (Text.digit? hour.2).isSome)
      || (hour.1 = '2' && '0' ≤ hour.2 && hour.2 ≤ '3')
  let isMinute (minute : Char × Char) : Bool :=
    '0' ≤ minute.1 && minute.1 ≤ '5' && (Text.digit? minute.2).isSome
  match text.toList with
  | [a, b, ':', c, d] => isPair (a, b) && isMinute (c, d)
  | [a, b, ':', c, d, '\n'] => isPair (a, b) && isMinute (c, d)
  | _ => false

abbrev TimeOfDay := { text : String // isTimeOfDay text = true }

/-- Minutes since midnight of hours and minutes around one colon, each any whole number. -/
def minutesOf (text : String) : Except Fault Int :=
  let number (part : String) : Except Fault Int :=
    match Number.excessDigits? (Number.plain part), Number.integerOf? part with
    | some found, _ => .error (.tooManyDigits found)
    | none, some value => .ok value
    | none, none => .error (.notInteger part)
  match text.toList.splitOn ':' with
  | [hours, minutes] => do
    let hours ← number (String.ofList hours)
    return hours * 60 + (← number (String.ofList minutes))
  | parts => if parts.length < 2 then .error (.tooFewParts parts.length) else .error .tooManyParts

variable [Installation]

/-- A zone that is known by its name. -/
structure NamedZone where
  name : String
  zone : Zone
  is_known : Zone.find? name = some zone

def NamedZone.ofName? (name : String) : Option NamedZone :=
  match h : Zone.find? name with
  | some zone => some ⟨name, zone, h⟩
  | none => none

/-- Weekdays count from Sunday. -/
structure QuietHours where
  enabled : Bool
  starts : TimeOfDay
  ends : TimeOfDay
  weekdays : List (Fin 7)
  zone : Option NamedZone

namespace QuietHours

def asTimeOfDay (d : Datum) : Checked TimeOfDay :=
  d.asText.andThen fun text =>
    if h : isTimeOfDay text = true then .valid ⟨text, h⟩ else .flaw (.notTimeOfDay text)

/-- The first day outside the week is refused. -/
def asWeekdays : List Int → Checked (List (Fin 7))
  | [] => .valid []
  | d :: rest =>
    if h : 0 ≤ d ∧ d ≤ 6 then (asWeekdays rest).map (⟨d.toNat, by omega⟩ :: ·)
    else .flaw (.notWeekday d)

def asZone (d : Datum) : Checked NamedZone :=
  d.asText.andThen fun name =>
    match NamedZone.ofName? name with
    | some zone => .valid zone
    | none => .flaw (.unknownZone name)

def default : QuietHours :=
  { enabled := false
    starts := ⟨"22:00", by decide +kernel⟩
    ends := ⟨"08:00", by decide +kernel⟩
    weekdays := [0, 1, 2, 3, 4, 5, 6]
    zone := none }

def read : Datum → Checked QuietHours :=
  Datum.asRecord fun fields =>
    QuietHours.mk
      <$> fields.optional "enabled" default.enabled Datum.asFlag
      <*> fields.optional "start_time" default.starts asTimeOfDay
      <*> fields.optional "end_time" default.ends asTimeOfDay
      <*> fields.optional "days" default.weekdays
            (fun d => (d.asList Datum.asInteger).andThen asWeekdays)
      <*> fields.nullable "timezone" asZone

def write (q : QuietHours) : Datum := .record [
  ("enabled", .flag q.enabled), ("start_time", .text q.starts), ("end_time", .text q.ends),
  ("days", .ofList (fun d => .ofNat d.val) q.weekdays),
  ("timezone", .ofOption (fun z => .text z.name) q.zone)]

/-- The zone in force: the window's own, else the fallback, else universal time. -/
def zoneName (quiet : QuietHours) (fallback : Option String) : String :=
  match quiet.zone with
  | some zone => zone.name
  | none => Zone.nameOr fallback

/-- Whether a minute of the day lies in the closed window. -/
def inWindow (starts ends current : Int) : Bool :=
  if ends < starts then starts ≤ current || current ≤ ends
  else starts ≤ current && current ≤ ends

def holds (quiet : QuietHours) (now : Timestamp) (fallback : Option String) : Except Fault Bool :=
  if quiet.enabled then do
    let there ← now.inNamed (quiet.zoneName fallback)
    if quiet.weekdays.any (·.val == there.weekday) then do
      let starts ← minutesOf quiet.starts
      let ends ← minutesOf quiet.ends
      return inWindow starts ends there.minuteOfDay
    else return false
  else return false

end QuietHours

end MarketAlerts
