import MarketAlerts.Installation

/-!
Zones by rule: a standard offset and, where clocks are moved, the offset of the summer and the two
yearly turning points. The rules are those of the years from 2015 on.
-/
namespace MarketAlerts

namespace Calendar

/-- The `week`-th given weekday of a month (Sunday is 0, week 5 the last), at a local time of
day. -/
structure Turn where
  month : Nat
  week : Nat
  weekday : Nat
  seconds : Nat := 7200

def Turn.dayOfMonth (turn : Turn) (year : Nat) : Nat :=
  let first := (Date.mk year turn.month 1).toDays
  let earliest := (turn.weekday + 7 - sundayWeekday first) % 7 + 1
  let candidate := earliest + 7 * (turn.week - 1)
  if monthLength year turn.month < candidate then candidate - 7 else candidate

/-- Wall-clock microseconds of the turn in a year. -/
def Turn.wall (turn : Turn) (year : Nat) : Nat :=
  (Date.mk year turn.month (turn.dayOfMonth year)).toDays * day + turn.seconds * second

structure Summer where
  offset : Offset
  begins : Turn
  ends : Turn

/-- Whether summer time holds; a summer that begins late in the year runs on into the next one. -/
def Summer.holds (summer : Summer) (standard : Offset) (utc : Nat) : Bool :=
  let year := Date.yearOf (utc / day)
  let begins : Int := summer.begins.wall year - standard.micros
  let ends : Int := summer.ends.wall year - summer.offset.micros
  if begins < ends then begins ≤ utc && utc < ends else begins ≤ utc || utc < ends

structure ZoneRule where
  standard : Offset
  summer : Option Summer := none

namespace ZoneRule

def zone (rule : ZoneRule) : Zone where
  offsetAt utc := match rule.summer with
    | some summer => if summer.holds rule.standard utc then summer.offset else rule.standard
    | none => rule.standard

def moscow : ZoneRule := { standard := .ofSeconds 10800 }

def london : ZoneRule :=
  { standard := .utc
    summer := some ⟨.ofSeconds 3600, ⟨3, 5, 0, 3600⟩, ⟨10, 5, 0, 7200⟩⟩ }

def newYork : ZoneRule :=
  { standard := .ofSeconds (-18000)
    summer := some ⟨.ofSeconds (-14400), ⟨3, 2, 0, 7200⟩, ⟨11, 1, 0, 7200⟩⟩ }

def stJohns : ZoneRule :=
  { standard := .ofSeconds (-12600)
    summer := some ⟨.ofSeconds (-9000), ⟨3, 2, 0, 7200⟩, ⟨11, 1, 0, 7200⟩⟩ }

def tokyo : ZoneRule := { standard := .ofSeconds 32400 }

def lordHowe : ZoneRule :=
  { standard := .ofSeconds 37800
    summer := some ⟨.ofSeconds 39600, ⟨10, 1, 0, 7200⟩, ⟨4, 1, 0, 7200⟩⟩ }

/-- Rules by the name of the zone. -/
def named : List (String × ZoneRule) := [
  (Zone.defaultName, { standard := .utc }),
  ("Europe/Moscow", moscow),
  ("Europe/London", london),
  ("America/New_York", newYork),
  ("America/St_Johns", stJohns),
  ("Asia/Tokyo", tokyo),
  ("Asia/Kolkata", { standard := .ofSeconds 19800 }),
  ("Asia/Kathmandu", { standard := .ofSeconds 20700 }),
  ("Australia/Lord_Howe", lordHowe),
  ("Pacific/Kiritimati", { standard := .ofSeconds 50400 }),
  ("Pacific/Pago_Pago", { standard := .ofSeconds (-39600) }),
  ("Etc/GMT-14", { standard := .ofSeconds 50400 }),
  ("Etc/GMT+12", { standard := .ofSeconds (-43200) })]

end ZoneRule

end Calendar

/-- An installation that knows the zones by rule. -/
abbrev Installation.byRule (helpAddress : String) : Installation where
  zone? name := (Calendar.ZoneRule.named.lookup name).map Calendar.ZoneRule.zone
  zone_default := rfl
  helpAddress

instance : Installation := .byRule ""

theorem Calendar.Zone.find?_of_lookup {name : String} {rule : Calendar.ZoneRule}
    (proper : pathFault? name = none) (listed : Calendar.ZoneRule.named.lookup name = some rule) :
    find? name = some rule.zone := by
  have known : Installation.zone? name = some rule.zone :=
    congrArg (Option.map Calendar.ZoneRule.zone) listed
  rw [find?, find, proper, known]
  rfl

end MarketAlerts
