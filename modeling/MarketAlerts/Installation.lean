import MarketAlerts.Calendar.Zone

/-!
What the program finds where it is installed: the time zones that are known there, and the pages
that explain why a value is refused. Nothing is assumed of them but that the default zone is known.
-/
namespace MarketAlerts

open Calendar

class Installation where
  /-- The zone under a name that is a proper path. -/
  zone? : String → Option Zone
  zone_default : zone? Zone.defaultName = some .utc
  /-- The address below which the pages are. -/
  helpAddress : String

namespace Calendar

variable [Installation]

/-- A name that is no known zone fails where it is used, not where it is stored. -/
def Zone.find (name : String) : Except Fault Zone :=
  match pathFault? name, Installation.zone? name with
  | some fault, _ => .error fault
  | none, some zone => .ok zone
  | none, none => .error (.unknownZone name)

def Zone.find? (name : String) : Option Zone := (find name).toOption

theorem Zone.find?_default : Zone.find? Zone.defaultName = some .utc := by
  have proper : Zone.pathFault? Zone.defaultName = none := by decide +kernel
  rw [find?, find, proper, Installation.zone_default]
  rfl

/-- The same instant in a zone given by name. -/
def Timestamp.inNamed (t : Timestamp) (name : String) : Except Fault Timestamp := do
  t.inZone (← Zone.find name)

end Calendar

end MarketAlerts
