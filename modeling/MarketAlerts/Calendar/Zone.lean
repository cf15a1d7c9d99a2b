import MarketAlerts.Calendar.Timestamp

/-!
Time zones: how far the clocks of a place are from universal time at each instant. A zone has a
name that is a path, and a name that is no proper path is refused before it is looked up.
-/
namespace MarketAlerts.Calendar

/-- The offset of a zone at an instant, in microseconds of universal time from the start of day
0. -/
structure Zone where
  offsetAt : (utc : Nat) → Offset

namespace Zone

def utc : Zone := ⟨fun _ => .utc⟩

/-- Whether a path goes up at its start only, and names every folder that it goes through. -/
def isStraight (path : List (List Char)) : Bool :=
  path == [['.']] || (path.dropWhile (· == ['.', '.'])).all fun part =>
    part != [] && part != ['.'] && part != ['.', '.']

/-- Whether a straight path stays below the folder of zones, which is itself called `_`. -/
def staysBelow : List (List Char) → Bool
  | [['.']] => false
  | ['.', '.'] :: ['_'] :: _ :: _ => true
  | ['.', '.'] :: _ => false
  | _ => true

/-- What is wrong with a name as a path, whether there is such a zone or not. -/
def pathFault? (name : String) : Option Fault :=
  let path := name.toList.splitOn '/'
  if name.toList.head? = some '/' then some (.absoluteZone name)
  else if !isStraight path then some (.crookedZone name)
  else if !staysBelow path then some (.strayZone name)
  else none

/-- The zone of the engine where no other is set. -/
def defaultName : String := "UTC"

/-- An absent or empty name stands for the default zone. -/
def nameOr : Option String → String
  | some name => if name.isEmpty then defaultName else name
  | none => defaultName

end Zone

/-- The same instant on the clocks of a zone; a time without an offset is universal time. -/
def Timestamp.inZone (t : Timestamp) (zone : Zone) : Except Fault Timestamp := do
  let utc ← ofWall t.instant (some .utc)
  let offset := zone.offsetAt utc.wall
  ofWall (utc.wall + offset.micros) (some offset)

end MarketAlerts.Calendar
