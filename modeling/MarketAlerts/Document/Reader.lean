import MarketAlerts.Calendar.Written
import MarketAlerts.Document.Datum

/-!
Readers of single values. They are lenient where the meaning is plain: a number may be written as
text, a flag as a word, a whole number as a decimal without a fraction.
-/
namespace MarketAlerts.Document

open Calendar Checked

variable {α : Type}

abbrev FloatWithin (least most : Float) := { x : Float // least ≤ x ∧ x ≤ most }

abbrev NatWithin (least most : Nat) := { n : Nat // least ≤ n ∧ n ≤ most }

/-- The whole number that a double is, if it is one. -/
def wholeOf? (x : Float) : Option Int := (Number.Binary.ofFloat x).whole?

/-- The first whole number past those of 64 bits. -/
def machineEnd : Int := (Nat.pow 2 63 : Nat)

/-- Whole numbers that are given as doubles lie strictly between the bounds of 64 bits. -/
def isMachineSized (value : Int) : Bool := -machineEnd < value && value < machineEnd

namespace Datum

def asText : Datum → Checked String
  | text value => valid value
  | _ => flaw .textExpected

/-- Lengths count characters; the longest may be left open. -/
def asTextSized (least : Nat) (most : Option Nat) (d : Datum) : Checked String :=
  d.asText.andThen fun value =>
    if value.length < least then flaw .textTooShort
    else if most.any (· < value.length) then flaw .textTooLong
    else valid value

def asNumber : Datum → Checked Float
  | number value => valid value
  | integer value =>
    if (Float.ofInt value).isInf then flaw .numberExpected else valid (Float.ofInt value)
  | flag value => valid (if value then 1 else 0)
  | text value => (Number.decimalField? value).elim (flaw .numberUnreadable) valid
  | _ => flaw .numberExpected

def asInteger : Datum → Checked Int
  | integer value => valid value
  | flag value => valid (if value then 1 else 0)
  | number value =>
    match wholeOf? value with
    | some whole => if isMachineSized whole then valid whole else flaw .integerTooLong
    | none => flaw (if value.isFinite then .fractionFound else .notFinite)
  | text value =>
    match Number.integerField value with
    | .ok whole => valid whole
    | .error .unreadable => flaw .integerUnreadable
    | .error .tooLong => flaw .integerTooLong
  | _ => flaw .integerExpected

def flagWords : List (String × Bool) := [
  ("0", false), ("f", false), ("false", false), ("n", false), ("no", false), ("off", false),
  ("1", true), ("t", true), ("true", true), ("y", true), ("yes", true), ("on", true)]

def flagOfInteger (value : Int) : Checked Bool :=
  if value = 0 then valid false
  else if value = 1 then valid true
  else if -machineEnd ≤ value ∧ value < machineEnd then flaw .flagUnreadable
  else flaw .flagExpected

def asFlag : Datum → Checked Bool
  | flag value => valid value
  | integer value => flagOfInteger value
  | number value => ((wholeOf? value).filter isMachineSized).elim (flaw .flagExpected) flagOfInteger
  | text value =>
    (flagWords.lookup (String.ofList (value.toList.map Char.toLower))).elim
      (flaw .flagUnreadable) valid
  | _ => flaw .flagExpected

/-- A time that can be written need not be one that a timestamp holds. -/
def heldTime (written : WrittenTime) : Checked Timestamp :=
  (Timestamp.ofWritten? written).elim (flaw .timeTooFar) valid

def asTime : Datum → Checked Timestamp
  | text value => (WrittenTime.ofText? value).elim (flaw .timeUnreadable) heldTime
  | integer value =>
    if (Float.ofInt value).isInf then flaw .timeExpected
    else (WrittenTime.ofCount? value).elim (flaw .timeTooFar) heldTime
  | number value => (WrittenTime.ofFraction? value).elim (flaw .timeTooFar) heldTime
  | _ => flaw .timeExpected

/-- One of a closed list of names. -/
def asCoded (α : Type) [Coded α] : Datum → Checked α
  | text value => (Coded.find? value).elim (flaw .notListed) valid
  | _ => flaw .notListed

/-- A name of the list or any other text; what is neither fails both ways. -/
def asLabel (α : Type) [Coded α] (listName : String) : Datum → Checked (Label α)
  | text value => valid (.ofName value)
  | _ => invalid [⟨["str-enum[" ++ listName ++ "]"], .notListed⟩, ⟨["str"], .textExpected⟩]

/-- Every item is read; the path of an issue starts at the item's position. -/
def readItems (read : Datum → Checked α) : (position : Nat) → List Datum → Checked (List α)
  | _, [] => valid []
  | position, item :: rest =>
    List.cons <$> (read item).under (toString position) <*> readItems read (position + 1) rest

def asList (read : Datum → Checked α) : Datum → Checked (List α)
  | list items => readItems read 0 items
  | _ => flaw .listExpected

/-- A list of fixed content, refused under another name. -/
def asTuple (read : Datum → Checked α) : Datum → Checked (List α)
  | list items => readItems read 0 items
  | _ => flaw .tupleExpected

def readEntries (read : Datum → Checked α) : Fields → Checked (List (String × α))
  | [] => valid []
  | (key, item) :: rest =>
    (fun value others => (key, value) :: others) <$> (read item).under key <*> readEntries read rest

/-- Keys of any name with values of one kind. -/
def asMapping (read : Datum → Checked α) : Datum → Checked (List (String × α))
  | record fields => readEntries read fields
  | _ => flaw .mappingExpected

def orNull (read : Datum → Checked α) : Datum → Checked (Option α)
  | null => valid none
  | d => some <$> read d

def asRecord (read : Fields → Checked α) : Datum → Checked α
  | record fields => read fields
  | _ => flaw .recordExpected

end Datum

namespace Fields

def required (fields : Fields) (key : String) (read : Datum → Checked α) : Checked α :=
  ((fields.lookup key).elim (flaw .missing) read).under key

/-- A field that may be left out; the value it then has is not checked. -/
def optional (fields : Fields) (key : String) (otherwise : α) (read : Datum → Checked α) :
    Checked α :=
  ((fields.lookup key).elim (valid otherwise) read).under key

/-- A field that may be left out or null. -/
def nullable (fields : Fields) (key : String) (read : Datum → Checked α) : Checked (Option α) :=
  optional fields key none (Datum.orNull read)

end Fields

/-- The upper bound is looked at first; what is no number fails there. -/
def within (least most : Float) (x : Float) : Checked (FloatWithin least most) :=
  if hi : x ≤ most then
    if lo : least ≤ x then valid ⟨x, lo, hi⟩ else flaw (.outOfBounds (.of .atLeast least x))
  else flaw (.outOfBounds (.of .atMost most x))

def atLeast (least : Float) (x : Float) : Checked { x : Float // least ≤ x } :=
  if h : least ≤ x then valid ⟨x, h⟩ else flaw (.outOfBounds (.of .atLeast least x))

/-- Above the lower bound, and at most the upper one. -/
def above (least most : Float) (x : Float) : Checked { x : Float // least < x ∧ x ≤ most } :=
  if hi : x ≤ most then
    if lo : least < x then valid ⟨x, lo, hi⟩ else flaw (.outOfBounds (.of .above least x))
  else flaw (.outOfBounds (.of .atMost most x))

def integerWithin (least most : Nat) (value : Int) : Checked (NatWithin least most) :=
  if hi : value ≤ most then
    if lo : least ≤ value then valid ⟨value.toNat, by omega⟩
    else flaw (.outOfBounds (.of .atLeast (least : Int) value))
  else flaw (.outOfBounds (.of .atMost (most : Int) value))

/-- A count: no bound but zero. -/
def asCount (value : Int) : Checked Nat :=
  if 0 ≤ value then valid value.toNat else flaw (.outOfBounds (.of .atLeast 0 value))

end MarketAlerts.Document
