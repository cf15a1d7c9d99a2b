import MarketAlerts.Calendar.Timestamp

/-!
Documents before anything is known about them, and the outcome of reading one: a value, or every
issue found, in the order of the fields.
-/
namespace MarketAlerts.Document

/-- A record keeps the order of its keys. -/
inductive Datum
  | null
  | flag (value : Bool)
  | integer (value : Int)
  | number (value : Float)
  | text (value : String)
  | list (items : List Datum)
  | record (fields : List (String × Datum))

abbrev Fields := List (String × Datum)

/-- A value, or all that is wrong with the document. -/
inductive Checked (α : Type)
  | valid (value : α)
  | invalid (issues : List Issue)

namespace Checked

variable {α β : Type}

def map (f : α → β) : Checked α → Checked β
  | valid a => valid (f a)
  | invalid issues => invalid issues

/-- Both sides are read; the issues of the first come first. -/
def seq (f : Checked (α → β)) (a : Checked α) : Checked β :=
  match f, a with
  | valid f, valid a => valid (f a)
  | valid _, invalid issues => invalid issues
  | invalid issues, valid _ => invalid issues
  | invalid first, invalid later => invalid (first ++ later)

instance : Applicative Checked where
  pure := valid
  map := map
  seq f a := f.seq (a ())

/-- A further check, made only on a value that has none of the issues looked for so far. -/
def andThen (a : Checked α) (check : α → Checked β) : Checked β :=
  match a with
  | valid a => check a
  | invalid issues => invalid issues

def flaw (defect : Defect) : Checked α := invalid [⟨[], defect⟩]

/-- The issues as seen from the record or list that holds the value. -/
def under (key : String) : Checked α → Checked α
  | valid a => valid a
  | invalid issues => invalid (issues.map (·.under key))

/-- The value of a record that is to be made, where no more than bounds can keep it from being
made. -/
def orRefuse (record helpAddress : String) : Checked α → Except Fault α
  | valid a => .ok a
  | invalid issues => .error (.refused record (issues.filterMap Issue.misfit?) helpAddress)

@[simp] theorem orRefuse_eq_ok_iff (record helpAddress : String) (c : Checked α) (a : α) :
    c.orRefuse record helpAddress = .ok a ↔ c = valid a := by
  cases c <;> simp [orRefuse]

end Checked

/-- Names under which documents write the values of a closed list. Every value is listed, and no two
have one name. -/
class Coded (α : Type) where
  code : α → String
  all : List α
  find_code : ∀ a, all.find? (code · == code a) = some a := by intro a; cases a <;> rfl

namespace Coded

variable {α : Type} [Coded α]

def find? (name : String) : Option α :=
  (all : List α).find? (code · == name)

@[simp] theorem find?_code (a : α) : find? (code a) = some a := find_code a

theorem code_of_find? {name : String} {a : α} (h : find? name = some a) : code a = name := by
  simpa using List.find?_some h

end Coded

/-- A name that may stand outside the list; it is kept as it is. -/
inductive Label (α : Type)
  | known (value : α)
  | other (name : String)
  deriving DecidableEq

namespace Label

variable {α : Type} [Coded α]

def ofName (name : String) : Label α :=
  match Coded.find? name with
  | some value => known value
  | none => other name

def name : Label α → String
  | known value => Coded.code value
  | other name => name

@[simp] theorem ofName_code (a : α) : ofName (Coded.code a) = known a := by
  simp [ofName]

@[simp] theorem name_ofName (text : String) : (ofName text : Label α).name = text := by
  unfold ofName
  split
  · next found => exact Coded.code_of_find? found
  · rfl

end Label

/-- What a document leaves open: an identifier of its own and the current time. -/
structure Defaults where
  id : String
  now : Calendar.Timestamp

end MarketAlerts.Document
