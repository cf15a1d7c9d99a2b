import MarketAlerts.Document.Datum

/-!
Documents made from values.
-/
namespace MarketAlerts.Document

namespace Datum

def ofOption {α : Type} (write : α → Datum) : Option α → Datum
  | some value => write value
  | none => null

def ofList {α : Type} (write : α → Datum) (values : List α) : Datum :=
  list (values.map write)

def ofTexts (values : List String) : Datum := ofList text values

def ofNat (value : Nat) : Datum := integer value

def ofTime (t : Calendar.Timestamp) : Datum := text t.text

def ofCoded {α : Type} [Coded α] (value : α) : Datum := text (Coded.code value)

def ofLabel {α : Type} [Coded α] (value : Label α) : Datum := text value.name

end Datum

end MarketAlerts.Document
