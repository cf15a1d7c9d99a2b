import MarketAlerts.Number.Decimal
import MarketAlerts.Number.Literal
import MarketAlerts.Text.Quoted

/-!
What is wrong with a document: a path to the offending value, and the kind of defect found there.
-/
namespace MarketAlerts.Document

/-- How a number should relate to a bound. -/
inductive Relation
  | atMost | atLeast | above
  deriving DecidableEq

namespace Relation

def code : Relation → String
  | atMost => "less_than_equal"
  | atLeast => "greater_than_equal"
  | above => "greater_than"

def words : Relation → String
  | atMost => "less than or equal to"
  | atLeast => "greater than or equal to"
  | above => "greater than"

end Relation

/-- Numbers that reports show, as values and as bounds, with the name of their type. -/
class Shown (α : Type) where
  shown : α → String
  bound : α → String
  typeName : String

instance : Shown Float := ⟨Number.shortest, Number.general, "float"⟩

/-- A whole number that is too long to be written is not shown. -/
instance : Shown Int where
  shown n :=
    if Number.longestInteger < (Number.digitsOf n.natAbs).length then "<unprintable int object>"
    else toString n
  bound := toString
  typeName := "int"

instance : Shown Rat := ⟨toString, toString, "Fraction"⟩

/-- A number that does not relate to a bound as it should, and both as they are shown. -/
structure Misfit where
  relation : Relation
  bound : String
  found : String
  type : String
  deriving DecidableEq

namespace Misfit

def of {α : Type} [Shown α] (relation : Relation) (bound found : α) : Misfit :=
  ⟨relation, Shown.bound bound, Shown.shown found, Shown.typeName α⟩

/-- Of a long text only both ends are shown. -/
def shorten (text : String) : String :=
  if text.length ≤ 50 then text
  else String.ofList (text.toList.take 25) ++ "..."
    ++ String.ofList (text.toList.drop (text.length - 24))

/-- What a report says of a number under a key, with the page that explains it. -/
def text (misfit : Misfit) (key helpAddress : String) : String :=
  key ++ "\n  Input should be " ++ misfit.relation.words ++ " " ++ misfit.bound
    ++ " [type=" ++ misfit.relation.code ++ ", input_value=" ++ shorten misfit.found
    ++ ", input_type=" ++ misfit.type ++ "]\n    For further information visit " ++ helpAddress
    ++ "/v/" ++ misfit.relation.code

end Misfit

inductive Defect
  | missing | recordExpected | listExpected | tupleExpected | mappingExpected
  | textExpected | textTooShort | textTooLong
  | numberExpected | numberUnreadable
  | integerExpected | integerUnreadable | integerTooLong | fractionFound | notFinite
  | flagExpected | flagUnreadable
  | notListed
  | timeExpected | timeUnreadable | timeTooFar
  | outOfBounds (misfit : Misfit)
  | frozen | unknownSetting
  | unknownZone (name : String) | notTimeOfDay (text : String) | notWeekday (day : Int)
  deriving DecidableEq

namespace Defect

/-- The code under which a report lists the defect; a rule of this project explains itself
instead. -/
def code : Defect → String
  | missing => "missing"
  | recordExpected => "model_type"
  | listExpected => "list_type"
  | tupleExpected => "tuple_type"
  | mappingExpected => "dict_type"
  | textExpected => "string_type"
  | textTooShort => "string_too_short"
  | textTooLong => "string_too_long"
  | numberExpected => "float_type"
  | numberUnreadable => "float_parsing"
  | integerExpected => "int_type"
  | integerUnreadable => "int_parsing"
  | integerTooLong => "int_parsing_size"
  | fractionFound => "int_from_float"
  | notFinite => "finite_number"
  | flagExpected => "bool_type"
  | flagUnreadable => "bool_parsing"
  | notListed => "enum"
  | timeExpected => "datetime_type"
  | timeUnreadable => "datetime_from_date_parsing"
  | timeTooFar => "datetime_parsing"
  | outOfBounds misfit => misfit.relation.code
  | frozen => "frozen_instance"
  | unknownSetting => "extra_forbidden"
  | unknownZone name => "Value error, unknown timezone: " ++ Text.quoted name
  | notTimeOfDay text => "Value error, expected HH:MM, got " ++ Text.quoted text
  | notWeekday day => "Value error, weekday out of range: " ++ toString day

end Defect

structure Issue where
  path : List String
  defect : Defect
  deriving DecidableEq

namespace Issue

/-- The same issue, seen from one level further out. -/
def under (key : String) (issue : Issue) : Issue :=
  { issue with path := key :: issue.path }

/-- A number under a key that is out of bounds. -/
def misfit? (issue : Issue) : Option (String × Misfit) :=
  match issue.defect with
  | .outOfBounds misfit => some (String.intercalate "." issue.path, misfit)
  | _ => none

end Issue

end MarketAlerts.Document
