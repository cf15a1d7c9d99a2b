import MarketAlerts.Text.Lowercase

/-!
Sentiment of a text by keywords: each negative keyword found takes the weight away, each positive
one adds it, and the score is held between -1 and 1. Scores may be doubles or exact numbers.
-/
namespace MarketAlerts

/-- Numbers in which things can be counted. -/
class Counts (α : Type) where
  ofCount : Nat → α

instance : Counts Float := ⟨Float.ofNat⟩

instance : Counts Rat := ⟨fun n => (n : Rat)⟩

namespace Sentiment

/-- Stems of bad news, in Russian and in English. -/
def negativeKeywords : List String := [
  "падение", "снижение", "убыток", "кризис", "банкротство", "риск",
  "потери", "долг", "падают", "снижаются", "обвал", "дефолт", "санкции",
  "decline", "loss", "crisis", "bankruptcy", "default", "downgrade",
  "lawsuit", "plunge", "selloff", "sanction"]

/-- Stems of good news, in Russian and in English. -/
def positiveKeywords : List String := [
  "рост", "прибыль", "успех", "достижение", "увеличение", "дивиденд",
  "растут", "повышение", "расширение", "инновация", "лидер", "прорыв",
  "growth", "profit", "record", "dividend", "upgrade", "beat",
  "expansion", "breakthrough", "rally"]

end Sentiment

/-- Keywords in lower case and the weight of one of them. -/
structure Analyzer (α : Type) where
  negative : List String
  positive : List String
  weight : α

namespace Analyzer

variable {α : Type}

/-- A list that is absent or empty is replaced by the one built in. -/
def keywordsOr (builtIn : List String) : Option (List String) → List String
  | some (keyword :: more) => (keyword :: more).map Text.lower
  | _ => builtIn.map Text.lower

def ofKeywords (negative positive : Option (List String)) (weight : α) : Analyzer α :=
  { negative := keywordsOr Sentiment.negativeKeywords negative
    positive := keywordsOr Sentiment.positiveKeywords positive
    weight }

variable [OfNat α 0] [OfNat α 1] [Neg α] [Add α] [Sub α] [Div α] [LT α] [DecidableLT α]

/-- Takes a step for each keyword that occurs in the text. -/
def tally (keywords : List String) (text : List Char) (step : α → α) (start : α) : α :=
  keywords.foldl
    (fun score keyword => if Text.occursIn keyword.toList text then step score else score) start

/-- Holds a score between -1 and 1; what compares with nothing becomes 1. -/
def clamp (score : α) : α :=
  let capped := if score < 1 then score else 1
  if -1 < capped then capped else -1

/-- The score of a text in lower case. -/
def scoreLower (analyzer : Analyzer α) (text : List Char) : α :=
  clamp (tally analyzer.positive text (· + analyzer.weight)
    (tally analyzer.negative text (· - analyzer.weight) 0))

/-- Whether any keyword occurs in a text. -/
def finds (analyzer : Analyzer α) (text : String) : Bool :=
  let text := (Text.lower text).toList
  (analyzer.negative ++ analyzer.positive).any fun keyword => Text.occursIn keyword.toList text

def score (analyzer : Analyzer α) (text : String) : α :=
  analyzer.scoreLower (Text.lower text).toList

/-- The average, added up from the left; no scores average to 0. -/
def average [Counts α] (scores : List α) : α :=
  if scores.isEmpty then 0 else scores.foldl (· + ·) 0 / Counts.ofCount scores.length

end Analyzer

end MarketAlerts
