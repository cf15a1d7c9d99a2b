import MarketAlerts.Document.Reader
import MarketAlerts.Document.Writer

/-!
The result of evaluating a rule: whether it fires, why, and which of its parts hold.
-/
namespace MarketAlerts

open Document

structure Finding where
  triggered : Bool
  reason : String
  conditionsMet : List String

def Finding.read : Datum → Checked Finding :=
  Datum.asRecord fun fields =>
    Finding.mk
      <$> fields.required "triggered" Datum.asFlag
      <*> fields.required "reason" Datum.asText
      <*> fields.optional "conditions_met" [] (Datum.asList Datum.asText)

def Finding.fields (f : Finding) : Fields := [
  ("triggered", .flag f.triggered), ("reason", .text f.reason),
  ("conditions_met", .ofTexts f.conditionsMet)]

def Finding.write (f : Finding) : Datum := .record f.fields

end MarketAlerts
