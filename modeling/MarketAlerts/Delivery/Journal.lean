import MarketAlerts.Delivery.Loop
import MarketAlerts.Log
import MarketAlerts.Number.Decimal

/-!
Lines of the log that the batcher writes.
-/
namespace MarketAlerts.Delivery

/-- A window is shown as a double. -/
def Note.line? {ε τ ω : Type} (asDouble : τ → Float) : Note String ε τ ω → Option LogLine
  | queued key _ pending window =>
    some ⟨.debug, "Batch " ++ key ++ ": " ++ toString pending ++ " pending, window "
      ++ Number.general (asDouble window) ++ "m"⟩
  | callbackFailed key => some ⟨.error, "Batch callback failed for " ++ key⟩
  | deliveryFailed key => some ⟨.error, "Batch delivery failed for " ++ key⟩
  | flushed batches => some ⟨.info, "Flushed " ++ toString batches ++ " pending batches"⟩
  | joined _ _ => none
  | called _ _ => none
  | emitted _ => none

end MarketAlerts.Delivery
