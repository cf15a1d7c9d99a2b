import MarketAlerts.Document.Reader
import MarketAlerts.Document.Writer

/-!
Thresholds of anomaly detection, each within its bounds.
-/
namespace MarketAlerts

open Document

structure AnomalyConfig where
  priceChange : FloatWithin 0 100
  volumeSpike : FloatWithin 1 100
  sigma : FloatWithin 0.5 5
  requiresNoNews : Bool
  lookbackHours : NatWithin 1 168

namespace AnomalyConfig

def read : Datum → Checked AnomalyConfig :=
  Datum.asRecord fun fields =>
    AnomalyConfig.mk
      <$> fields.optional "price_change_threshold" ⟨15, by decide⟩
            (fun d => d.asNumber.andThen (within 0 100))
      <*> fields.optional "volume_spike_multiplier" ⟨5, by decide⟩
            (fun d => d.asNumber.andThen (within 1 100))
      <*> fields.optional "statistical_sigma" ⟨2, by decide⟩
            (fun d => d.asNumber.andThen (within 0.5 5))
      <*> fields.optional "requires_no_news" true Datum.asFlag
      <*> fields.optional "news_lookback_hours" ⟨24, by decide⟩
            (fun d => d.asInteger.andThen (integerWithin 1 168))

def write (c : AnomalyConfig) : Datum := .record [
  ("price_change_threshold", .number c.priceChange),
  ("volume_spike_multiplier", .number c.volumeSpike),
  ("statistical_sigma", .number c.sigma), ("requires_no_news", .flag c.requiresNoNews),
  ("news_lookback_hours", .ofNat c.lookbackHours)]

end AnomalyConfig

end MarketAlerts
