import MarketAlerts.Alert.Basic
import MarketAlerts.Event

/-!
Changes of an alert. An operation that fails may already have changed the alert, so its result
stands beside the alert it leaves behind.
-/
namespace MarketAlerts

open Document Calendar

variable [Installation]

/-- The alert after an operation, what the operation gives back, and what it writes. -/
structure Change (α : Type) where
  alert : Alert
  result : Except Fault α
  log : List LogLine

namespace Alert

/-- Bookkeeping of a trigger. The status stays, so the alert goes on being evaluated. -/
def recordTrigger (alert : Alert) (event : Event) : Alert :=
  { alert with
    lastTriggeredAt := some event.triggeredAt
    triggeredCount := alert.triggeredCount + 1
    updatedAt := event.triggeredAt }

def expire (alert : Alert) (now : Timestamp) : Change Unit :=
  if alert.status = .expired then ⟨alert, .ok (), []⟩
  else
    { alert := { alert with status := .expired, updatedAt := now }
      result := .ok ()
      log := [⟨.info, "Alert " ++ alert.id ++ " (" ++ alert.ticker ++ ") expired"⟩] }

/-- The end of a snooze. -/
def wakeTime (hours : Number.Quantity) (now : Timestamp) : Except Fault Timestamp := do
  let span ← Calendar.hours hours
  now.aware.shift span

/-- The status is set before the end of the snooze is known. -/
def snooze (alert : Alert) (hours : Number.Quantity) (now : Timestamp) : Change Unit :=
  let silent := { alert with status := .snoozed }
  match wakeTime hours now with
  | .error fault => ⟨silent, .error fault, []⟩
  | .ok wake =>
    { alert := { silent with snoozedUntil := some wake, updatedAt := now }
      result := .ok ()
      log := [⟨.info, "Alert " ++ alert.id ++ " snoozed until " ++ wake.text⟩] }

/-- Whether a snooze has an end and the end has come. -/
def isDue (alert : Alert) (now : Timestamp) : Bool :=
  alert.status = .snoozed && alert.snoozedUntil.any fun wake => decide (wake.instant ≤ now.instant)

/-- Wakes a snoozed alert whose time has come; says whether it did. -/
def resumeIfDue (alert : Alert) (now : Timestamp) : Change Bool :=
  if alert.isDue now then
    { alert := { alert with status := .active, snoozedUntil := none, updatedAt := now }
      result := .ok true
      log := [⟨.info, "Alert " ++ alert.id ++ " resumed after snooze"⟩] }
  else ⟨alert, .ok false, []⟩

def dismiss (alert : Alert) (now : Timestamp) : Alert :=
  { alert with status := .dismissed, updatedAt := now }

/-- An active alert is disabled, any other becomes active. -/
def toggle (alert : Alert) (now : Timestamp) : Alert :=
  { alert with
    status := if alert.status = .active then .disabled else .active
    updatedAt := now }

end Alert

end MarketAlerts
