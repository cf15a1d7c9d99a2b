import MarketAlerts.Alert.Basic
import MarketAlerts.Calendar.Span

/-!
Gates that an alert passes before it is evaluated. They are tried in order, and the first that
blocks decides.
-/
namespace MarketAlerts

open Document Calendar

variable [Installation]

structure GateContext where
  now : Timestamp
  triggersToday : Nat
  /-- The zone of quiet hours that name none. -/
  zone : Option String

def GateContext.read : Datum → Checked GateContext :=
  Datum.asRecord fun fields =>
    GateContext.mk
      <$> fields.required "now" Datum.asTime
      <*> fields.optional "triggers_today" 0 (fun d => d.asInteger.andThen asCount)
      <*> fields.nullable "timezone" Datum.asText

inductive Gate
  | status | expiry | quietHours | cooldown | dailyCap
  deriving DecidableEq

inductive Decision
  | passed
  | blocked (gate : Gate) (reason : String)

namespace Gate

instance : Coded Gate where
  code
    | status => "status"
    | expiry => "expiry"
    | quietHours => "quiet_hours"
    | cooldown => "cooldown"
    | dailyCap => "daily_cap"
  all := [status, expiry, quietHours, cooldown, dailyCap]

def name (gate : Gate) : String := Coded.code gate

/-- The reason a gate blocks an alert, none when it lets it through. -/
def check (alert : Alert) (context : GateContext) : Gate → Except Fault (Option String)
  | status =>
    .ok (if alert.status = .active then none else some ("status is " ++ Coded.code alert.status))
  | expiry =>
    .ok (match alert.expiresAt with
      | some expires =>
        if expires.instant < context.now.instant then some ("expired at " ++ expires.text) else none
      | none => none)
  | quietHours => do
    if ← alert.quietHours.holds context.now context.zone then
      return some ("in quiet hours " ++ alert.quietHours.starts ++ "-" ++ alert.quietHours.ends)
    else return none
  | cooldown =>
    match alert.lastTriggeredAt with
    | none => .ok none
    | some last => do
      let pause ← minutes alert.frequency.cooldownMinutes
      if context.now.instant - last.instant < pause then
        return some ("in cooldown (" ++ Number.general alert.frequency.cooldownMinutes ++ "m)")
      else return none
  | dailyCap =>
    .ok (if alert.frequency.maxPerDay ≤ context.triggersToday then
        some ("daily limit reached (" ++ toString context.triggersToday ++ "/"
          ++ toString alert.frequency.maxPerDay.val ++ ")")
      else none)

/-- Tries gates in the order given. -/
def run (alert : Alert) (context : GateContext) : List Gate → Except Fault Decision
  | [] => .ok .passed
  | gate :: rest => do
    match ← gate.check alert context with
    | some reason => return .blocked gate reason
    | none => run alert context rest

def inOrder : List Gate := [status, expiry, quietHours, cooldown, dailyCap]

/-- All gates in their usual order. -/
def screen (alert : Alert) (context : GateContext) : Except Fault Decision :=
  run alert context inOrder

end Gate

/-- A blocked alert is noted. -/
def Decision.log (alert : Alert) : Decision → List LogLine
  | passed => []
  | blocked gate reason =>
    [⟨.debug, "Alert " ++ alert.id ++ " blocked by " ++ gate.name ++ ": " ++ reason⟩]

end MarketAlerts
