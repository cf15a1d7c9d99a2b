import MarketAlerts.Delivery.Run
import MarketAlerts.Notification.Template

/-!
Channels that notifications go to. A channel may take its time and it may fail; a failure is logged
and does not keep the others from their turn.
-/
namespace MarketAlerts

open Delivery

/-- What a delivery gives out. -/
inductive Dispatch
  /-- A batch is handed to the channels. -/
  | opened (ticker : String) (events : List Event)
  /-- The channel at a position has a notification. -/
  | received (position : Nat) (template : Template)
  | logged (line : LogLine)

structure Notifier where
  /-- How the log speaks of the channel. -/
  label : String
  compose : String → List Event → Except Fault Template := Template.compose
  /-- Seconds that pass before a notification is there. -/
  latency : Option Float := none
  /-- Lines written on the way, or the reason why nothing arrives. -/
  send : Template → Except String (List LogLine) := fun _ => .ok []

namespace Notifier

/-- Writes each notification to the log. -/
def logging : Notifier :=
  { label := "<log>"
    send := fun template => match template.logLine with
      | .ok line => .ok [line]
      | .error fault => .error fault.message }

def quiet (label : String) : Notifier := { label }

def delayed (label : String) (seconds : Float) : Notifier := { label, latency := some seconds }

def failing (label reason : String) : Notifier := { label, send := fun _ => .error reason }

def failureLine (notifier : Notifier) (reason : String) : LogLine :=
  ⟨.error, "Notifier error " ++ notifier.label ++ ": " ++ reason⟩

/-- The steps by which one channel is served. -/
def serve (notifier : Notifier) (position : Nat) (ticker : String) (events : List Event) :
    List (Action Float Dispatch) :=
  match notifier.compose ticker events with
  | .error fault => [.emit (.logged (notifier.failureLine fault.message))]
  | .ok template =>
    (notifier.latency.map Action.pause).toList ++ match notifier.send template with
      | .error reason => [.emit (.logged (notifier.failureLine reason))]
      | .ok lines =>
        lines.map (fun line => .emit (.logged line)) ++ [.emit (.received position template)]

/-- A batch goes to one channel after the other. -/
def deliver (notifiers : List Notifier) (ticker : String) (events : List Event) :
    List (Action Float Dispatch) :=
  .emit (.opened ticker events)
    :: notifiers.zipIdx.flatMap fun (notifier, position) => notifier.serve position ticker events

end Notifier

end MarketAlerts
