import MarketAlerts.Delivery.Journal
import MarketAlerts.Engine.Basic

/-!
Ticks and deliveries. A tick first wakes alerts whose snooze is over, then evaluates every alert
against the same history, and only then keeps book of what fired.
-/
namespace MarketAlerts

open Document Calendar Delivery

variable [Installation]

/-- What is known of the market in a tick, by ticker. -/
structure Market where
  observation : String → Option Observation
  news : String → Option (Coverage Float)
  prices : String → Option (List PricePoint)

/-- An engine and the alerts it watches. -/
structure Desk where
  engine : Engine
  alerts : List Alert

structure TickResult where
  desk : Desk
  evaluations : List Evaluation

namespace Engine

def log (engine : Engine) (lines : List LogLine) : Engine :=
  { engine with loop := engine.loop.emitAll (lines.map .logged) }

def tally (engine : Engine) (update : Tallies → Tallies) : Engine :=
  { engine with tallies := update engine.tallies }

/-- The way a batch leaves the engine. -/
def delivery (engine : Engine) : Callback String Event Float Dispatch :=
  .plain fun ticker events =>
    ⟨[], .awaiting (Notifier.deliver engine.notifiers ticker events) false⟩

def triggerLine (alert : Alert) (event : Event) : LogLine :=
  ⟨.success, "[" ++ Coded.code alert.priority ++ "] " ++ alert.name ++ " (" ++ alert.ticker ++ "): "
    ++ event.reason⟩

/-- Records an event and sends it on its way, in a batch or by itself. -/
def handle (engine : Engine) (alert : Alert) (event : Event) : Engine :=
  let engine := { engine with history := engine.history.record event }
  let engine := (engine.tally fun t => { t with triggers := t.triggers + 1 }).log
    [triggerLine alert event]
  let loop :=
    if alert.frequency.batching then
      engine.loop.add alert.ticker event alert.frequency.windowMinutes engine.delivery
    else
      engine.loop.spawn .direct alert.ticker
        (Notifier.deliver engine.notifiers alert.ticker [event]) false
  { engine with loop }

/-- Evaluates one alert of a tick; a failure stays with its alert. -/
def evaluateListed (engine : Engine) (alert : Alert) (market : Market) (now : Timestamp)
    (id : String) : Evaluation :=
  let outcome := match market.observation alert.ticker with
    | none => .unobserved
    | some seen =>
      let evidence := ⟨some seen, market.news alert.ticker, market.prices alert.ticker⟩
      match engine.evaluate alert evidence now none id with
      | .ok outcome => outcome
      | .error fault => .failed fault
  ⟨alert.id, alert.ticker, outcome⟩

def listedLog (engine : Engine) (alert : Alert) (market : Market) (now : Timestamp) :
    List LogLine :=
  match market.observation alert.ticker with
  | none => [⟨.debug, "No market data for " ++ alert.ticker ++ ", skipping alert " ++ alert.id⟩]
  | some seen =>
    let evidence := ⟨some seen, market.news alert.ticker, market.prices alert.ticker⟩
    engine.evaluateLog alert evidence now none
      ++ match engine.evaluate alert evidence now none "" with
        | .ok _ => []
        | .error _ =>
          [⟨.error, "Evaluation failed for alert " ++ alert.id ++ " (" ++ alert.ticker ++ ")"⟩]

end Engine

namespace Desk

/-- Changes the alert at a position and logs what the change writes. -/
def change (desk : Desk) (position : Nat) {α : Type} (operation : Alert → Change α) : Desk :=
  match desk.alerts[position]? with
  | none => desk
  | some alert =>
    let change := operation alert
    { engine := desk.engine.log change.log
      alerts := desk.alerts.set position change.alert }

def resumeAll (desk : Desk) (now : Timestamp) (listed : List Nat) : Desk :=
  listed.foldl (fun desk position => desk.change position (·.resumeIfDue now)) desk

/-- The listed alerts with their positions; a position that holds none is passed over. -/
def pick (desk : Desk) (listed : List Nat) : List (Nat × Alert) :=
  listed.filterMap fun position => desk.alerts[position]?.map (position, ·)

/-- Keeps book of one evaluation. -/
def absorb (now : Timestamp) (desk : Desk) (position : Nat) (evaluation : Evaluation) : Desk :=
  let desk := { desk with
    engine := desk.engine.tally fun t => { t with evaluations := t.evaluations + 1 } }
  match evaluation.outcome with
  | .failed _ =>
    { desk with engine := desk.engine.tally fun t => { t with errors := t.errors + 1 } }
  | .unobserved =>
    { desk with engine := desk.engine.tally fun t => { t with blocked := t.blocked + 1 } }
  | .blocked gate _ =>
    let desk :=
      { desk with engine := desk.engine.tally fun t => { t with blocked := t.blocked + 1 } }
    if gate = .expiry then desk.change position (·.expire now) else desk
  | .quiet _ => desk
  | .fired event =>
    match desk.alerts[position]? with
    | none => desk
    | some alert =>
      { engine := desk.engine.handle alert event
        alerts := desk.alerts.set position (alert.recordTrigger event) }

/-- Evaluates the alerts at the listed positions, in that order. -/
def tick (desk : Desk) (listed : List Nat) (market : Market) (now : Timestamp) : TickResult :=
  let now := now.aware
  let desk := { desk with engine := desk.engine.tally fun t => { t with ticks := t.ticks + 1 } }
  let desk := desk.resumeAll now listed
  let engine := desk.engine
  let picked := desk.pick listed
  let evaluations := picked.mapIdx fun index (_, alert) =>
    engine.evaluateListed alert market now (engine.nameEvent engine.tallies.ticks index)
  let desk := { desk with
    engine := engine.log (picked.flatMap fun (_, alert) => engine.listedLog alert market now) }
  let desk := (picked.zip evaluations).foldl
    (fun (desk : Desk) ((position, _), evaluation) => desk.absorb now position evaluation) desk
  let fired := (evaluations.filterMap Evaluation.event?).length
  let summary := "Tick complete: " ++ toString evaluations.length ++ " evaluated, "
    ++ toString fired ++ " triggered"
  ⟨{ desk with engine := desk.engine.log [⟨.info, summary⟩] }, evaluations⟩

end Desk

namespace Engine

def settle (engine : Engine) : Engine :=
  { engine with loop := engine.loop.settle }

def advance (engine : Engine) (seconds : Float) : Engine :=
  { engine with loop := engine.loop.advance seconds }

/-- Hands a batch to the channels and waits until they all had their turn. -/
def deliver (engine : Engine) (ticker : String) (events : List Event) : Engine :=
  let actions := Notifier.deliver engine.notifiers ticker events
  { engine with loop := (engine.loop.spawn .caller ticker actions false).finish [.caller] }

/-- Delivers everything that is still pending. -/
def shutdown (engine : Engine) : Engine :=
  let loop := (engine.loop.flush engine.delivery).finish [.batch, .direct]
  { engine with loop }.log [⟨.info, "Alert engine stopped"⟩]

structure Stats extends Tallies where
  deliveries : Nat
  pendingBatches : Nat
  historySize : Nat

def stats (engine : Engine) : Stats :=
  { engine.tallies with
    deliveries := engine.loop.outputs.countP fun (_, output) => match output with
      | .opened _ _ => true
      | _ => false
    pendingBatches := engine.loop.batcher.size
    historySize := engine.history.size }

/-- The line of the log that an entry of the journal stands for. -/
def journalLine? : Note String Event Float Dispatch → Option LogLine
  | .emitted (.logged line) => some line
  | note => note.line? id

end Engine

end MarketAlerts
