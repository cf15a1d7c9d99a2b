import MarketAlerts.Delivery.Loop
import MarketAlerts.Fault

/-!
Debounced batches. Each event of a key restarts the key's one timer, so a batch is delivered when
its key has been quiet for a whole window, or when all batches are flushed.
-/
namespace MarketAlerts.Delivery

variable {κ ε τ ω : Type}

/-- Appends an event to its key's queue; a new key goes to the end. -/
def Batcher.push [DecidableEq κ] (queues : List (κ × List ε)) (key : κ) (event : ε) :
    List (κ × List ε) :=
  if (queues.lookup key).isSome then
    queues.map fun (k, events) => if k = key then (k, events ++ [event]) else (k, events)
  else queues ++ [(key, [event])]

namespace Loop

variable [Timescale τ]

/-- Starts a delivery in the next round. -/
def spawn (loop : Loop κ ε τ ω) (origin : Origin) (key : κ) (actions : List (Action τ ω))
    (fails : Bool) : Loop κ ε τ ω :=
  loop.soon (.resume ⟨origin, key, actions, fails⟩)

/-- What a delivery emits before its next pause, and the pause with what is left after it. -/
def untilPause : List (Action τ ω) → List ω × Option (τ × List (Action τ ω))
  | [] => ([], none)
  | .pause seconds :: rest => ([], some (seconds, rest))
  | .emit output :: rest =>
    let (outputs, left) := untilPause rest
    (output :: outputs, left)

/-- Runs a delivery up to its next pause. A pause that takes no time still lets others run first. -/
def resume (loop : Loop κ ε τ ω) (task : Task κ τ ω) : Loop κ ε τ ω :=
  let (outputs, left) := untilPause task.actions
  let loop := loop.emitAll outputs
  match left with
  | some (seconds, rest) =>
    if Timescale.takesTime seconds then
      loop.arm (Timescale.after loop.clock seconds) (.wake { task with actions := rest })
    else loop.soon (.resume { task with actions := rest })
  | none =>
    if task.fails && task.origin = .batch then loop.note (.deliveryFailed task.key) else loop

/-- What follows from how a callback ended. -/
def settleOutcome (loop : Loop κ ε τ ω) (key : κ) : Outcome τ ω → Loop κ ε τ ω
  | .returned => loop
  | .raised => loop.note (.callbackFailed key)
  | .awaiting actions fails => loop.spawn .batch key actions fails

variable [DecidableEq κ]

/-- Forgets the timer of a key and takes its job back. -/
def dropTimer (loop : Loop κ ε τ ω) (key : κ) : Loop κ ε τ ω :=
  match loop.batcher.timers.lookup key with
  | some timer =>
    { loop.cancel timer.ticket with
      batcher := { loop.batcher with timers := loop.batcher.timers.filter (·.1 ≠ key) } }
  | none => loop

/-- Whether a timer can be set for a window. -/
def canSet (window : τ) : Bool := Timescale.canHold (Timescale.ofMinutes window)

/-- Queues an event under its key and restarts the key's timer. Where no timer can be set for the
window the event waits without one. -/
def add (loop : Loop κ ε τ ω) (key : κ) (event : ε) (window : τ) (callback : Callback κ ε τ ω) :
    Loop κ ε τ ω :=
  let queues := Batcher.push loop.batcher.queues key event
  let loop := (loop.dropTimer key).note (.joined key event)
  if canSet window then
    let deadline := Timescale.after loop.clock (Timescale.ofMinutes window)
    let timers := loop.batcher.timers ++ [(key, ⟨loop.nextTicket, deadline⟩)]
    let loop := { loop.arm deadline (.expire key callback) with batcher := ⟨queues, timers⟩ }
    loop.note (.queued key event (loop.batcher.pendingCount key) window)
  else { loop with batcher := { loop.batcher with queues } }

/-- Queues an event with a window as it is given, and says why no timer was set if none was. -/
def addGiven (loop : Loop κ ε Number.Quantity ω) (key : κ) (event : ε) (window : Number.Quantity)
    (callback : Callback κ ε Number.Quantity ω) :
    Loop κ ε Number.Quantity ω × Except Fault Unit :=
  (loop.add key event window callback, (Timescale.ofMinutes window).asDouble.map fun _ => ())

/-- Hands a batch to a callback. One that queues an event for which no timer can be set fails
there. -/
def invoke (loop : Loop κ ε τ ω) (callback : Callback κ ε τ ω) (key : κ) (events : List ε) :
    Loop κ ε τ ω :=
  let reply := callback.reply key events
  let loop := (loop.note (.called key events)).emitAll reply.outputs
  match callback with
  | .plain _ => loop.settleOutcome key reply.outcome
  | .requeue _ other event window next =>
    (loop.add other event window next).settleOutcome key
      (if canSet window then reply.outcome else .raised)

/-- The timer of a key has run out: its batch leaves the queue and goes to the callback. -/
def expire (loop : Loop κ ε τ ω) (key : κ) (callback : Callback κ ε τ ω) : Loop κ ε τ ω :=
  let events := loop.batcher.queue key
  let batcher : Batcher κ ε τ :=
    ⟨loop.batcher.queues.filter (·.1 ≠ key), loop.batcher.timers.filter (·.1 ≠ key)⟩
  let loop := { loop with batcher }
  if events.isEmpty then loop else loop.invoke callback key events

/-- Takes back every timer and hands every batch over now. -/
def flush (loop : Loop κ ε τ ω) (callback : Callback κ ε τ ω) : Loop κ ε τ ω :=
  let queues := loop.batcher.queues
  let cleared := loop.batcher.timers.foldl (fun loop (_, timer) => loop.cancel timer.ticket) loop
  let cleared := { cleared with batcher := ⟨[], []⟩ }
  let handed := queues.foldl
    (fun loop (key, events) => if events.isEmpty then loop else loop.invoke callback key events)
      cleared
  if queues.isEmpty then handed else handed.note (.flushed queues.length)

end Loop

/-- An event can be queued only while a loop runs. -/
def addWithin (loop : Option (Loop κ ε τ ω)) (add : Loop κ ε τ ω → Loop κ ε τ ω) :
    Except Fault (Loop κ ε τ ω) :=
  match loop with
  | some loop => .ok (add loop)
  | none => .error .noEventLoop

end MarketAlerts.Delivery
