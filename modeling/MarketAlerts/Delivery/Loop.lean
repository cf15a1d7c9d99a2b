import MarketAlerts.Delivery.Timescale

/-!
The loop on which batches and deliveries run: jobs that wait for a deadline, jobs that run next, and
a journal of everything done. Keys, events and outputs are left open.
-/
namespace MarketAlerts.Delivery

/-- A step of a delivery. -/
inductive Action (τ ω : Type)
  | pause (seconds : τ)
  | emit (output : ω)

/-- How a callback ends: done, failed, or with a delivery that goes on by itself and may yet
fail. -/
inductive Outcome (τ ω : Type)
  | returned
  | raised
  | awaiting (actions : List (Action τ ω)) (fails : Bool)

/-- What a callback does with a batch. -/
structure Reply (τ ω : Type) where
  outputs : List ω
  outcome : Outcome τ ω

/-- A callback answers a batch; it may also queue an event of its own before it ends. -/
inductive Callback (κ ε τ ω : Type)
  | plain (reply : κ → List ε → Reply τ ω)
  | requeue (reply : κ → List ε → Reply τ ω) (key : κ) (event : ε) (window : τ)
      (next : Callback κ ε τ ω)

namespace Callback

variable {κ ε τ ω : Type}

def reply : Callback κ ε τ ω → κ → List ε → Reply τ ω
  | plain reply => reply
  | requeue reply _ _ _ _ => reply

/-- How many batches in a row the callback can give rise to. -/
def depth : Callback κ ε τ ω → Nat
  | plain _ => 1
  | requeue _ _ _ _ next => next.depth + 1

end Callback

/-- Where a delivery comes from: a batch, a single event, or a caller who waits for it. -/
inductive Origin
  | batch | direct | caller
  deriving DecidableEq

/-- A delivery under way. -/
structure Task (κ τ ω : Type) where
  origin : Origin
  key : κ
  actions : List (Action τ ω)
  fails : Bool

inductive Job (κ ε τ ω : Type)
  | expire (key : κ) (callback : Callback κ ε τ ω)
  | wake (task : Task κ τ ω)
  | resume (task : Task κ τ ω)

/-- A job with its deadline; the ticket tells it from all others. -/
structure Handle (κ ε τ ω : Type) where
  ticket : Nat
  deadline : τ
  job : Job κ ε τ ω

/-- The timer of a batch, as the batcher knows it. -/
structure Timer (τ : Type) where
  ticket : Nat
  deadline : τ

/-- What happened. -/
inductive Note (κ ε τ ω : Type)
  /-- An event is in the queue of its key, whether or not a timer can be set for it. -/
  | joined (key : κ) (event : ε)
  | queued (key : κ) (event : ε) (pending : Nat) (window : τ)
  | called (key : κ) (events : List ε)
  | callbackFailed (key : κ)
  | deliveryFailed (key : κ)
  | flushed (batches : Nat)
  | emitted (output : ω)

/-- Events that wait under each key, and the timer of each key, in the order in which keys came. -/
structure Batcher (κ ε τ : Type) where
  queues : List (κ × List ε)
  timers : List (κ × Timer τ)

namespace Batcher

variable {κ ε τ : Type} [DecidableEq κ]

def empty : Batcher κ ε τ := ⟨[], []⟩

def queue (batcher : Batcher κ ε τ) (key : κ) : List ε := (batcher.queues.lookup key).getD []

def pendingKeys (batcher : Batcher κ ε τ) : List κ := batcher.queues.map (·.1)

def pendingCount (batcher : Batcher κ ε τ) (key : κ) : Nat := (batcher.queue key).length

def hasTimer (batcher : Batcher κ ε τ) (key : κ) : Bool := (batcher.timers.lookup key).isSome

def deadline? (batcher : Batcher κ ε τ) (key : κ) : Option τ :=
  (batcher.timers.lookup key).map (·.deadline)

def size (batcher : Batcher κ ε τ) : Nat := batcher.queues.length

end Batcher

structure Loop (κ ε τ ω : Type) where
  clock : τ
  nextTicket : Nat
  /-- Jobs that wait for their deadline, in the order in which they were armed. -/
  scheduled : List (Handle κ ε τ ω)
  /-- Jobs of the next round. -/
  ready : List (Handle κ ε τ ω)
  /-- What is left of the present round. -/
  agenda : List (Handle κ ε τ ω)
  batcher : Batcher κ ε τ
  journal : List (τ × Note κ ε τ ω)

namespace Loop

variable {κ ε τ ω : Type}

def start [Timescale τ] : Loop κ ε τ ω :=
  { clock := Timescale.start
    nextTicket := 0
    scheduled := []
    ready := []
    agenda := []
    batcher := ⟨[], []⟩
    journal := [] }

def note (loop : Loop κ ε τ ω) (what : Note κ ε τ ω) : Loop κ ε τ ω :=
  { loop with journal := loop.journal ++ [(loop.clock, what)] }

def emitAll (loop : Loop κ ε τ ω) (outputs : List ω) : Loop κ ε τ ω :=
  { loop with journal := loop.journal ++ outputs.map fun output => (loop.clock, .emitted output) }

/-- Sets a job to run at a deadline. -/
def arm (loop : Loop κ ε τ ω) (deadline : τ) (job : Job κ ε τ ω) : Loop κ ε τ ω :=
  { loop with
    nextTicket := loop.nextTicket + 1
    scheduled := loop.scheduled ++ [⟨loop.nextTicket, deadline, job⟩] }

/-- Sets a job to run in the next round. -/
def soon (loop : Loop κ ε τ ω) (job : Job κ ε τ ω) : Loop κ ε τ ω :=
  { loop with
    nextTicket := loop.nextTicket + 1
    ready := loop.ready ++ [⟨loop.nextTicket, loop.clock, job⟩] }

/-- Takes a job back, whether it still waits for its deadline or is about to run. -/
def cancel (loop : Loop κ ε τ ω) (ticket : Nat) : Loop κ ε τ ω :=
  { loop with
    scheduled := loop.scheduled.filter (·.ticket != ticket)
    agenda := loop.agenda.filter (·.ticket != ticket) }

/-- Every job that is still to run. -/
def handles (loop : Loop κ ε τ ω) : List (Handle κ ε τ ω) :=
  loop.agenda ++ loop.ready ++ loop.scheduled

def Job.task? : Job κ ε τ ω → Option (Task κ τ ω)
  | .wake task => some task
  | .resume task => some task
  | .expire _ _ => none

/-- Deliveries under way. -/
def outstanding (loop : Loop κ ε τ ω) : List (Task κ τ ω) :=
  loop.handles.filterMap fun handle => Job.task? handle.job

def awaits (loop : Loop κ ε τ ω) (origin : Origin) : Bool :=
  loop.outstanding.any (·.origin = origin)

/-- Outputs of the journal with their times. -/
def outputs (loop : Loop κ ε τ ω) : List (τ × ω) :=
  loop.journal.filterMap fun (time, what) => match what with
    | .emitted output => some (time, output)
    | _ => none

end Loop

end MarketAlerts.Delivery
