import MarketAlerts.Proofs.Delivery.Turns

/-!
Sequences of operations on a batcher: events come in, the clock moves on, everything is flushed or
waited for, in any order.
-/
namespace MarketAlerts.Delivery

variable {κ ε τ ω : Type}

inductive Operation (κ ε τ ω : Type)
  | add (key : κ) (event : ε) (window : τ) (callback : Callback κ ε τ ω)
  | advance (seconds : τ)
  | settle
  | flush (callback : Callback κ ε τ ω)
  | drain

namespace Operation

def callback? : Operation κ ε τ ω → Option (Callback κ ε τ ω)
  | add _ _ _ callback => some callback
  | flush callback => some callback
  | _ => none

/-- The event that an operation adds, with its key. -/
def addition? : Operation κ ε τ ω → Option (κ × ε)
  | add key event _ _ => some (key, event)
  | _ => none

end Operation

namespace Loop

variable [Timescale τ] [DecidableEq κ]

def operate (loop : Loop κ ε τ ω) : Operation κ ε τ ω → Loop κ ε τ ω
  | .add key event window callback => loop.add key event window callback
  | .advance seconds => loop.advance seconds
  | .settle => loop.settle
  | .flush callback => loop.flush callback
  | .drain => loop.finish [.batch]

def operateAll (loop : Loop κ ε τ ω) (operations : List (Operation κ ε τ ω)) : Loop κ ε τ ω :=
  operations.foldl operate loop

/-- What turns keep, and what adding and flushing keep, whole sequences of operations keep. -/
theorem Kept.operateAll {P : Loop κ ε τ ω → Prop} (kept : Kept P)
    (add : ∀ {loop : Loop κ ε τ ω} key event window callback, P loop →
      P (loop.add key event window callback))
    (flush : ∀ {loop : Loop κ ε τ ω} callback, P loop → P (loop.flush callback))
    (operations : List (Operation κ ε τ ω)) {loop : Loop κ ε τ ω} (h : P loop) :
    P (loop.operateAll operations) := by
  induction operations generalizing loop with
  | nil => exact h
  | cons operation rest ih =>
    apply ih
    cases operation with
    | add key event window callback => exact add key event window callback h
    | advance seconds => exact kept.advance h seconds
    | settle => exact kept.settle h
    | flush callback => exact flush callback h
    | drain => exact kept.finish h _

end Loop

end MarketAlerts.Delivery
