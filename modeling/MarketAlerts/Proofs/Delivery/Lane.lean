import Mathlib.Algebra.Order.Ring.Rat
import Mathlib.Data.List.Induction
import Mathlib.Tactic.Linarith
import MarketAlerts.Proofs.Delivery.Conservation

/-!
One key by itself, on a clock of exact numbers. Its lane knows the batch that waits, with the
deadline and the callback that its last event set, and the batches handed over so far; it follows
from the events of the key, the clock and the flushes alone where one batch ends and the next
begins.
-/
namespace MarketAlerts.Delivery

variable {κ ε τ ω : Type}

namespace Operation

/-- The event that an operation adds under a key. -/
def added? [DecidableEq κ] (key : κ) : Operation κ ε τ ω → Option ε
  | add other event _ _ => if other = key then some event else none
  | _ => none

/-- Whether an operation says anything about a key: it adds to that key, moves the clock or
flushes. -/
def concerns [DecidableEq κ] (key : κ) : Operation κ ε τ ω → Bool
  | add other _ _ _ => other = key
  | _ => true

end Operation

/-- A batch in the hands of a callback. -/
structure Handover (κ ε τ ω : Type) where
  time : τ
  events : List ε
  callback : Callback κ ε τ ω

/-- A batch that waits until a deadline. -/
structure Waiting (κ ε τ ω : Type) where
  events : List ε
  deadline : τ
  callback : Callback κ ε τ ω

structure Lane (κ ε ω : Type) where
  clock : Rat
  waiting : Option (Waiting κ ε Rat ω)
  handed : List (Handover κ ε Rat ω)

/-- Whether the event at a position and the one before it are in one batch. -/
def Together (batches : List (List ε)) (position : Nat) : Prop :=
  ∃ front batch back, batches = front ++ batch :: back ∧ front.flatten.length < position ∧
    position < front.flatten.length + batch.length

theorem together_append {front back : List (List ε)} {earlier later : List ε}
    (nonempty : earlier ≠ []) (others : later ≠ []) :
    Together (front ++ (earlier ++ later) :: back) (front.flatten.length + earlier.length) := by
  have := List.length_pos_iff.2 nonempty
  have := List.length_pos_iff.2 others
  refine ⟨front, earlier ++ later, back, rfl, by omega, ?_⟩
  rw [List.length_append]
  omega

theorem not_together_append (front back : List (List ε)) :
    ¬ Together (front ++ back) front.flatten.length := by
  rintro ⟨front', batch, back', same, before, after⟩
  rcases List.append_eq_append_iff.1 same with ⟨more, rfl, -⟩ | ⟨more, rfl, rest⟩
  · rw [List.flatten_append, List.length_append] at before
    omega
  · cases more with
    | nil => simp at before
    | cons first more =>
      obtain ⟨rfl, -⟩ := List.cons.inj rest
      rw [List.flatten_append, List.length_append, List.flatten_cons, List.length_append] at after
      omega

/-- The times to which operations move the clock. -/
def times (clock : Rat) : List (Operation κ ε Rat ω) → List Rat
  | [] => []
  | .advance seconds :: rest => (clock + seconds) :: times (clock + seconds) rest
  | _ :: rest => times clock rest

/-- Nothing is flushed, and the clock is not moved as far as a deadline. -/
structure Quiet (clock deadline : Rat) (operations : List (Operation κ ε Rat ω)) : Prop where
  unflushed : ∀ callback, .flush callback ∉ operations
  early : ∀ time ∈ times clock operations, time < deadline

namespace Quiet

variable {clock deadline : Rat} {rest : List (Operation κ ε Rat ω)}

theorem nil : Quiet clock deadline ([] : List (Operation κ ε Rat ω)) where
  unflushed := fun _ absent => nomatch absent
  early := fun _ absent => nomatch absent

theorem add_iff {key : κ} {event : ε} {window : Rat} {callback : Callback κ ε Rat ω} :
    Quiet clock deadline (.add key event window callback :: rest) ↔ Quiet clock deadline rest := by
  constructor
  · rintro ⟨unflushed, early⟩
    exact ⟨fun callback member => unflushed callback (List.mem_cons_of_mem _ member), early⟩
  · rintro ⟨unflushed, early⟩
    exact ⟨by simpa using unflushed, early⟩

theorem advance_iff {seconds : Rat} :
    Quiet clock deadline (.advance seconds :: rest) ↔
      clock + seconds < deadline ∧ Quiet (clock + seconds) deadline rest := by
  constructor
  · rintro ⟨unflushed, early⟩
    exact ⟨early _ List.mem_cons_self, fun callback member =>
      unflushed callback (List.mem_cons_of_mem _ member), fun time member =>
      early time (List.mem_cons_of_mem _ member)⟩
  · rintro ⟨first, unflushed, early⟩
    exact ⟨by simpa using unflushed, List.forall_mem_cons.2 ⟨first, early⟩⟩

theorem not_flush {callback : Callback κ ε Rat ω} :
    ¬ Quiet clock deadline (.flush callback :: rest) :=
  fun quiet => quiet.unflushed callback List.mem_cons_self

end Quiet

/-- An event is added, the clock stands or moves forward, or all is flushed; and no callback adds an
event of its own, which would come in while others that are due have still to run. -/
def Operation.IsTimed : Operation κ ε Rat ω → Prop
  | .add _ _ _ callback => callback.IsPlain
  | .advance seconds => 0 ≤ seconds
  | .flush callback => callback.IsPlain
  | .settle => False
  | .drain => False

/-- How the batches of a key are handed over, told by the clock and the queue that sequences of
operations lead to. The last event of a batch sets its deadline and its callback. -/
inductive HandedOver [DecidableEq κ] (clock : List (Operation κ ε Rat ω) → Rat)
    (queue : List (Operation κ ε Rat ω) → List ε) (key : κ) :
    List (Operation κ ε Rat ω) → Handover κ ε Rat ω → Prop
  /-- All that waits is flushed before the deadline is reached. -/
  | flushed {before quiet after event window callback last}
      (unadded : ∀ operation ∈ quiet, operation.added? key = none)
      (still : Quiet (clock before) (clock before + window * 60) quiet) :
      HandedOver clock queue key
        (before ++ .add key event window callback :: (quiet ++ .flush last :: after))
        ⟨clock (before ++ .add key event window callback :: quiet), queue before ++ [event], last⟩
  /-- The clock reaches the deadline first. -/
  | expired {before quiet after event window callback seconds}
      (unadded : ∀ operation ∈ quiet, operation.added? key = none)
      (still : Quiet (clock before) (clock before + window * 60) quiet)
      (reached : clock before + window * 60 ≤
        clock (before ++ .add key event window callback :: quiet) + seconds) :
      HandedOver clock queue key
        (before ++ .add key event window callback :: (quiet ++ .advance seconds :: after))
        ⟨max (clock before) (clock before + window * 60), queue before ++ [event], callback⟩

theorem HandedOver.append [DecidableEq κ] {clock : List (Operation κ ε Rat ω) → Rat}
    {queue : List (Operation κ ε Rat ω) → List ε} {key : κ}
    {operations : List (Operation κ ε Rat ω)} {handover : Handover κ ε Rat ω}
    (h : HandedOver clock queue key operations handover) (more : List (Operation κ ε Rat ω)) :
    HandedOver clock queue key (operations ++ more) handover := by
  cases h with
  | flushed unadded still =>
    rw [List.append_assoc, List.cons_append, List.append_assoc, List.cons_append]
    exact .flushed unadded still
  | expired unadded still reached =>
    rw [List.append_assoc, List.cons_append, List.append_assoc, List.cons_append]
    exact .expired unadded still reached

/-- Only the clock and the queue along the sequence count. -/
theorem HandedOver.congr [DecidableEq κ] {clock clock' : List (Operation κ ε Rat ω) → Rat}
    {queue queue' : List (Operation κ ε Rat ω) → List ε} {key : κ}
    {operations : List (Operation κ ε Rat ω)} {handover : Handover κ ε Rat ω}
    (same : ∀ before, before <+: operations → clock before = clock' before ∧
    queue before = queue' before) (h : HandedOver clock queue key operations handover) :
    HandedOver clock' queue' key operations handover := by
  cases h with
  | @flushed before quiet after event window callback last unadded still =>
    have opened := same before (List.prefix_append _ _)
    have closed :=
      same (before ++ .add key event window callback :: quiet) ⟨.flush last :: after, by simp⟩
    rw [opened.1] at still
    rw [opened.2, closed.1]
    exact .flushed unadded still
  | @expired before quiet after event window callback seconds unadded still reached =>
    have opened := same before (List.prefix_append _ _)
    have closed := same (before ++ .add key event window callback :: quiet)
      ⟨.advance seconds :: after, by simp⟩
    rw [opened.1] at still
    rw [opened.1, closed.1] at reached
    rw [opened.1, opened.2]
    exact .expired unadded still reached

namespace Lane

/-- The waiting batch goes to a callback. -/
def handOver (lane : Lane κ ε ω) (batch : Waiting κ ε Rat ω) (time : Rat)
    (callback : Callback κ ε Rat ω) : Lane κ ε ω :=
  { lane with waiting := none, handed := lane.handed ++ [⟨time, batch.events, callback⟩] }

def queue (lane : Lane κ ε ω) : List ε := lane.waiting.elim [] (·.events)

/-- An event joins the batch that waits, or makes one, and the window starts anew. -/
def join (lane : Lane κ ε ω) (event : ε) (window : Rat) (callback : Callback κ ε Rat ω) :
    Lane κ ε ω :=
  { lane with waiting := some ⟨lane.queue ++ [event], lane.clock + window * 60, callback⟩ }

theorem waiting_join (lane : Lane κ ε ω) (event : ε) (window : Rat)
    (callback : Callback κ ε Rat ω) : (lane.join event window callback).waiting =
      some ⟨lane.queue ++ [event], lane.clock + window * 60, callback⟩ := rfl

/-- The batches handed over, and the one that waits. -/
def batches (lane : Lane κ ε ω) : List (List ε) := lane.handed.map (·.events) ++ [lane.queue]

variable [DecidableEq κ] (key : κ)

def step (lane : Lane κ ε ω) : Operation κ ε Rat ω → Lane κ ε ω
  | .add other event window callback =>
    if other = key then lane.join event window callback else lane
  | .advance seconds =>
    let limit := lane.clock + seconds
    match lane.waiting with
    | some batch =>
      if batch.deadline ≤ limit then
        { lane.handOver batch (max lane.clock batch.deadline) batch.callback with clock := limit }
      else { lane with clock := limit }
    | none => { lane with clock := limit }
  | .flush callback =>
    match lane.waiting with
    | some batch => lane.handOver batch lane.clock callback
    | none => lane
  | .settle => lane
  | .drain => lane

def run (operations : List (Operation κ ε Rat ω)) : Lane κ ε ω :=
  operations.foldl (step key) ⟨0, none, []⟩

variable {key} {lane : Lane κ ε ω} {batch : Waiting κ ε Rat ω}
    {operations : List (Operation κ ε Rat ω)}

theorem run_append (before after : List (Operation κ ε Rat ω)) :
    run key (before ++ after) = after.foldl (step key) (run key before) :=
  List.foldl_append

theorem step_own {event : ε} {window : Rat} {callback : Callback κ ε Rat ω} :
    lane.step key (.add key event window callback) = lane.join event window callback :=
  if_pos rfl

theorem step_other {other : κ} {event : ε} {window : Rat} {callback : Callback κ ε Rat ω}
    (apart : other ≠ key) : lane.step key (.add other event window callback) = lane :=
  if_neg apart

theorem clock_advance (lane : Lane κ ε ω) (seconds : Rat) :
    (lane.step key (.advance seconds)).clock = lane.clock + seconds := by
  unfold step
  dsimp only
  split
  · split <;> rfl
  · rfl

theorem waiting_flush (lane : Lane κ ε ω) (callback : Callback κ ε Rat ω) :
    (lane.step key (.flush callback)).waiting = none := by
  cases waiting : lane.waiting <;> simp [step, waiting, handOver]

theorem clock_flush (lane : Lane κ ε ω) (callback : Callback κ ε Rat ω) :
    (lane.step key (.flush callback)).clock = lane.clock := by
  cases waiting : lane.waiting <;> simp [step, waiting, handOver]

/-- Operations of other keys do not show. -/
theorem run_filter_concerns :
    run key (operations.filter (·.concerns key)) = run key operations := by
  have same (lane : Lane κ ε ω) (operation : Operation κ ε Rat ω) :
      (if operation.concerns key then lane.step key operation else lane) =
      lane.step key operation := by
    split
    · rfl
    · next other =>
      cases operation with
      | add key' event window callback =>
        exact (step_other (by simpa [Operation.concerns] using other)).symm
      | _ => exact absurd rfl other
  simp only [run, List.foldl_filter, same]

/-- Every event of the key is in one batch, in the order of the events. -/
theorem flatten_batches_step (operation : Operation κ ε Rat ω) :
    (lane.step key operation).batches.flatten =
      lane.batches.flatten ++ (operation.added? key).toList := by
  cases operation with
  | add other event window callback =>
    by_cases own : other = key <;> simp [step, own, batches, queue, join, Operation.added?]
  | advance seconds =>
    cases waiting : lane.waiting with
    | none => simp [step, waiting, batches, queue, Operation.added?]
    | some batch =>
      by_cases due : batch.deadline ≤ lane.clock + seconds <;>
        simp [step, waiting, due, batches, queue, handOver, Operation.added?]
  | flush callback =>
    cases waiting :
      lane.waiting <;> simp [step, waiting, batches, queue, handOver, Operation.added?]
  | settle => simp [step, Operation.added?]
  | drain => simp [step, Operation.added?]

theorem flatten_batches_run :
    (run key operations).batches.flatten = operations.filterMap (·.added? key) := by
  induction operations using List.reverseRecOn with
  | nil => rfl
  | append_singleton before operation ih =>
    rw [run_append, List.foldl_cons, List.foldl_nil, flatten_batches_step, ih,
      List.filterMap_append]
    cases added : operation.added? key <;> simp [added]

/-- Batches handed over stay as they are, and the waiting one can only grow at its end. -/
theorem batches_foldl (operations : List (Operation κ ε Rat ω)) (lane : Lane κ ε ω) :
    ∃ more rest, (operations.foldl (step key) lane).batches =
      lane.handed.map (·.events) ++ (lane.queue ++ more) :: rest := by
  induction operations generalizing lane with
  | nil => exact ⟨[], [], by simp [batches]⟩
  | cons operation others ih =>
    obtain ⟨more, rest, later⟩ := ih (lane.step key operation)
    rw [List.foldl_cons, later]
    cases operation with
    | add other event window callback =>
      by_cases own : other = key
      · exact ⟨event :: more, rest, by simp [step, own, queue, join]⟩
      · exact ⟨more, rest, by simp [step, own]⟩
    | advance seconds =>
      cases waiting : lane.waiting with
      | none => exact ⟨more, rest, by simp [step, waiting, queue]⟩
      | some batch =>
        by_cases due : batch.deadline ≤ lane.clock + seconds
        · exact ⟨[], more :: rest, by simp [step, waiting, due, handOver, queue]⟩
        · exact ⟨more, rest, by simp [step, waiting, due, queue]⟩
    | flush callback =>
      cases waiting : lane.waiting with
      | none => exact ⟨more, rest, by simp [step, waiting, queue]⟩
      | some batch => exact ⟨[], more :: rest, by simp [step, waiting, handOver, queue]⟩
    | settle => exact ⟨more, rest, rfl⟩
    | drain => exact ⟨more, rest, rfl⟩

theorem handed_prefix_foldl : lane.handed <+: (operations.foldl (step key) lane).handed := by
  induction operations generalizing lane with
  | nil => exact List.prefix_rfl
  | cons operation rest ih =>
    refine List.IsPrefix.trans ?_ ih
    cases operation with
    | add other event window callback => by_cases own : other = key <;> simp [step, own, join]
    | advance seconds =>
      cases waiting : lane.waiting with
      | none => simp [step, waiting]
      | some batch =>
        by_cases due : batch.deadline ≤ lane.clock + seconds <;> simp [step, waiting, due, handOver]
    | flush callback => cases waiting : lane.waiting <;> simp [step, waiting, handOver]
    | settle => exact List.prefix_rfl
    | drain => exact List.prefix_rfl

/-- One operation hands over no batch but the one that waits. -/
theorem mem_handed_step {operation : Operation κ ε Rat ω} {handover : Handover κ ε Rat ω}
    (member : handover ∈ (lane.step key operation).handed) :
    handover ∈ lane.handed ∨ ∃ batch, lane.waiting = some batch ∧
      ((∃ callback, operation = .flush callback ∧ handover = ⟨lane.clock, batch.events, callback⟩) ∨
        ∃ seconds, operation = .advance seconds ∧ batch.deadline ≤ lane.clock + seconds ∧
          handover = ⟨max lane.clock batch.deadline, batch.events, batch.callback⟩) := by
  cases operation with
  | add other event window callback =>
    by_cases own : other = key <;> simp_all [step, join]
  | advance seconds =>
    cases waiting : lane.waiting with
    | none => simp_all [step]
    | some batch =>
      by_cases due : batch.deadline ≤ lane.clock + seconds
      · simpa [step, waiting, due, handOver] using member
      · simp_all [step]
  | flush callback =>
    cases waiting : lane.waiting with
    | none => simp_all [step]
    | some batch => simpa [step, waiting, handOver] using member
  | settle => exact .inl member
  | drain => exact .inl member

section Stretch

/-! What happens to the lane while nothing is added under its key. -/

variable (timed : ∀ operation ∈ operations, operation.IsTimed)
  (unadded : ∀ operation ∈ operations, operation.added? key = none)

include timed unadded

theorem foldl_of_idle (idle : lane.waiting = none) :
    (operations.foldl (step key) lane).waiting = none ∧
      (operations.foldl (step key) lane).handed = lane.handed := by
  induction operations generalizing lane with
  | nil => exact ⟨idle, rfl⟩
  | cons operation rest ih =>
    obtain ⟨now, later⟩ := List.forall_mem_cons.1 timed
    obtain ⟨other, others⟩ := List.forall_mem_cons.1 unadded
    cases operation with
    | add key' event window callback =>
      rw [List.foldl_cons, step_other (by simpa [Operation.added?] using other)]
      exact ih later others idle
    | advance seconds =>
      have moved :
          lane.step key (.advance seconds) = { lane with clock := lane.clock + seconds } := by
        simp [step, idle]
      rw [List.foldl_cons, moved]
      exact ih later others idle
    | flush callback =>
      have same : lane.step key (.flush callback) = lane := by simp [step, idle]
      rw [List.foldl_cons, same]
      exact ih later others idle
    | settle => exact now.elim
    | drain => exact now.elim

/-- In a quiet stretch the batch goes on waiting, and its deadline stays the next thing to come. -/
theorem foldl_of_quiet (waiting : lane.waiting = some batch)
    (quiet : Quiet lane.clock batch.deadline operations) :
    (operations.foldl (step key) lane).waiting = some batch ∧
      (operations.foldl (step key) lane).handed = lane.handed ∧
      max (operations.foldl (step key) lane).clock batch.deadline =
      max lane.clock batch.deadline := by
  induction operations generalizing lane with
  | nil => exact ⟨waiting, rfl, rfl⟩
  | cons operation rest ih =>
    obtain ⟨now, later⟩ := List.forall_mem_cons.1 timed
    obtain ⟨other, others⟩ := List.forall_mem_cons.1 unadded
    cases operation with
    | add key' event window callback =>
      rw [List.foldl_cons, step_other (by simpa [Operation.added?] using other)]
      exact ih later others waiting (Quiet.add_iff.1 quiet)
    | advance seconds =>
      obtain ⟨early, quiet⟩ := Quiet.advance_iff.1 quiet
      have moved :
          lane.step key (.advance seconds) = { lane with clock := lane.clock + seconds } := by
        simp [step, waiting, early]
      have forward : 0 ≤ seconds := now
      rw [List.foldl_cons, moved]
      obtain ⟨waits, handed, latest⟩ :=
        @ih { lane with clock := lane.clock + seconds } later others waiting quiet
      refine ⟨waits, handed, latest.trans ?_⟩
      rw [max_eq_right early.le, max_eq_right]
      linarith
    | flush callback => exact absurd quiet Quiet.not_flush
    | settle => exact now.elim
    | drain => exact now.elim

/-- Where the stretch is not quiet the batch is handed over in it, as it is. -/
theorem foldl_of_not_quiet (waiting : lane.waiting = some batch)
    (loud : ¬ Quiet lane.clock batch.deadline operations) :
    (operations.foldl (step key) lane).waiting = none ∧
      ∃ handover, (operations.foldl (step key) lane).handed = lane.handed ++ [handover] ∧
        handover.events = batch.events := by
  induction operations generalizing lane with
  | nil => exact absurd Quiet.nil loud
  | cons operation rest ih =>
    obtain ⟨now, later⟩ := List.forall_mem_cons.1 timed
    obtain ⟨other, others⟩ := List.forall_mem_cons.1 unadded
    cases operation with
    | add key' event window callback =>
      rw [List.foldl_cons, step_other (by simpa [Operation.added?] using other)]
      exact ih later others waiting (mt Quiet.add_iff.2 loud)
    | advance seconds =>
      rw [List.foldl_cons]
      by_cases due : batch.deadline ≤ lane.clock + seconds
      · have passed : lane.step key (.advance seconds) =
            { lane.handOver batch (max lane.clock batch.deadline) batch.callback with
              clock := lane.clock + seconds } := by
          simp [step, waiting, due]
        have idle : (lane.step key (.advance seconds)).waiting = none := by rw [passed]; rfl
        obtain ⟨idle, handed⟩ := foldl_of_idle later others idle
        rw [passed] at idle handed ⊢
        exact ⟨idle, _, handed, rfl⟩
      · have moved :
            lane.step key (.advance seconds) = { lane with clock := lane.clock + seconds } := by
          simp [step, waiting, due]
        rw [moved]
        refine @ih { lane with clock := lane.clock + seconds } later others waiting ?_
        exact fun quiet => loud (Quiet.advance_iff.2 ⟨not_le.1 due, quiet⟩)
    | flush callback =>
      have passed : lane.step key (.flush callback) = lane.handOver batch lane.clock callback := by
        simp [step, waiting]
      have idle : (lane.handOver batch lane.clock callback).waiting = none := rfl
      rw [List.foldl_cons, passed]
      obtain ⟨idle, handed⟩ := foldl_of_idle later others idle
      exact ⟨idle, _, handed, rfl⟩
    | settle => exact now.elim
    | drain => exact now.elim

end Stretch

section Segments

variable {before quiet after : List (Operation κ ε Rat ω)} {event : ε} {window : Rat}
  {callback : Callback κ ε Rat ω}

theorem run_join : run key (before ++ .add key event window callback :: after) =
    after.foldl (step key) ((run key before).join event window callback) := by
  rw [run_append, List.foldl_cons, step_own]

/-- The batch that an event joins, among all. -/
theorem batches_run_join : ∃ more rest,
    (run key (before ++ .add key event window callback :: after)).batches =
      (run key before).handed.map (·.events)
      ++ ((run key before).queue ++ event :: more) :: rest := by
  rw [run_join]
  obtain ⟨more, rest, batches⟩ := batches_foldl after ((run key before).join event window callback)
  exact ⟨more, rest, by rw [batches]; simp [queue, join]⟩

/-- Either nothing is added under the key, or there is a last event. -/
theorem exists_last_add (key : κ) (operations : List (Operation κ ε Rat ω)) :
    (∀ operation ∈ operations, operation.added? key = none) ∨
      ∃ before event window callback quiet,
        operations = before ++ .add key event window callback :: quiet ∧
        ∀ operation ∈ quiet, operation.added? key = none := by
  induction operations using List.reverseRecOn with
  | nil => exact .inl fun _ absent => nomatch absent
  | append_singleton earlier operation ih =>
    cases added : operation.added? key with
    | none =>
      have last {quiet : List (Operation κ ε Rat ω)}
          (unadded : ∀ operation ∈ quiet, operation.added? key = none) :
          ∀ other ∈ quiet ++ [operation], other.added? key = none := by
        intro other member
        rcases List.mem_append.1 member with old | new
        · exact unadded other old
        · rw [List.mem_singleton.1 new]
          exact added
      rcases ih with unadded | ⟨before, event, window, callback, quiet, rfl, unadded⟩
      · exact .inl (last unadded)
      · exact .inr ⟨before, event, window, callback, quiet ++ [operation], by simp, last unadded⟩
    | some event =>
      right
      cases operation with
      | add other event' window callback =>
        have own : other = key := by
          by_contra apart
          simp [Operation.added?, apart] at added
        exact ⟨earlier, event', window, callback, [], by rw [own], fun _ absent => nomatch absent⟩
      | _ => contradiction

/-- A batch that waits does so since its last event, which set its deadline and its callback. -/
theorem exists_of_waiting (timed : ∀ operation ∈ operations, operation.IsTimed)
    (waiting : (run key operations).waiting = some batch) :
    ∃ before event window callback quiet,
      operations = before ++ .add key event window callback :: quiet ∧
      (∀ operation ∈ quiet, operation.added? key = none) ∧
      Quiet (run key before).clock ((run key before).clock + window * 60) quiet ∧
      batch = ⟨(run key before).queue ++ [event], (run key before).clock + window * 60,
        callback⟩ := by
  rcases exists_last_add key
    operations with unadded | ⟨before, event, window, callback, quiet, rfl, unadded⟩
  · rw [run, (foldl_of_idle timed unadded rfl).1] at waiting
    contradiction
  · have later : ∀ operation ∈ quiet, operation.IsTimed := fun operation member =>
      timed operation (List.mem_append_right _ (List.mem_cons_of_mem _ member))
    have joined := waiting_join (run key before) event window callback
    rw [run_join] at waiting
    by_cases still : Quiet (run key before).clock ((run key before).clock + window * 60) quiet
    · rw [(foldl_of_quiet later unadded joined still).1] at waiting
      exact ⟨before, event, window, callback, quiet, rfl, unadded, still,
        (Option.some.inj waiting).symm⟩
    · rw [(foldl_of_not_quiet later unadded joined still).1] at waiting
      contradiction

/-- Two events that follow each other under the key are in one batch exactly where the stretch
between them is quiet up to the deadline that the first one sets. -/
theorem together_run_iff {next : ε} {other : Rat} {last : Callback κ ε Rat ω}
    (timed : ∀ operation ∈ quiet, operation.IsTimed)
    (unadded : ∀ operation ∈ quiet, operation.added? key = none) :
    Together (run key ((before ++ .add key event window callback :: quiet) ++
        .add key next other last :: after)).batches
      ((before.filterMap (·.added? key)).length + 1) ↔
    Quiet (run key before).clock ((run key before).clock + window * 60) quiet := by
  have position : (before.filterMap (·.added? key)).length + 1 =
      ((run key before).handed.map (·.events)).flatten.length +
        ((run key before).queue ++ [event]).length := by
    rw [← flatten_batches_run, batches, List.flatten_append, List.length_append]
    simp [Nat.add_assoc]
  have joined := waiting_join (run key before) event window callback
  obtain ⟨more, rest, batches⟩ := @batches_run_join κ ε ω _ key
    (before ++ .add key event window callback :: quiet) after next other last
  rw [batches, position, run_join]
  constructor
  · intro together
    by_contra loud
    obtain ⟨idle, handover, handed, events⟩ := foldl_of_not_quiet timed unadded joined loud
    have boundary : ((run key before).handed.map (·.events)).flatten.length +
        ((run key before).queue ++ [event]).length =
          (((run key before).handed ++ [handover]).map (·.events)).flatten.length := by
      simp [events]
    rw [handed, boundary] at together
    exact not_together_append _ _ together
  · intro still
    obtain ⟨waits, handed, -⟩ := foldl_of_quiet timed unadded joined still
    rw [handed, queue, waits]
    exact together_append (by simp) (by simp)

/-- The batches handed over are those that a flush or the clock ends. -/
theorem mem_handed_run_iff (timed : ∀ operation ∈ operations, operation.IsTimed)
    {handover : Handover κ ε Rat ω} :
    handover ∈ (run key operations).handed ↔
      HandedOver (fun before => (run key before).clock) (fun before => (run key before).queue) key
        operations handover := by
  constructor
  · intro member
    induction operations using List.reverseRecOn with
    | nil => contradiction
    | append_singleton earlier operation ih =>
      have sooner : ∀ operation ∈ earlier, operation.IsTimed := fun operation member =>
        timed operation (List.mem_append_left _ member)
      rw [run_append, List.foldl_cons, List.foldl_nil] at member
      rcases mem_handed_step member with old | ⟨batch, waiting, new⟩
      · exact (ih sooner old).append [operation]
      · obtain ⟨before, event, window, callback, quiet, rfl, unadded, still, rfl⟩ :=
          exists_of_waiting sooner waiting
        rw [List.append_assoc, List.cons_append]
        rcases new with ⟨last, rfl, rfl⟩ | ⟨seconds, rfl, reached, rfl⟩
        · exact .flushed unadded still
        · have joined := waiting_join (run key before) event window callback
          have quietly : ∀ operation ∈ quiet, operation.IsTimed := fun operation member =>
            sooner operation (List.mem_append_right _ (List.mem_cons_of_mem _ member))
          have latest := (foldl_of_quiet quietly unadded joined still).2.2
          rw [← run_join] at latest
          dsimp only at latest reached ⊢
          rw [latest]
          exact .expired unadded still reached
  · intro handed
    cases handed with
    | @flushed before quiet after event window callback last unadded still =>
      have joined := waiting_join (run key before) event window callback
      have quietly : ∀ operation ∈ quiet, operation.IsTimed := fun operation member =>
        timed operation (by simp [member])
      have waits := (foldl_of_quiet quietly unadded joined still).1
      rw [run_join, List.foldl_append, List.foldl_cons]
      apply handed_prefix_foldl.subset
      rw [run_join]
      simp [step, waits, handOver]
    | @expired before quiet after event window callback seconds unadded still reached =>
      have joined := waiting_join (run key before) event window callback
      have quietly : ∀ operation ∈ quiet, operation.IsTimed := fun operation member =>
        timed operation (by simp [member])
      obtain ⟨waits, -, latest⟩ := foldl_of_quiet quietly unadded joined still
      rw [run_join] at reached
      rw [run_join, List.foldl_append, List.foldl_cons]
      apply handed_prefix_foldl.subset
      simp only [step, waits, reached, latest, handOver, if_true]
      exact List.mem_append_right _ (List.mem_singleton_self _)

end Segments

end Lane

end MarketAlerts.Delivery
