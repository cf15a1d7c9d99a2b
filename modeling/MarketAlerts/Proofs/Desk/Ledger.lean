import Mathlib.Data.Set.Card
import MarketAlerts.Calendar.ZoneRule
import MarketAlerts.Proofs.Desk.DailyCap
import MarketAlerts.Proofs.Desk.ExactlyOnce

/-!
The ledger of an engine. What it counts, what its alerts count, what its history holds and what is
out for delivery or waits for it are changed in different places; over every run they agree with the
evaluations that the ticks gave back.
-/
namespace MarketAlerts

open Delivery

/-- The tallies once more evaluations are kept book of. -/
def Tallies.count (tallies : Tallies) (evaluations : List Evaluation) : Tallies :=
  { tallies with
    evaluations := tallies.evaluations + evaluations.length
    triggers := tallies.triggers + evaluations.countP (·.record.triggered)
    blocked := tallies.blocked + evaluations.countP (·.record.blockedBy.isSome)
    errors := tallies.errors + evaluations.countP (·.record.error.isSome) }

theorem Tallies.count_append (tallies : Tallies) (evaluations more : List Evaluation) :
    tallies.count (evaluations ++ more) = (tallies.count evaluations).count more := by
  simp [count, Nat.add_assoc]

/-- No evaluation is a trigger, blocked and an error in one. -/
theorem Evaluation.countP_add_le (evaluations : List Evaluation) :
    evaluations.countP (·.record.triggered) + evaluations.countP (·.record.blockedBy.isSome) +
      evaluations.countP (·.record.error.isSome) ≤ evaluations.length := by
  induction evaluations with
  | nil => exact Nat.le_refl 0
  | cons evaluation rest ih =>
    have first : (if evaluation.record.triggered then 1 else 0) +
        (if evaluation.record.blockedBy.isSome then 1 else 0) +
        (if evaluation.record.error.isSome then 1 else 0) ≤ 1 := by
      unfold record
      cases evaluation.outcome <;> simp
    rw [List.countP_cons, List.countP_cons, List.countP_cons, List.length_cons]
    omega

namespace Desk

theorem length_firingsOf (judged : List (Nat × Evaluation)) :
    (firingsOf judged).length = (judged.map (·.2)).countP (·.record.triggered) := by
  induction judged with
  | nil => rfl
  | cons entry rest ih =>
    rw [firingsOf_cons, List.length_append, ih, List.map_cons, List.countP_cons,
      Evaluation.triggered_record, Nat.add_comm]
    cases entry.2.event? <;> rfl

theorem sum_map_set {α : Type} {f : α → Nat} {values : List α} {position : Nat} {old new : α}
    (found : values[position]? = some old) (more : f new = f old + 1) :
    ((values.set position new).map f).sum = (values.map f).sum + 1 := by
  induction values generalizing position with
  | nil => contradiction
  | cons value rest ih =>
    cases position with
    | zero =>
      obtain rfl := Option.some.inj found
      simp [more]
      omega
    | succ position =>
      have later := ih found
      rw [List.set_cons_succ, List.map_cons, List.sum_cons, later, List.map_cons, List.sum_cons,
        Nat.add_assoc]

end Desk

namespace Posted

variable {notifiers : List Notifier} {batched : List (String × Event)} {singles : List Bundle}
  {loop : DeliveryLoop}

/-- What came in batches and singly is out for delivery or waits. -/
theorem length_told (h : Posted notifiers batched singles loop) :
    ((openings (loop.told [])).flatMap (·.2)).length + (entriesOf loop.batcher.queues).length =
      batched.length + (singles.flatMap (·.2)).length := by
  have sent : ((openings (loop.told [])).flatMap (·.2)).length =
      (entriesOf loop.calls).length + (singles.flatMap (·.2)).length := by
    have all := (h.underway.handed.complete.flatMap_right (·.2)).length_eq
    rwa [List.flatMap_append, List.length_append, ← map_entriesOf loop.calls,
      List.length_map] at all
  have entries : (entriesOf loop.calls).length + (entriesOf loop.batcher.queues).length =
      batched.length := by
    rw [← List.length_append, ← h.arrivals]
    exact h.balanced.perm.length_eq
  omega

end Posted

namespace Delivery.Batcher

variable {κ ε τ : Type} [DecidableEq κ] {batcher : Batcher κ ε τ}

theorem queue_of_mem (distinct : batcher.pendingKeys.Nodup) {entry : κ × List ε}
    (member : entry ∈ batcher.queues) : batcher.queue entry.1 = entry.2 := by
  rw [queue, lookup_of_mem distinct member, Option.getD_some]

/-- Where each key has one queue, the counts of the keys add up to all that waits. -/
theorem sum_pendingCount (distinct : batcher.pendingKeys.Nodup) :
    (batcher.pendingKeys.map batcher.pendingCount).sum = (entriesOf batcher.queues).length := by
  have counts : batcher.pendingKeys.map batcher.pendingCount =
      batcher.queues.map fun entry => entry.2.length := by
    rw [pendingKeys, List.map_map]
    apply List.map_congr_left
    intro entry member
    exact congrArg List.length (queue_of_mem distinct member)
  rw [counts, entriesOf, List.length_flatMap]
  simp

/-- Where no queue is empty, the queues are those of the keys under which something waits. -/
theorem ncard_pending (distinct : batcher.pendingKeys.Nodup)
    (filled : ∀ entry ∈ batcher.queues, entry.2 ≠ []) :
    {key | 0 < batcher.pendingCount key}.ncard = batcher.size := by
  have keys : {key | 0 < batcher.pendingCount key} = (batcher.pendingKeys.toFinset : Set κ) := by
    ext key
    rw [Set.mem_ofPred_eq, List.coe_toFinset, Set.mem_ofPred_eq, pendingCount]
    constructor
    · intro waiting
      cases found : batcher.queues.lookup key with
      | none => simp [queue, found] at waiting
      | some events =>
        obtain ⟨before, after, queues, -⟩ := List.lookup_eq_some_iff.1 found
        simp [pendingKeys, queues]
    · intro known
      obtain ⟨entry, member, rfl⟩ := List.mem_map.1 known
      rw [queue_of_mem distinct member]
      exact List.length_pos_iff.2 (filled entry member)
  rw [keys, Set.ncard_coe_finset, List.toFinset_card_of_nodup distinct, pendingKeys,
    List.length_map, size]

end Delivery.Batcher

/-- The batches that a delivery has opened, or is set to open. -/
def Delivery.Loop.sent (loop : DeliveryLoop) : List Bundle :=
  openings loop.emitted ++ openings (owedBy loop.handles)

section

variable [Installation]

/-- An engine that has done nothing yet: nothing counted, nothing recorded, nothing on its loop. -/
structure Engine.Fresh (engine : Engine) : Prop where
  tallies : engine.tallies = {}
  history : engine.history.events = []
  loop : engine.loop.Unused

theorem Engine.fresh_of_build {settings : Settings} {notifiers : Option (List Notifier)}
    {nameEvent : Nat → Nat → String} {engine : Engine}
    (built : build settings none none notifiers nameEvent = .ok engine) : engine.Fresh where
  tallies := by
    obtain ⟨history, _, rest⟩ := ok_of_bind built
    cases rest
    rfl
  history := by
    obtain ⟨history, made, rest⟩ := ok_of_bind built
    cases rest
    exact History.events_of_build made
  loop := unused_of_build built

namespace Desk

/-- The evaluations that a move gives back. -/
def returnedIn (desk : Desk) : Move → List Evaluation
  | .tick listed market now => (desk.tick listed market now).evaluations
  | _ => []

/-- The evaluations that a run gives back. -/
def returned (desk : Desk) : List Move → List Evaluation
  | [] => []
  | move :: rest => desk.returnedIn move ++ (desk.move move).returned rest

theorem tallies_change {α : Type} (desk : Desk) (position : Nat) (operation : Alert → Change α) :
    (desk.change position operation).engine.tallies = desk.engine.tallies := by
  unfold change
  split <;> rfl

theorem tallies_absorb (desk : Desk) (now : Calendar.Timestamp) {position : Nat}
    (known : position < desk.alerts.length) (evaluation : Evaluation) :
    (desk.absorb now position evaluation).engine.tallies =
    desk.engine.tallies.count [evaluation] := by
  have found := List.getElem?_eq_getElem known
  unfold absorb
  cases outcome : evaluation.outcome with
  | unobserved => simp [Engine.tally, Tallies.count, Evaluation.record, outcome]
  | blocked gate reason =>
    dsimp only
    split
    · rw [tallies_change]
      simp [Engine.tally, Tallies.count, Evaluation.record, outcome]
    · simp [Engine.tally, Tallies.count, Evaluation.record, outcome]
  | quiet finding => simp [Engine.tally, Tallies.count, Evaluation.record, outcome]
  | fired event =>
    dsimp only
    rw [found]
    simp [Engine.handle, Engine.log, Engine.tally, Tallies.count, Evaluation.record, outcome]
  | failed fault => simp [Engine.tally, Tallies.count, Evaluation.record, outcome]

theorem tallies_absorbed (now : Calendar.Timestamp) (judged : List (Nat × Evaluation)) (desk : Desk)
    (known : ∀ entry ∈ judged, entry.1 < desk.alerts.length) :
    (judged.foldl (fun desk (position, evaluation) => desk.absorb now position evaluation)
      desk).engine.tallies = desk.engine.tallies.count (judged.map (·.2)) := by
  induction judged generalizing desk with
  | nil => rfl
  | cons entry rest ih =>
    have later : ∀ other ∈ rest,
        other.1 < (desk.absorb now entry.1 entry.2).alerts.length := by
      intro other member
      rw [alerts_absorb, List.length_modify]
      exact known other (List.mem_cons_of_mem entry member)
    rw [List.foldl_cons, ih _ later, tallies_absorb desk now (known entry List.mem_cons_self)]
    exact (Tallies.count_append _ [entry.2] _).symm

theorem tallies_tick (desk : Desk) (listed : List Nat) (market : Market)
    (now : Calendar.Timestamp) : (desk.tick listed market now).desk.engine.tallies =
      ({ desk.engine.tallies with ticks := desk.engine.tallies.ticks + 1 } : Tallies).count
        (desk.tick listed market now).evaluations := by
  obtain ⟨lines, summary, done⟩ := desk.desk_tick listed market now
  obtain ⟨loop, engine⟩ := engine_awake desk listed now.aware
  let found := desk.awake listed now.aware
  let noted : Desk := { found with engine := found.engine.log lines }
  have booked := tallies_absorbed now.aware (desk.judged listed market now) noted
    fun _ => lt_of_mem_judged
  have begun : noted.engine.tallies =
      { desk.engine.tallies with ticks := desk.engine.tallies.ticks + 1 } := by
    change found.engine.tallies = _
    rw [engine]
  rw [begun, ← evaluations_eq] at booked
  rw [done]
  exact booked

/-- Every move counts what it gives back, and besides no more than ticks. -/
theorem tallies_move (desk : Desk) (move : Move) : ∃ ticks, (desk.move move).engine.tallies =
    { desk.engine.tallies.count (desk.returnedIn move) with ticks } := by
  cases move with
  | tick listed market now => exact ⟨_, tallies_tick desk listed market now⟩
  | command position command now =>
    refine ⟨desk.engine.tallies.ticks, ?_⟩
    cases command <;> exact tallies_change desk position _
  | _ => exact ⟨_, rfl⟩

theorem tallies_run (desk : Desk) (moves : List Move) : ∃ ticks, (desk.run moves).engine.tallies =
    { desk.engine.tallies.count (desk.returned moves) with ticks } := by
  induction moves generalizing desk with
  | nil => exact ⟨_, rfl⟩
  | cons move rest ih =>
    obtain ⟨ticks, first⟩ := desk.tallies_move move
    obtain ⟨more, later⟩ := ih (desk.move move)
    refine ⟨more, ?_⟩
    rw [first] at later
    rw [returned, Tallies.count_append]
    exact later

/-- Every trigger that a run reports is an event that fired. -/
theorem length_firings (desk : Desk) (moves : List Move) :
    (desk.firings moves).length = (desk.returned moves).countP (·.record.triggered) := by
  induction moves generalizing desk with
  | nil => rfl
  | cons move rest ih =>
    have first : (desk.fired move).length = (desk.returnedIn move).countP (·.record.triggered) := by
      cases move with
      | tick listed market now => rw [fired, length_firingsOf, ← evaluations_eq, returnedIn]
      | _ => rfl
    rw [firings, returned, List.length_append, List.countP_append, ih, first]

/-- The triggers of all alerts. -/
def triggers (desk : Desk) : Nat := (desk.alerts.map (·.triggeredCount)).sum

theorem Quiet.triggers {before after : Desk} (quiet : Quiet before after) :
    after.triggers = before.triggers := by
  have same := congrArg (List.map fun alert : Alert => alert.triggeredCount) quiet.alerts
  rw [List.map_map, List.map_map] at same
  exact congrArg List.sum same

theorem triggers_fire {desk : Desk} {position : Nat} {alert : Alert} (event : Event)
    (found : desk.alerts[position]? = some alert) :
    (desk.fire position alert event).triggers = desk.triggers + 1 :=
  sum_map_set found rfl

theorem Course.triggers {start finish : Desk} {firings : List Firing}
    (course : Course start firings finish) :
    finish.triggers = start.triggers + firings.length := by
  induction course with
  | done desk => rfl
  | quiet change _ ih => rw [ih, change.triggers]
  | fire found _ ih =>
    rw [ih, triggers_fire _ found, List.length_cons, Nat.add_assoc, Nat.add_comm 1]

theorem triggers_run (desk : Desk) (moves : List Move) :
    (desk.run moves).triggers = desk.triggers + (desk.firings moves).length := by
  induction moves generalizing desk with
  | nil => rfl
  | cons move rest ih =>
    obtain ⟨next, course, alerts⟩ := desk.course_move move
    have moved : (desk.move move).triggers = desk.triggers + (desk.fired move).length := by
      rw [← course.triggers, Desk.triggers, Desk.triggers, alerts]
    rw [firings, List.length_append, ← Nat.add_assoc, ← moved]
    exact ih (desk.move move)

end Desk

namespace Desk

/-- What has fired is out for delivery or waits in the batcher. -/
theorem Accounted.length {origin desk : Desk} {firings : List Firing}
    (h : Accounted origin firings desk) :
    (desk.engine.loop.sent.flatMap (·.2)).length +
      (desk.engine.loop.batcher.pendingKeys.map desk.engine.loop.batcher.pendingCount).sum =
        firings.length := by
  have told := h.posted.length_told
  have fired := (perm_events origin firings).length_eq
  have sent : openings (desk.engine.loop.told []) = desk.engine.loop.sent := by
    rw [Loop.told, List.append_nil, openings_append, Loop.sent]
  rw [List.length_append, List.length_map, List.length_map] at fired
  rw [Batcher.sum_pendingCount h.posted.balanced.nodup_keys, ← sent, told, fired]

/-- The ledger balances at every moment of a run that begins with a fresh engine, for as long as
nobody clears its history: triggers counted, triggers reported, triggers entered into the books of
the alerts, and events that are out for delivery or wait are all the same number; the history holds
so many, up to its bound; every evaluation is counted, and none as more than one of triggered,
blocked and failed; and there are as many batches as tickers under which something waits. -/
theorem ledger_balances (desk : Desk) (fresh : desk.engine.Fresh) {moves : List Move}
    (kept : ∀ move ∈ moves, move ≠ .clearHistory) :
    let later := desk.run moves
    let stats := later.engine.stats
    let loop := later.engine.loop
    stats.triggers = (desk.returned moves).countP (·.record.triggered) ∧
    later.triggers = desk.triggers + stats.triggers ∧
    stats.triggers = (loop.sent.flatMap (·.2)).length +
      (loop.batcher.pendingKeys.map loop.batcher.pendingCount).sum ∧
    stats.historySize = min desk.engine.history.capacity stats.triggers ∧
    stats.evaluations = (desk.returned moves).length ∧
    stats.triggers + stats.blocked + stats.errors ≤ stats.evaluations ∧
    stats.pendingBatches = {ticker | 0 < loop.batcher.pendingCount ticker}.ncard := by
  intro later stats loop
  obtain ⟨ticks, tallies⟩ := desk.tallies_run moves
  rw [fresh.tallies] at tallies
  have evaluations : stats.evaluations = (desk.returned moves).length :=
    (congrArg Tallies.evaluations tallies).trans (Nat.zero_add _)
  have triggers : stats.triggers = (desk.returned moves).countP (·.record.triggered) :=
    (congrArg Tallies.triggers tallies).trans (Nat.zero_add _)
  have fired : (desk.firings moves).length = stats.triggers := by rw [length_firings, triggers]
  have opened : Accounted desk [] desk := ⟨rfl, rfl, Posted.of_unused fresh.loop⟩
  have accounts := opened.run moves
  rw [List.nil_append] at accounts
  refine ⟨triggers, ?books, ?out, ?history, evaluations, ?kinds, ?batches⟩
  case books => rw [← fired, desk.triggers_run]
  case out => rw [← fired, accounts.length]
  case history =>
    have within : desk.engine.history.size ≤ desk.engine.history.capacity := by
      rw [History.size, fresh.history]
      exact Nat.zero_le _
    change later.engine.history.size = _
    rw [desk.history_recordAll kept, History.size, History.events_recordAll within, fresh.history,
      List.nil_append, History.length_latest, List.length_map, fired]
  case kinds =>
    have apart := Evaluation.countP_add_le (desk.returned moves)
    have blocked : stats.blocked = (desk.returned moves).countP (·.record.blockedBy.isSome) :=
      (congrArg Tallies.blocked tallies).trans (Nat.zero_add _)
    have errors : stats.errors = (desk.returned moves).countP (·.record.error.isSome) :=
      (congrArg Tallies.errors tallies).trans (Nat.zero_add _)
    rwa [triggers, blocked, errors, evaluations]
  case batches =>
    have balanced := accounts.posted.balanced
    exact (Batcher.ncard_pending balanced.nodup_keys balanced.queues_ne_nil).symm

end Desk

end

namespace Desk

theorem ledger_balances_twoTicks :
    let later := pair.run twoTicks
    later.engine.stats.triggers = 4 ∧
    (later.engine.loop.sent.flatMap (·.2)).length +
      (later.engine.loop.batcher.pendingKeys.map later.engine.loop.batcher.pendingCount).sum =
      4 := by
  have fresh : pair.engine.Fresh := ⟨rfl, rfl, ⟨rfl, rfl, rfl⟩⟩
  have kept : ∀ move ∈ twoTicks, move ≠ .clearHistory := by simp [twoTicks]
  have four : (pair.run twoTicks).engine.stats.triggers = 4 := by decide +kernel
  obtain ⟨_, _, out, _⟩ := pair.ledger_balances fresh kept
  exact ⟨four, out.symm.trans four⟩

end Desk

end MarketAlerts
