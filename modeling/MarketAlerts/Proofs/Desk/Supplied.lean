import MarketAlerts.Calendar.ZoneRule
import MarketAlerts.Proofs.Desk.DailyCap
import MarketAlerts.Proofs.Desk.ExactlyOnce

/-!
A history and a batcher that are given to a new engine. It goes on with them where they hold
something: every trigger is recorded in this history, the daily cap counts in it, and every batched
event waits in this batcher until it is handed over. Where they are empty the engine takes new ones
in their place.
-/
namespace MarketAlerts

open Calendar Delivery

namespace Delivery.Loop

variable {κ ε τ ω : Type} [DecidableEq κ] [Timescale τ] {callback : Callback κ ε τ ω}

/-- A callback may bring in an event of its own, and takes none away. -/
theorem joined_invoke {loop : Loop κ ε τ ω} {entries : List (κ × ε)}
    (h : entries.Sublist loop.books.arrivals) (callback : Callback κ ε τ ω) (key : κ)
    (events : List ε) : entries.Sublist (loop.invoke callback key events).books.arrivals := by
  rw [books_invoke]
  cases callback with
  | plain reply => exact h
  | requeue reply other event window next => exact h.trans (List.sublist_append_left _ _)

/-- What has joined stays in the books. -/
theorem joined_kept (entries : List (κ × ε)) :
    Kept fun loop : Loop κ ε τ ω => entries.Sublist loop.books.arrivals where
  perform := by
    intro loop handle rest _ h
    cases handle.job with
    | expire key callback =>
      rw [perform, expire]
      dsimp only
      split
      · exact h
      · refine joined_invoke ?_ callback key _
        exact h
    | wake task => exact h
    | resume task =>
      rw [perform, books_resume]
      exact h
  beginRound := fun _ _ _ h => h
  setClock := fun _ h => h

theorem joined_flushed (callback : Callback κ ε τ ω) (entries : List (κ × ε)) :
    Flushed callback (fun loop => entries.Sublist loop.books.arrivals) fun _ loop =>
      entries.Sublist loop.books.arrivals where
  cancel := fun _ h => h
  clear := fun h => h
  skip := fun h => h
  invoke := fun _ h => joined_invoke h callback _ _
  note := by
    intro loop count h
    rw [books_note]
    exact h

end Delivery.Loop

section

variable [Installation]

namespace Desk

/-- Events that joined a batcher before a run and in it are accounted for in its books. -/
structure Entrusted (before batched : List (String × Event)) (loop : DeliveryLoop) : Prop where
  balanced : loop.books.Balanced []
  joined : (before ++ batched).Sublist loop.books.arrivals

theorem sustained_entrusted (origin : Desk) (before : List (String × Event)) :
    Sustained origin fun firings => Entrusted before (origin.batched firings) where
  log := by
    intro firings loop lines h
    have same := loop.books_emitAll (lines.map Dispatch.logged)
    exact ⟨same ▸ h.balanced, same ▸ h.joined⟩
  send := by
    intro firings loop position alert event found ticker h
    rw [batched_concat found ticker, Alert.send]
    split
    · have entry := loop.books_add alert.ticker event alert.frequency.windowMinutes
        (Notifier.delivery origin.engine.notifiers)
      refine ⟨entry ▸ h.balanced.add alert.ticker event, ?_⟩
      rw [entry, ← List.append_assoc]
      exact h.joined.append_right _
    · rw [List.append_nil]
      exact ⟨h.balanced, h.joined⟩
  turns := fun firings =>
    { perform := fun agenda h =>
        ⟨Loop.balanced_kept.perform agenda h.balanced, (Loop.joined_kept _).perform agenda h.joined⟩
      beginRound := fun _ _ _ h => ⟨h.balanced, h.joined⟩
      setClock := fun _ h => ⟨h.balanced, h.joined⟩ }
  flush := fun h =>
    ⟨(Loop.balanced_flushed _).flush h.balanced, (Loop.joined_flushed _ _).flush h.joined⟩

end Desk

namespace Engine

variable {settings : Settings} {supplied : History} {loop : DeliveryLoop}
  {notifiers : Option (List Notifier)} {nameEvent : Nat → Nat → String} {engine : Engine}

/-- The parts of an engine that was given a history and a loop with a batcher. -/
theorem of_build
    (built : build settings (some supplied) (some loop) notifiers nameEvent = .ok engine) :
    (0 < supplied.size → engine.history = supplied) ∧
    (supplied.size = 0 →
      History.build settings.history.maxEvents settings.engine.zone.name = .ok engine.history) ∧
    (0 < loop.batcher.size → engine.loop = loop) ∧
    (loop.batcher.size = 0 → engine.loop = { loop with batcher := .empty }) := by
  have batcher : (0 < loop.batcher.size →
        { loop with batcher := if loop.batcher.size = 0 then .empty else loop.batcher } = loop) ∧
      (loop.batcher.size = 0 →
        { loop with batcher := if loop.batcher.size = 0 then .empty else loop.batcher } =
          { loop with batcher := .empty }) := by
    refine ⟨fun filled => ?_, fun empty => ?_⟩
    · rw [if_neg (Nat.ne_of_gt filled)]
    · rw [if_pos empty]
  unfold build at built
  split at built
  · next history found =>
    obtain ⟨given, holds⟩ := Option.filter_eq_some_iff.1 found
    obtain rfl := Option.some.inj given
    cases built
    have filled : 0 < supplied.size := of_decide_eq_true holds
    exact ⟨fun _ => rfl, fun empty => absurd empty (Nat.ne_of_gt filled), batcher⟩
  · next empty =>
    have unfilled : ¬ 0 < supplied.size := by simpa using empty
    obtain ⟨history, made, rest⟩ := ok_of_bind built
    cases rest
    exact ⟨fun filled => absurd filled unfilled, fun _ => made, batcher⟩

/-- A supplied history within its bound leaves the engine with one within its bound. -/
theorem room_of_build
    (built : build settings (some supplied) (some loop) notifiers nameEvent = .ok engine)
    (within : supplied.size ≤ supplied.capacity) :
    engine.history.size ≤ engine.history.capacity := by
  obtain ⟨same, replaced, -⟩ := of_build built
  rcases Nat.eq_zero_or_pos supplied.size with empty | filled
  · rw [History.size, History.events_of_build (replaced empty)]
    exact Nat.zero_le _
  · rw [same filled]
    exact within

/-- Nothing is lost where an empty batcher is replaced. -/
theorem books_of_build
    (built : build settings (some supplied) (some loop) notifiers nameEvent = .ok engine) :
    engine.loop.books = loop.books := by
  obtain ⟨-, -, same, replaced⟩ := of_build built
  rcases Nat.eq_zero_or_pos loop.batcher.size with empty | filled
  · have queues : loop.batcher.queues = [] := List.eq_nil_of_length_eq_zero empty
    rw [replaced empty, Loop.books, Loop.books, queues]
    rfl
  · rw [same filled]

end Engine

namespace Desk

/-- An engine goes on with the history and the batcher that it is given, as long as they hold
something: over every run what fires is recorded in this history, up to its bound, the count of a
day is taken in it and in its zone, and what is sent in batches joins this batcher, where it waits
until it is handed over. In place of an empty one the engine has a new one, made from its
settings. -/
theorem uses_supplied {settings : Settings} {supplied : History} {loop : DeliveryLoop}
    {notifiers : Option (List Notifier)} {nameEvent : Nat → Nat → String} {engine : Engine}
    (built : Engine.build settings (some supplied) (some loop) notifiers nameEvent = .ok engine)
    (within : supplied.size ≤ supplied.capacity) (balanced : loop.books.Balanced [])
    (alerts : List Alert) {moves : List Move} (kept : ∀ move ∈ moves, move ≠ .clearHistory) :
    let desk : Desk := ⟨engine, alerts⟩
    let fired := desk.firings moves
    let later := (desk.run moves).engine
    (0 < supplied.size → engine.history = supplied) ∧
    (supplied.size = 0 →
      History.build settings.history.maxEvents settings.engine.zone.name = .ok engine.history) ∧
    later.history.zone = engine.history.zone ∧
    later.history.capacity = engine.history.capacity ∧
    later.history.events = History.latest engine.history.capacity
      (engine.history.events ++ fired.map (·.event)) ∧
    (∀ alertId now count, later.history.countToday alertId now = .ok count →
      ∃ today, engine.history.dayOf now = .ok today ∧
        count = later.history.events.countP (isOf alertId engine.history.zone today)) ∧
    (0 < loop.batcher.size → engine.loop = loop) ∧
    (loop.batcher.size = 0 → engine.loop = { loop with batcher := .empty }) ∧
    (loop.arrivals ++ desk.batched fired).Sublist later.loop.arrivals ∧
    (∀ ticker, later.loop.books.handed ticker ++ later.loop.batcher.queue ticker =
      later.loop.books.joined ticker) := by
  intro desk fired later
  obtain ⟨same, replaced, loops⟩ := Engine.of_build built
  have room := Engine.room_of_build built within
  have recorded : later.history = engine.history.recordAll (fired.map (·.event)) :=
    desk.history_recordAll kept
  have zone : later.history.zone = engine.history.zone := by rw [recorded, History.zone_recordAll]
  have books := Engine.books_of_build built
  have entrusted : Entrusted loop.arrivals [] engine.loop := by
    refine ⟨books ▸ balanced, ?_⟩
    rw [books, List.append_nil]
    exact List.Sublist.refl _
  have reached :
      Reached desk (fun firings => Entrusted loop.arrivals (desk.batched firings)) [] desk :=
    ⟨rfl, rfl, entrusted⟩
  have posted := (reached.run (desk.sustained_entrusted loop.arrivals) moves).posted
  rw [List.nil_append] at posted
  refine ⟨same, replaced, zone, ?_, ?_, ?_, loops.1, loops.2, posted.joined,
    posted.balanced.handed_append_pending⟩
  · rw [recorded, History.capacity_recordAll]
  · rw [recorded, History.events_recordAll room]
  · intro alertId now count counted
    obtain ⟨today, day, counts⟩ := History.countToday_eq_ok counted
    rw [zone] at counts
    rw [History.dayOf, zone] at day
    exact ⟨today, day, counts⟩

end Desk

end

namespace Desk

/-- A history of the usual size that counts by the days of Tokyo. -/
def tokyo (events : List Event) : History := ⟨"Asia/Tokyo", 1000, events⟩

def earlier (alertId : String) : Event :=
  { id := "0-0"
    alertId
    ticker := "ACME"
    triggeredAt := oClock 13
    reason := "Any price"
    conditionsMet := []
    price := 2
    volume := none
    newsCount := none
    sentiment := none
    action := .pending
    actionAt := none
    snoozedUntil := none }

/-- A loop on which an event waits in a batch. -/
def waiting : DeliveryLoop :=
  (Loop.start : DeliveryLoop).add "ACME" (earlier "other") 15 (Notifier.delivery [])

theorem uses_supplied_tokyo :
    ∃ engine, Engine.build .default (some (tokyo [earlier "other"])) (some waiting) (some [])
        (fun tick position => toString tick ++ "-" ++ toString position) = .ok engine ∧
      let desk : Desk := ⟨engine, pair.alerts⟩
      let moves : List Move := [.tick [0, 1] .steady (oClock 14), .settle]
      engine.loop = waiting ∧ (desk.run moves).engine.history.zone = "Asia/Tokyo" ∧
        (waiting.arrivals ++ desk.batched (desk.firings moves)).Sublist
          (desk.run moves).engine.loop.arrivals ∧
        (desk.batched (desk.firings moves)).map (·.2.id) = ["1-0"] := by
  refine ⟨_, rfl, ?_⟩
  have balanced : waiting.books.Balanced [] := by
    rw [waiting, Loop.books_add]
    exact Books.Balanced.opened.add "ACME" (earlier "other")
  have kept : ∀ move ∈ [Move.tick [0, 1] .steady (oClock 14), .settle], move ≠ .clearHistory := by
    simp
  obtain ⟨same, _, zone, _, _, _, loop, _, joined, _⟩ :=
    uses_supplied rfl (by decide : (tokyo [earlier "other"]).size ≤ 1000) balanced pair.alerts kept
  exact ⟨loop (by decide), zone.trans (congrArg History.zone (same (by decide))), joined,
    by decide +kernel⟩

/-- An empty history that counts by the days of Tokyo is replaced by one that counts by days of
universal time: an alert that may fire once a day is held up at midnight in Tokyo, where a new day
begins. -/
theorem tokyo_replaced :
    ∃ engine, Engine.build .default (some (tokyo [])) none (some [])
        (fun tick position => toString tick ++ "-" ++ toString position) = .ok engine ∧
      let desk : Desk := ⟨engine, (onceDaily 1000).alerts⟩
      let meant : Desk := ⟨{ engine with history := tokyo [] }, (onceDaily 1000).alerts⟩
      let first : Move := .tick [0] .steady (oClock 14)
      ((tokyo []).dayOf (oClock 14)).toOption = some 800 ∧
      ((tokyo []).dayOf (oClock 15)).toOption = some 801 ∧
      engine.history.zone = "UTC" ∧
      (desk.fired first).length = 1 ∧ (meant.fired first).length = 1 ∧
      ((desk.move first).reports [0] .steady (oClock 15) 0).map (·.record.blockedBy) =
        [some "daily_cap"] ∧
      ((meant.move first).reports [0] .steady (oClock 15) 0).map (·.record.triggered) = [true] := by
  refine ⟨_, rfl, ?_⟩
  decide +kernel

end Desk

end MarketAlerts
