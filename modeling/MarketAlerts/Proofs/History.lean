import MarketAlerts.History
import MarketAlerts.Proofs.Engine.Evaluation

/-!
What a bounded history keeps and what it pushes out, and what its count of a day counts.
-/
namespace MarketAlerts

open Calendar

namespace History

/-- The events that leave when another is recorded. -/
def pushedOut (history : History) (event : Event) : List Event :=
  (history.events ++ [event]).take (history.events.length + 1 - history.capacity)

theorem append_event (history : History) (event : Event) :
    history.events ++ [event] = history.pushedOut event ++ (history.record event).events := by
  rw [pushedOut, record, latest, List.length_append, List.length_singleton]
  exact (List.take_append_drop _ _).symm

/-- The events that leave while others are recorded. -/
def pushedOutAll (history : History) : List Event → List Event
  | [] => []
  | event :: rest => history.pushedOut event ++ (history.record event).pushedOutAll rest

/-- What was there and what is recorded are what leaves and what stays, in this order. -/
theorem append_events (history : History) (events : List Event) :
    history.events ++ events = history.pushedOutAll events
    ++ (history.recordAll events).events := by
  induction events generalizing history with
  | nil => simp [pushedOutAll, recordAll]
  | cons event rest ih =>
    calc history.events ++ event :: rest
        = (history.events ++ [event]) ++ rest := by simp
      _ = history.pushedOut event ++ ((history.record event).events ++ rest) := by
          rw [append_event, List.append_assoc]
      _ = _ := by
          rw [ih, ← List.append_assoc]
          rfl

@[simp] theorem zone_recordAll (history : History) (events : List Event) :
    (history.recordAll events).zone = history.zone := by
  induction events generalizing history with
  | nil => rfl
  | cons event rest ih => exact ih (history.record event)

theorem events_of_build {maxEvents : Option Int} {zone : Option String} {history : History}
    (built : build maxEvents zone = .ok history) : history.events = [] := by
  unfold build Except.map at built
  split at built
  · cases built
  · cases built
    rfl

@[simp] theorem capacity_recordAll (history : History) (events : List Event) :
    (history.recordAll events).capacity = history.capacity := by
  induction events generalizing history with
  | nil => rfl
  | cons event rest ih => exact ih (history.record event)

theorem length_latest (count : Nat) (events : List Event) :
    (latest count events).length = min count events.length := by
  rw [latest, List.length_drop]
  omega

/-- Who forgets all but the latest may forget on the way. -/
theorem latest_latest_append (count : Nat) (events more : List Event) :
    latest count (latest count events ++ more) = latest count (events ++ more) := by
  unfold latest
  rw [List.length_append, List.length_drop, List.length_append]
  by_cases fits : events.length ≤ count
  · rw [Nat.sub_eq_zero_of_le fits, List.drop_zero, Nat.sub_zero]
  · rw [← List.drop_append_of_le_length (Nat.sub_le _ _), List.drop_drop]
    congr 1
    omega

/-- A history that holds no more than its bound holds the latest of all that is recorded. -/
theorem events_recordAll {history : History} (within : history.size ≤ history.capacity)
    (events : List Event) :
    (history.recordAll events).events = latest history.capacity (history.events ++ events) := by
  induction events generalizing history with
  | nil =>
    have fits : history.events.length - history.capacity = 0 := Nat.sub_eq_zero_of_le within
    rw [List.append_nil, latest, fits]
    rfl
  | cons event rest ih =>
    have kept : (history.record event).size ≤ history.capacity := by
      rw [size, record, length_latest]
      exact Nat.min_le_left _ _
    have later := ih kept
    rw [recordAll, List.foldl_cons]
    refine later.trans ?_
    rw [record, latest_latest_append, List.append_assoc]
    rfl

/-- Whatever a history held before: once it has recorded events, it holds the latest up to its
bound. -/
theorem recordAll_eq (history : History) {events : List Event} (nonempty : events ≠ []) :
    history.recordAll events = { history with
      events := (history.events ++ events).drop
        (history.events.length + events.length - history.capacity) } := by
  cases events with
  | nil => contradiction
  | cons event rest =>
    have within : (history.record event).size ≤ (history.record event).capacity := by
      rw [size, record, length_latest]
      exact Nat.min_le_left _ _
    have all : (history.recordAll (event :: rest)).events =
        latest history.capacity (history.events ++ event :: rest) := by
      rw [recordAll, List.foldl_cons]
      refine (events_recordAll within rest).trans ?_
      rw [record, latest_latest_append, List.append_assoc]
      rfl
    rw [latest, List.length_append] at all
    rw [← all, ← history.zone_recordAll (event :: rest),
      ← history.capacity_recordAll (event :: rest)]

end History

variable [Installation]

/-- Whether an event falls on a day of a zone. -/
def datedOn (zone : String) (day : Nat) (event : Event) : Bool :=
  match event.triggeredAt.inNamed zone with
  | .ok there => there.days = day
  | .error _ => false

/-- Whether an event is one of an alert on a day of a zone. -/
def isOf (alertId zone : String) (day : Nat) (event : Event) : Bool :=
  event.alertId = alertId && datedOn zone day event

namespace History

theorem datedOn_of_dayOf {history : History} {event : Event} {today : Nat} {here : Bool}
    (h : (history.dayOf event.triggeredAt).map (decide <| · = today) = .ok here) :
    datedOn history.zone today event = here := by
  unfold dayOf at h
  unfold datedOn
  cases there : event.triggeredAt.inNamed history.zone with
  | error fault =>
    rw [there] at h
    cases h
  | ok shown =>
    rw [there] at h
    cases h
    rfl

theorem datedOn_iff {history : History} {event : Event} {day : Nat} :
    datedOn history.zone day event = true ↔ history.dayOf event.triggeredAt = .ok day := by
  unfold datedOn dayOf
  cases event.triggeredAt.inNamed history.zone with
  | error fault => simp [Except.map]
  | ok there => simp [Except.map]

theorem countOn_eq_ok {history : History} {alertId : String} {today : Nat} {events : List Event}
    {count : Nat} (counted : history.countOn alertId today events = .ok count) :
    count = events.countP (isOf alertId history.zone today) := by
  induction events generalizing count with
  | nil =>
    cases counted
    rfl
  | cons event rest ih =>
    rw [List.countP_cons]
    rw [countOn] at counted
    split at counted
    · next own =>
      obtain ⟨here, day, later⟩ := ok_of_bind counted
      obtain ⟨others, after, sum⟩ := ok_of_bind later
      cases sum
      have counts : isOf alertId history.zone today event = here := by
        simp [isOf, own, datedOn_of_dayOf day]
      rw [ih after, counts]
    · next other =>
      obtain ⟨here, no, later⟩ := ok_of_bind counted
      obtain ⟨others, after, sum⟩ := ok_of_bind later
      cases no
      cases sum
      have counts : isOf alertId history.zone today event = false := by simp [isOf, other]
      rw [ih after, counts]

/-- The count of the day is the number of the alert's events on the day that are still there. -/
theorem countToday_eq_ok {history : History} {alertId : String} {now : Timestamp} {count : Nat}
    (counted : history.countToday alertId now = .ok count) :
    ∃ today, history.dayOf now = .ok today ∧
      count = history.events.countP (isOf alertId history.zone today) := by
  obtain ⟨today, day, rest⟩ := ok_of_bind counted
  exact ⟨today, day, countOn_eq_ok rest⟩

end History

end MarketAlerts
