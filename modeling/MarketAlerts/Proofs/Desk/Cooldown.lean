import Mathlib.Data.List.Chain
import MarketAlerts.Calendar.ZoneRule
import MarketAlerts.Proofs.Calendar.Span
import MarketAlerts.Proofs.Desk.Run

/-!
Cooldowns over whole runs. An alert remembers the time of its last event, and nothing but its next
event changes that: so the cooldown gate keeps any two events of one alert that follow each other
apart, whatever its user does and whichever way the times of the ticks go.
-/
namespace MarketAlerts

open Calendar

/-- The later of two events comes no sooner than a cooldown after the earlier. -/
def Apart (frequency : Frequency) (earlier later : Event) : Prop :=
  ∃ pause, minutes frequency.cooldownMinutes = .ok pause ∧
    pause ≤ later.triggeredAt.instant - earlier.triggeredAt.instant

theorem Apart.le {frequency : Frequency} {earlier later : Event}
    (h : Apart frequency earlier later) :
    earlier.triggeredAt.instant ≤ later.triggeredAt.instant := by
  obtain ⟨pause, span, apart⟩ := h
  have forward := minutes_nonneg frequency.cooldownMinutes.2 span
  omega

section

variable [Installation]

/-- An alert with its events so far. -/
structure Paced (alert : Alert) (events : List Event) : Prop where
  chain : events.IsChain (Apart alert.frequency)
  last : ∀ event ∈ events.getLast?, alert.lastTriggeredAt = some event.triggeredAt

theorem Paced.of_lasting {first alert : Alert} {events : List Event} (h : Paced first events)
    (same : alert.lasting = first.lasting) : Paced alert (events ++ []) where
  chain := by
    rw [List.append_nil, (Alert.of_lasting same).frequency]
    exact h.chain
  last := by
    rw [List.append_nil, Alert.lastTriggeredAt_of_lasting same]
    exact h.last

namespace Desk

/-- After a course of firings an alert remembers its last event. -/
theorem Course.lastTriggeredAt {start finish : Desk} {firings : List Firing}
    (course : Course start firings finish) {position : Nat} {alert : Alert}
    (found : finish.alerts[position]? = some alert) :
    ∃ first, start.alerts[position]? = some first ∧ alert.lastTriggeredAt =
      ((firedAt position firings).getLast?.map (·.triggeredAt)).or first.lastTriggeredAt := by
  induction course with
  | done desk => exact ⟨alert, found, rfl⟩
  | quiet change _ ih =>
    obtain ⟨next, there, last⟩ := ih found
    obtain ⟨first, here, lasting⟩ := change.exists_lasting there
    exact ⟨first, here, last.trans (by rw [Alert.lastTriggeredAt_of_lasting lasting])⟩
  | @fire start finish place firing event rest before _ ih =>
    obtain ⟨next, there, last⟩ := ih found
    by_cases here : place = position
    · subst here
      have bound := (List.getElem?_eq_some_iff.1 before).1
      rw [Desk.fire, List.getElem?_set_self bound] at there
      obtain rfl := Option.some.inj there
      refine ⟨firing, before, ?_⟩
      rw [firedAt_cons, List.getLast?_append, Option.map_or, Option.or_assoc, if_pos rfl]
      exact last
    · rw [Desk.fire, List.getElem?_set_ne here] at there
      refine ⟨next, there, ?_⟩
      rw [firedAt_cons, if_neg here, List.nil_append]
      exact last

/-- An alert that fires has let its cooldown pass since the last event that it remembers. -/
theorem apart_of_mem_fired {desk : Desk} {move : Move} {position : Nat} {alert : Alert}
    {earlier event : Event} (member : ⟨position, event⟩ ∈ desk.fired move)
    (found : desk.alerts[position]? = some alert)
    (last : alert.lastTriggeredAt = some earlier.triggeredAt) :
    Apart alert.frequency earlier event := by
  obtain ⟨same, woken, now, here, lasting, fires⟩ := fires_of_mem_fired member
  obtain rfl : same = alert := Option.some.inj (here.symm.trans found)
  have remembered : woken.lastTriggeredAt = some earlier.triggeredAt :=
    (Alert.lastTriggeredAt_of_lasting lasting).trans last
  obtain ⟨count, _, passed⟩ := fires.passed
  obtain ⟨pause, span, apart⟩ :=
    Gate.pause_of_cooldown (Gate.check_of_screen passed .cooldown) remembered
  rw [(Alert.of_lasting lasting).frequency] at span
  refine ⟨pause, span, ?_⟩
  rw [fires.triggeredAt]
  exact apart

/-- One move adds an event that is far enough from the last, or none. -/
theorem paced_move {desk : Desk} {position : Nat} {events : List Event} {move : Move}
    (once : move.ListsOnce) (h : ∀ alert, desk.alerts[position]? = some alert → Paced alert events)
    (alert : Alert) (found : (desk.move move).alerts[position]? = some alert) :
    Paced alert (events ++ firedAt position (desk.fired move)) := by
  obtain ⟨next, course, alerts⟩ := course_move desk move
  rw [alerts] at found
  obtain ⟨first, there, last⟩ := course.lastTriggeredAt found
  obtain ⟨same, here, alike⟩ := exists_written course.written found
  obtain rfl : same = first := Option.some.inj (here.symm.trans there)
  have paced := h same there
  have frequency : alert.frequency = same.frequency := (Alert.of_written alike).frequency
  -- A position fires once in a move at most, so the chain grows by one link or by none.
  rcases firedAt_of_nodup (nodup_positions_fired desk once) position with
    nothing | ⟨event, member, one⟩
  · rw [nothing] at last ⊢
    rw [List.append_nil]
    exact ⟨frequency ▸ paced.chain, fun event member => last.trans (paced.last event member)⟩
  · rw [one] at last ⊢
    refine ⟨?_, by simpa using last⟩
    rw [frequency]
    apply paced.chain.append (List.isChain_singleton event)
    intro earlier before later new
    obtain rfl : later = event := by simpa using new.symm
    exact apart_of_mem_fired member there (paced.last earlier before)

theorem paced_run {desk : Desk} {position : Nat} {events : List Event} {moves : List Move}
    (once : ∀ move ∈ moves, move.ListsOnce)
    (h : ∀ alert, desk.alerts[position]? = some alert → Paced alert events) (alert : Alert)
    (found : (desk.run moves).alerts[position]? = some alert) :
    Paced alert (events ++ firedAt position (desk.firings moves)) := by
  induction moves generalizing desk events with
  | nil => exact (h alert found).of_lasting rfl
  | cons move rest ih =>
    have first := paced_move (once move List.mem_cons_self) h
    have later := ih (fun other member => once other (List.mem_cons_of_mem _ member)) first found
    rw [firings, firedAt_append, ← List.append_assoc]
    exact later

/-- However a run goes, and in whatever order the times of its ticks come: two events of one alert
that follow each other are at least its cooldown apart, so its times never go back. -/
theorem isChain_cooldown (desk : Desk) {moves : List Move} (once : ∀ move ∈ moves, move.ListsOnce)
    {position : Nat} {alert : Alert} (found : desk.alerts[position]? = some alert) :
    (firedAt position (desk.firings moves)).IsChain (Apart alert.frequency) ∧
      (firedAt position (desk.firings moves)).Pairwise fun earlier later =>
        earlier.triggeredAt.instant ≤ later.triggeredAt.instant := by
  obtain ⟨last, there, alike⟩ := exists_of_map_eq (written_run desk moves).symm found
  have unpaced : ∀ alert, desk.alerts[position]? = some alert → Paced alert [] :=
    fun alert _ => ⟨List.isChain_nil, fun _ absent => nomatch absent⟩
  have paced := paced_run once unpaced last there
  have chain : (firedAt position (desk.firings moves)).IsChain (Apart alert.frequency) := by
    rw [(Alert.of_written alike).frequency]
    exact paced.chain
  have forward :
      ((firedAt position (desk.firings moves)).map (·.triggeredAt.instant)).IsChain (· ≤ ·) :=
    (List.isChain_map _).2 (chain.imp fun _ _ apart => apart.le)
  exact ⟨chain, List.pairwise_map.1 forward.pairwise⟩

end Desk

end

namespace Desk

/-- A snooze that is broken off, a tick within the cooldown and one after it. -/
def brokenSnooze : List Move :=
  [.tick [0, 1] .steady ⟨800 * day, none, by decide⟩,
    .command 0 (.snooze (.whole 8)) ⟨800 * day, none, by decide⟩,
    .command 0 .toggle ⟨800 * day + 20 * minute, none, by decide⟩,
    .tick [1, 0] .steady ⟨800 * day + 30 * minute, none, by decide⟩,
    .advance 3600,
    .tick [0] .steady ⟨800 * day + 90 * minute, none, by decide⟩]

theorem isChain_brokenSnooze :
    (firedAt 0 (pair.firings brokenSnooze)).map (·.id) = ["1-0", "3-0"] ∧
    (firedAt 0 (pair.firings brokenSnooze)).IsChain
      (Apart (Alert.eager "first" true).frequency) := by
  have once : ∀ move ∈ brokenSnooze, move.ListsOnce := by simp [brokenSnooze, Move.ListsOnce]
  exact ⟨by decide +kernel, (isChain_cooldown pair once rfl).1⟩

end Desk

end MarketAlerts
