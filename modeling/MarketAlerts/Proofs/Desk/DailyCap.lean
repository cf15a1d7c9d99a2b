import MarketAlerts.Calendar.ZoneRule
import MarketAlerts.Proofs.Desk.Reports
import MarketAlerts.Proofs.History

/-!
The daily cap over whole runs. The count of a day is taken before anything of a tick is recorded; it
covers every event of the run on that day for as long as the history has lost none of them, so the
gate keeps the run's own events of an alert below the cap. An alert that has reached its cap is then
held up for the rest of the day; but a history that is too small for all alerts may free it.
-/
namespace MarketAlerts

open Calendar

namespace Desk

/-- Where only one position has events of a kind, they are all at that position. -/
theorem countP_firedAt {firings : List Firing} {position : Nat} {p : Event → Bool}
    (only : ∀ firing ∈ firings, p firing.event = true → firing.position = position) :
    (firings.map (·.event)).countP p = (firedAt position firings).countP p := by
  induction firings with
  | nil => rfl
  | cons firing rest ih =>
    have later := ih fun other member => only other (List.mem_cons_of_mem firing member)
    rw [List.map_cons, List.countP_cons, later, firedAt_cons, List.countP_append]
    by_cases here : firing.position = position
    · rw [if_pos here, List.countP_singleton, Nat.add_comm]
    · have other : p firing.event = false := by
        cases holds : p firing.event with
        | false => rfl
        | true => exact absurd (only firing List.mem_cons_self holds) here
      rw [if_neg here, other]
      simp

section

variable [Installation]

/-- What the history loses in a move. -/
def lostIn (desk : Desk) : Move → List Event
  | .tick listed market now =>
    desk.engine.history.pushedOutAll ((desk.fired (.tick listed market now)).map (·.event))
  | .clearHistory => desk.engine.history.events
  | _ => []

/-- What the history loses in a run. -/
def lost (desk : Desk) : List Move → List Event
  | [] => []
  | move :: rest => desk.lostIn move ++ (desk.move move).lost rest

/-- A course of firings is recorded event by event. -/
theorem Course.history {start finish : Desk} {firings : List Firing}
    (course : Course start firings finish) :
    finish.engine.history = start.engine.history.recordAll (firings.map (·.event)) := by
  induction course with
  | done desk => rfl
  | quiet change _ ih => rw [ih, change.history]
  | fire found _ ih => exact ih

/-- A history that nobody clears records what fires. -/
theorem history_recordAll (desk : Desk) {moves : List Move}
    (kept : ∀ move ∈ moves, move ≠ .clearHistory) : (desk.run moves).engine.history =
      desk.engine.history.recordAll ((desk.firings moves).map (·.event)) := by
  induction moves generalizing desk with
  | nil => rfl
  | cons move rest ih =>
    have first : (desk.move move).engine.history =
        desk.engine.history.recordAll ((desk.fired move).map (·.event)) := by
      cases move with
      | tick listed market now => exact (course_tick desk listed market now).history
      | command position command now => exact (Quiet.obey desk position now command).history
      | clearHistory => exact absurd rfl (kept _ List.mem_cons_self)
      | _ => rfl
    have later := ih (desk.move move) fun other member =>
      kept other (List.mem_cons_of_mem move member)
    rw [first] at later
    rw [firings, List.map_append, History.recordAll, List.foldl_append]
    exact later

theorem zone_move (desk : Desk) (move : Move) :
    (desk.move move).engine.history.zone = desk.engine.history.zone := by
  cases move with
  | tick listed market now =>
    rw [Desk.move, (course_tick desk listed market now).history, History.zone_recordAll]
  | command position command now =>
    exact congrArg History.zone (Quiet.obey desk position now command).history
  | advance seconds => rfl
  | settle => rfl
  | shutdown => rfl
  | clearHistory => rfl

/-- Nothing recorded is gone unless the history lost it. -/
theorem history_move (desk : Desk) (move : Move) :
    desk.engine.history.events ++ (desk.fired move).map (·.event) =
      desk.lostIn move ++ (desk.move move).engine.history.events := by
  cases move with
  | tick listed market now =>
    rw [Desk.move, (course_tick desk listed market now).history]
    exact History.append_events _ _
  | command position command now =>
    have same := congrArg History.events (Quiet.obey desk position now command).history
    simp [fired, lostIn, Desk.move, same]
  | advance seconds => exact List.append_nil _
  | settle => exact List.append_nil _
  | shutdown => exact List.append_nil _
  | clearHistory => rfl

theorem history_run (desk : Desk) (moves : List Move) :
    desk.engine.history.events ++ (desk.firings moves).map (·.event) =
      desk.lost moves ++ (desk.run moves).engine.history.events := by
  induction moves generalizing desk with
  | nil => simp [firings, lost, run]
  | cons move rest ih =>
    rw [firings, lost, List.map_append, ← List.append_assoc, history_move, List.append_assoc, ih,
      List.append_assoc]
    rfl

/-- Events that fire bear the name of the alert at their position. -/
theorem alertId_of_mem_fired {desk : Desk} {move : Move} {firing : Firing}
    (member : firing ∈ desk.fired move) :
    (desk.alerts.map (·.id))[firing.position]? = some firing.event.alertId := by
  obtain ⟨alert, woken, now, here, lasting, fires⟩ := fires_of_mem_fired member
  rw [List.getElem?_map, here, Option.map_some, fires.alertId, (Alert.of_lasting lasting).id]

/-- An alert that fires has not reached its cap in what the history holds of the day. -/
theorem countP_lt_of_mem_fired {desk : Desk} {move : Move} {position : Nat} {event : Event}
    {alert : Alert} (member : ⟨position, event⟩ ∈ desk.fired move)
    (found : desk.alerts[position]? = some alert) {day : Nat}
    (dated : datedOn desk.engine.history.zone day event = true) :
    desk.engine.history.events.countP (isOf alert.id desk.engine.history.zone day) <
      alert.frequency.maxPerDay.val := by
  obtain ⟨same, woken, now, here, lasting, fires⟩ := fires_of_mem_fired member
  obtain rfl : same = alert := Option.some.inj (here.symm.trans found)
  have alike := Alert.of_lasting lasting
  obtain ⟨count, counted, passed⟩ := fires.passed
  have below := Gate.count_of_dailyCap (Gate.check_of_screen passed .dailyCap)
  obtain ⟨today, shown, counts⟩ := History.countToday_eq_ok counted
  have sameDay : today = day := by
    have own := History.datedOn_iff.1 dated
    rw [fires.triggeredAt, shown] at own
    exact Except.ok.inj own
  rw [counts, sameDay, alike.id, alike.frequency] at below
  exact below

/-- What an alert fires in one move on one day is one event at most, and none once the history holds
the day's full number. -/
theorem countP_fired {desk : Desk} {move : Move} (once : move.ListsOnce)
    (distinct : (desk.alerts.map (·.id)).Nodup) {position : Nat} {alert : Alert}
    (found : desk.alerts[position]? = some alert) (day : Nat) :
    ((desk.fired move).map (·.event)).countP (isOf alert.id desk.engine.history.zone day) = 0 ∨
      (((desk.fired move).map (·.event)).countP (isOf alert.id desk.engine.history.zone day) = 1 ∧
        desk.engine.history.events.countP (isOf alert.id desk.engine.history.zone day) <
          alert.frequency.maxPerDay.val) := by
  have bound := (List.getElem?_eq_some_iff.1 found).1
  -- No two alerts share a name, so all events with this name come from this position.
  have only : ∀ firing ∈ desk.fired move,
      isOf alert.id desk.engine.history.zone day firing.event = true →
        firing.position = position := by
    intro firing member own
    have named := alertId_of_mem_fired member
    rw [isOf, Bool.and_eq_true, decide_eq_true_eq] at own
    refine ((List.getElem?_inj (by simpa using bound) distinct).1 ?_).symm
    rw [named, own.1, List.getElem?_map, found, Option.map_some]
  rw [countP_firedAt only]
  rcases firedAt_of_nodup (nodup_positions_fired desk once) position with
    nothing | ⟨event, member, one⟩
  · rw [nothing]
    exact .inl rfl
  · rw [one, List.countP_singleton]
    cases own : isOf alert.id desk.engine.history.zone day event with
    | false => exact .inl rfl
    | true =>
      rw [isOf, Bool.and_eq_true] at own
      exact .inr ⟨rfl, countP_lt_of_mem_fired member found own.2⟩

theorem ids_move (desk : Desk) (move : Move) :
    (desk.move move).alerts.map (·.id) = desk.alerts.map (·.id) := by
  have same := congrArg (List.map fun alert : Alert => alert.id) (desk.written_move move)
  rwa [List.map_map, List.map_map] at same

/-- Events of an alert on a day that have been counted: no more than its cap, and all of them are
among those that the history holds. -/
structure Counted (desk : Desk) (alert : Alert) (day count : Nat) : Prop where
  capped : count ≤ alert.frequency.maxPerDay.val
  held : count ≤ desk.engine.history.events.countP (isOf alert.id desk.engine.history.zone day)

theorem Counted.of_alike {desk : Desk} {alert later : Alert} {day count : Nat}
    (h : Counted desk alert day count) (same : Alert.Alike alert later) :
    Counted desk later day count where
  capped := by
    rw [← same.frequency]
    exact h.capped
  held := by
    rw [← same.id]
    exact h.held

/-- What a move fires is counted too, unless the history loses an event of the day. -/
theorem Counted.move {desk : Desk} {move : Move} {alert : Alert} {day count : Nat}
    (h : Counted desk alert day count) (once : move.ListsOnce)
    (distinct : (desk.alerts.map (·.id)).Nodup) {position : Nat}
    (found : desk.alerts[position]? = some alert)
    (kept : ∀ event ∈ desk.lostIn move, datedOn desk.engine.history.zone day event = false) :
    Counted (desk.move move) alert day (count +
      ((desk.fired move).map (·.event)).countP (isOf alert.id desk.engine.history.zone day)) := by
  have gone : (desk.lostIn move).countP (isOf alert.id desk.engine.history.zone day) = 0 := by
    apply List.countP_eq_zero.2
    intro event member own
    rw [isOf, kept event member, Bool.and_false] at own
    contradiction
  have balance := congrArg (List.countP (isOf alert.id desk.engine.history.zone day))
    (history_move desk move)
  rw [List.countP_append, List.countP_append, gone, Nat.zero_add] at balance
  have one := countP_fired once distinct found day
  have capped := h.capped
  have held := h.held
  constructor
  · omega
  · rw [zone_move]
    omega

/-- The induction over a run. -/
theorem Counted.run {desk : Desk} {moves : List Move} {alert : Alert} {day count : Nat}
    (h : Counted desk alert day count) (once : ∀ move ∈ moves, move.ListsOnce)
    (distinct : (desk.alerts.map (·.id)).Nodup) {position : Nat}
    (found : desk.alerts[position]? = some alert)
    (kept : ∀ event ∈ desk.lost moves, datedOn desk.engine.history.zone day event = false) :
    Counted (desk.run moves) alert day (count +
      ((desk.firings moves).map (·.event)).countP
        (isOf alert.id desk.engine.history.zone day)) := by
  induction moves generalizing desk alert count with
  | nil => exact h
  | cons move rest ih =>
    obtain ⟨later, there, alike⟩ := exists_of_map_eq (desk.written_move move).symm found
    have same := Alert.of_written alike
    have first := h.move (once move List.mem_cons_self) distinct found
      fun event member => kept event (List.mem_append_left _ member)
    have distinctLater : ((desk.move move).alerts.map (·.id)).Nodup := by
      rw [ids_move]
      exact distinct
    have keptLater : ∀ event ∈ (desk.move move).lost rest,
        datedOn (desk.move move).engine.history.zone day event = false := by
      intro event member
      rw [zone_move]
      exact kept event (List.mem_append_right _ member)
    have onceLater : ∀ other ∈ rest, other.ListsOnce :=
      fun other member => once other (List.mem_cons_of_mem move member)
    have second := ih (first.of_alike same) onceLater distinctLater there keptLater
    rw [zone_move, ← same.id, Nat.add_assoc, ← List.countP_append, ← List.map_append] at second
    exact second.of_alike same.symm

/-- Whatever was in the history before, and in whatever order the times of the ticks come: an alert
fires no more often on a day than its cap allows, unless the history has lost an event of that
day. -/
theorem countP_le_maxPerDay (desk : Desk) {moves : List Move}
    (once : ∀ move ∈ moves, move.ListsOnce) (distinct : (desk.alerts.map (·.id)).Nodup)
    {position : Nat} {alert : Alert} (found : desk.alerts[position]? = some alert) (day : Nat)
    (kept : ∀ event ∈ desk.lost moves, datedOn desk.engine.history.zone day event = false) :
    ((desk.firings moves).map (·.event)).countP (isOf alert.id desk.engine.history.zone day) ≤
      alert.frequency.maxPerDay.val := by
  have uncounted : Counted desk alert day 0 := ⟨Nat.zero_le _, Nat.zero_le _⟩
  have capped := (uncounted.run once distinct found kept).capped
  rwa [Nat.zero_add] at capped

end

/-- Five ticks of one day, the third of them the earliest, and one of the day after. -/
def busyDay : List Move :=
  [.tick [0, 1] .steady ⟨800 * day + 8 * hour, none, by decide⟩,
    .tick [0] .steady ⟨800 * day + 10 * hour, none, by decide⟩,
    .tick [1, 0] .steady ⟨800 * day + 6 * hour, none, by decide⟩,
    .tick [0] .steady ⟨800 * day + 12 * hour, none, by decide⟩,
    .tick [0] .steady ⟨800 * day + 14 * hour, none, by decide⟩,
    .tick [0] .steady ⟨801 * day, none, by decide⟩]

theorem countP_busyDay :
    (firedAt 0 (pair.firings busyDay)).map (·.id) = ["1-0", "2-0", "4-0", "6-0"] ∧
    ((pair.firings busyDay).map (·.event)).countP (isOf "first" "UTC" 800) ≤ 3 := by
  have once : ∀ move ∈ busyDay, move.ListsOnce := by simp [busyDay, Move.ListsOnce]
  have lost : pair.lost busyDay = [] := List.eq_nil_of_length_eq_zero (by decide +kernel)
  have kept : ∀ event ∈ pair.lost busyDay, datedOn "UTC" 800 event = false := by simp [lost]
  have found : pair.alerts[0]? = some (Alert.eager "first" true) := rfl
  exact ⟨by decide +kernel, countP_le_maxPerDay pair once (by decide) found 800 kept⟩

section

variable [Installation]

theorem zone_run (desk : Desk) (moves : List Move) :
    (desk.run moves).engine.history.zone = desk.engine.history.zone := by
  induction moves generalizing desk with
  | nil => rfl
  | cons move rest ih => exact (ih (desk.move move)).trans (zone_move desk move)

/-- A history that has lost no event of an alert on a day holds as many of them as before, or
more. -/
theorem countP_le_countP_run (desk : Desk) {moves : List Move} {p : Event → Bool}
    (kept : ∀ event ∈ desk.lost moves, p event = false) :
    desk.engine.history.events.countP p ≤ (desk.run moves).engine.history.events.countP p := by
  have gone : (desk.lost moves).countP p = 0 :=
    List.countP_eq_zero.2 fun event member => by simp [kept event member]
  have balance := congrArg (List.countP p) (history_run desk moves)
  rw [List.countP_append, List.countP_append, gone] at balance
  omega

/-- Where an alert is held up by its cap, the history has the full number of its events of the
day. -/
theorem maxPerDay_le_countP {desk : Desk} {listed : List Nat} {market : Market} {now : Timestamp}
    {position : Nat} {alert : Alert} {evaluation : Evaluation}
    (found : desk.alerts[position]? = some alert)
    (reported : evaluation ∈ desk.reports listed market now position)
    (capped : evaluation.record.blockedBy = some Gate.dailyCap.name) {day : Nat}
    (today : desk.engine.history.dayOf now.aware = .ok day) :
    alert.frequency.maxPerDay.val ≤
      desk.engine.history.events.countP (isOf alert.id desk.engine.history.zone day) := by
  obtain ⟨woken, awake, lasting⟩ :=
    exists_of_map_eq (desk.quiet_awake listed now.aware).alerts.symm found
  obtain ⟨id, rfl⟩ := eq_of_mem_reports reported awake
  obtain ⟨reason, blocked⟩ := Evaluation.blockedBy_eq_some_iff.1 capped
  obtain ⟨count, counted, held⟩ := Engine.screened_of_evaluateListed blocked
  obtain ⟨_, _, _, _, full⟩ := Gate.isFirstUnmet_of_screen held
  obtain ⟨same, shown, counts⟩ := History.countToday_eq_ok counted
  obtain rfl : day = same := Except.ok.inj (today.symm.trans shown)
  have alike := Alert.of_lasting lasting
  rw [alike.id, alike.frequency, ← counts]
  exact Nat.le_of_not_lt full

/-- What a tick fires is dated by its time. -/
theorem triggeredAt_of_mem_fired {desk : Desk} {listed : List Nat} {market : Market}
    {now : Timestamp} {firing : Firing} (member : firing ∈ desk.fired (.tick listed market now)) :
    firing.event.triggeredAt = now.aware := by
  obtain ⟨⟨position, evaluation⟩, judged, made⟩ := List.mem_filterMap.1 member
  obtain ⟨event, fired, rfl⟩ := Option.map_eq_some_iff.1 made
  obtain ⟨woken, id, _, evaluated⟩ := of_mem_judged judged
  dsimp only at evaluated
  rw [evaluated] at fired
  exact (Engine.fires_of_evaluateListed fired).triggeredAt

/-- Once a tick has reported that an alert is held up by its cap, no later tick of that day fires
it, whatever else fires in between, unless the history has lost an event of the alert on that
day. -/
theorem stays_capped {desk : Desk} {listed : List Nat} {market : Market} {now : Timestamp}
    {position : Nat} {alert : Alert} {evaluation : Evaluation}
    (found : desk.alerts[position]? = some alert)
    (reported : evaluation ∈ desk.reports listed market now position)
    (capped : evaluation.record.blockedBy = some Gate.dailyCap.name) {day : Nat}
    (today : desk.engine.history.dayOf now.aware = .ok day) {moves : List Move}
    (kept : ∀ event ∈ desk.lost (.tick listed market now :: moves),
      isOf alert.id desk.engine.history.zone day event = false)
    (laterListed : List Nat) (laterMarket : Market) {later : Timestamp}
    (sameDay : desk.engine.history.dayOf later.aware = .ok day) :
    firedAt position ((desk.run (.tick listed market now :: moves)).fired
      (.tick laterListed laterMarket later)) = [] := by
  let reached := desk.run (.tick listed market now :: moves)
  have zone : reached.engine.history.zone = desk.engine.history.zone := zone_run desk _
  obtain ⟨still, there, written⟩ := exists_of_map_eq
    (written_run desk (.tick listed market now :: moves)).symm found
  have alike := Alert.of_written written
  have full := maxPerDay_le_countP found reported capped today
  have fuller := countP_le_countP_run desk kept
  rw [firedAt, List.map_eq_nil_iff, List.filter_eq_nil_iff]
  intro firing member here
  obtain rfl : firing.position = position := of_decide_eq_true here
  have dated : datedOn reached.engine.history.zone day firing.event = true := by
    rw [History.datedOn_iff, triggeredAt_of_mem_fired member, History.dayOf, zone]
    exact sameDay
  have below := countP_lt_of_mem_fired member there dated
  rw [zone, ← alike.id, ← alike.frequency] at below
  omega

end

/-- The first of two alerts fires once a day; the history has room for so many events. -/
def onceDaily (capacity : Nat) : Desk :=
  { engine := { pair.engine with history := ⟨"UTC", capacity, []⟩ }
    alerts :=
      [{ Alert.eager "first" true with frequency :=
        { Frequency.default with maxPerDay := ⟨1, by decide⟩ } }, .eager "second" false] }

/-- In a tick at nine both alerts are listed, in those at eight and at ten the first alone. -/
theorem stays_capped_onceDaily :
    let desk := (onceDaily 1000).move (.tick [0] .steady (oClock 8))
    let later := desk.run [.tick [0, 1] .steady (oClock 9)]
    (desk.reports [0, 1] .steady (oClock 9) 0).map (·.record.blockedBy) = [some "daily_cap"] ∧
      firedAt 0 (later.fired (.tick [0] .steady (oClock 10))) = [] := by
  intro desk later
  have blocked : (desk.reports [0, 1] .steady (oClock 9) 0).map (·.record.blockedBy) =
      [some "daily_cap"] := by
    decide +kernel
  obtain ⟨evaluation, one, capped⟩ := List.map_eq_singleton_iff.1 blocked
  have reported : evaluation ∈ desk.reports [0, 1] .steady (oClock 9) 0 := by simp [one]
  obtain ⟨alert, found⟩ : ∃ alert, desk.alerts[0]? = some alert :=
    Option.isSome_iff_exists.1 (by decide +kernel)
  have today : desk.engine.history.dayOf (oClock 9).aware = .ok 800 :=
    ok_of_toOption (by decide +kernel)
  have sameDay : desk.engine.history.dayOf (oClock 10).aware = .ok 800 :=
    ok_of_toOption (by decide +kernel)
  have lost : desk.lost [.tick [0, 1] .steady (oClock 9)] = [] :=
    List.eq_nil_of_length_eq_zero (by decide +kernel)
  exact ⟨blocked, stays_capped found reported capped today (by simp [lost]) [0] .steady sameDay⟩

/-- With room for one event, what the second alert fires drives out the event of the first. -/
theorem fires_capped :
    let desk := (onceDaily 1).move (.tick [0] .steady (oClock 8))
    let later := desk.run [.tick [0, 1] .steady (oClock 9)]
    (desk.alerts.map (·.id)).Nodup ∧
      (desk.reports [0, 1] .steady (oClock 9) 0).map (·.record.blockedBy) = [some "daily_cap"] ∧
      (desk.engine.history.dayOf (oClock 9).aware).toOption = some 800 ∧
      (desk.engine.history.dayOf (oClock 10).aware).toOption = some 800 ∧
      (firedAt 0 (later.fired (.tick [0] .steady (oClock 10)))).map (·.id) = ["3-0"] := by
  decide +kernel

end Desk

end MarketAlerts
