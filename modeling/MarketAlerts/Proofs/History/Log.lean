import Mathlib.Algebra.BigOperators.Group.List.Basic
import Mathlib.Algebra.Order.Ring.Nat
import Mathlib.Data.List.DropRight
import Mathlib.Data.List.Nodup
import MarketAlerts.Calendar.ZoneRule
import MarketAlerts.Proofs.Calendar.Zones
import MarketAlerts.Proofs.History

/-!
A bounded history as a window on a log without bound. The log holds what was recorded since it was
last cleared; the history shows the end of it, as much as the bound allows that it was made with,
and counts by the dates of one zone what is still there.
-/
namespace MarketAlerts

open Calendar Document

namespace HistorySettings

/-- Whether a history can be made at all. -/
def IsPossible (s : HistorySettings) : Prop := 0 ≤ s.maxEvents ∧ s.maxEvents < machineEnd

/-- How many events a history made from settings retains. -/
def retained (s : HistorySettings) : Nat :=
  if s.maxEvents = 0 then default.maxEvents.toNat else s.maxEvents.toNat

/-- What is wrong with a bound for which no history can be made. -/
def fault (s : HistorySettings) : Fault :=
  if -machineEnd ≤ s.maxEvents ∧ s.maxEvents < 0 then .negativeCapacity else .capacityTooLarge

theorem retained_of_ne_zero {s : HistorySettings} (possible : s.IsPossible)
    (nonzero : s.maxEvents ≠ 0) : (s.retained : Int) = s.maxEvents := by
  rw [retained, if_neg nonzero]
  exact Int.toNat_of_nonneg possible.1

theorem capacityOf_of_possible {s : HistorySettings} (possible : s.IsPossible) :
    History.capacityOf s.maxEvents = .ok s.retained := by
  obtain ⟨nonneg, fits⟩ := possible
  have usual : ¬ (machineEnd ≤ default.maxEvents ∨ default.maxEvents < -machineEnd) ∧
      ¬ default.maxEvents < 0 := by decide
  unfold History.capacityOf retained
  by_cases zero : s.maxEvents = 0
  · simp only [if_pos zero, if_neg usual.1, if_neg usual.2]
  · have countable : ¬ (machineEnd ≤ s.maxEvents ∨ s.maxEvents < -machineEnd) := by
      have : (0 : Int) ≤ machineEnd := by decide
      omega
    simp only [if_neg zero, if_neg countable, if_neg (Int.not_lt.2 nonneg)]

theorem capacityOf_of_not_possible {s : HistorySettings} (impossible : ¬ s.IsPossible) :
    History.capacityOf s.maxEvents = .error s.fault := by
  have positive : (0 : Int) < machineEnd := by decide
  have nonzero : s.maxEvents ≠ 0 := fun zero => impossible ⟨zero ▸ le_refl _, zero ▸ positive⟩
  unfold IsPossible at impossible
  unfold History.capacityOf fault
  simp only [if_neg nonzero]
  by_cases countable : machineEnd ≤ s.maxEvents ∨ s.maxEvents < -machineEnd
  · rw [if_pos countable, if_neg (by omega)]
  · rw [if_neg countable, if_pos (by omega), if_pos (by omega)]

end HistorySettings

namespace History

inductive Operation
  | record (event : Event)
  | clear

def Operation.event? : Operation → Option Event
  | record event => some event
  | clear => none

def operate (history : History) : Operation → History
  | .record event => history.record event
  | .clear => history.clear

def operateAll (history : History) (operations : List Operation) : History :=
  operations.foldl operate history

/-- The events recorded since the last time that all was cleared. -/
def sinceClear (operations : List Operation) : List Event :=
  (operations.rtakeWhile (·.event?.isSome)).filterMap (·.event?)

theorem sinceClear_concat (operations : List Operation) (operation : Operation) :
    sinceClear (operations ++ [operation]) = match operation with
      | .record event => sinceClear operations ++ [event]
      | .clear => [] := by
  cases operation with
  | record event =>
    rw [sinceClear, List.rtakeWhile_concat_pos _ _ _ rfl, List.filterMap_append]
    rfl
  | clear =>
    rw [sinceClear, List.rtakeWhile_concat_neg _ _ _ Bool.false_ne_true]
    rfl

@[simp] theorem capacity_operateAll (history : History) (operations : List Operation) :
    (history.operateAll operations).capacity = history.capacity := by
  induction operations generalizing history with
  | nil => rfl
  | cons operation rest ih =>
    refine (ih (history.operate operation)).trans ?_
    cases operation <;> rfl

@[simp] theorem zone_operateAll (history : History) (operations : List Operation) :
    (history.operateAll operations).zone = history.zone := by
  induction operations generalizing history with
  | nil => rfl
  | cons operation rest ih =>
    refine (ih (history.operate operation)).trans ?_
    cases operation <;> rfl

/-- What a history holds that was empty at first is the end of the log. -/
theorem events_operateAll {history : History} (empty : history.events = [])
    (operations : List Operation) :
    (history.operateAll operations).events = latest history.capacity (sinceClear operations) := by
  induction operations using List.reverseRecOn with
  | nil => simpa [operateAll, sinceClear, latest] using empty
  | append_singleton operations operation ih =>
    rw [operateAll, List.foldl_append, List.foldl_cons, List.foldl_nil, sinceClear_concat,
      ← operateAll]
    cases operation with
    | record event => rw [operate, record, capacity_operateAll, ih, latest_latest_append]
    | clear => simp [operate, clear, latest]

theorem latest_suffix (count : Nat) (events : List Event) : latest count events <:+ events :=
  List.drop_suffix _ _

theorem reverse_latest (count : Nat) (events : List Event) :
    (latest count events).reverse = events.reverse.take (min count events.length) := by
  rw [latest, List.reverse_drop]
  congr 1
  omega

theorem sum_indicator {α : Type} [DecidableEq α] (a : α) (values : List α) :
    (values.map fun value => if a = value then 1 else 0).sum = values.count a := by
  induction values with
  | nil => rfl
  | cons value rest ih =>
    rw [List.map_cons, List.sum_cons, ih, List.count_cons]
    by_cases same : a = value
    · subst same
      simp [Nat.add_comm]
    · have apart : (value == a) = false := by simpa using Ne.symm same
      simp [same, apart]

/-- Among distinct dates each event is counted on its own, so that all counts add up to all
events. -/
theorem sum_countP_dates {α : Type} [DecidableEq α] (dateOf : Event → α) (own : Event → Bool)
    {dates : List α} (distinct : dates.Nodup) {events : List Event}
    (dated : ∀ event ∈ events, own event = true → dateOf event ∈ dates) :
    (dates.map fun date => events.countP fun event => own event ∧ dateOf event = date).sum =
      events.countP own := by
  induction events with
  | nil => simp
  | cons event rest ih =>
    obtain ⟨here, others⟩ := List.forall_mem_cons.1 dated
    simp only [List.countP_cons, List.sum_map_add, ih others]
    congr 1
    by_cases counted : own event = true
    · simp only [counted, true_and, decide_eq_true_eq, sum_indicator, if_true]
      exact List.count_eq_one_of_mem distinct (here counted)
    · simp [counted]

section

variable [Installation] {name : String} {zone : Zone}

/-- A bound from one up is taken as it is, if a machine can count so far. -/
theorem build_of_pos {bound : Int} (positive : 1 ≤ bound) (known : Zone.find? name = some zone) :
    build (some bound) (some name) =
      if bound < machineEnd then .ok ⟨name, bound.toNat, []⟩ else .error .capacityTooLarge := by
  let settings : HistorySettings := ⟨bound⟩
  rw [build, Zone.nameOr_of_find? known]
  by_cases fits : bound < machineEnd
  · have possible : settings.IsPossible := ⟨(Int.le_of_lt Int.zero_lt_one).trans positive, fits⟩
    have taken : settings.retained = bound.toNat := if_neg (Int.ne_of_gt positive)
    rw [if_pos fits, HistorySettings.capacityOf_of_possible possible, taken]
    rfl
  · have impossible : ¬ settings.IsPossible := fun possible => fits possible.2
    have large : settings.fault = .capacityTooLarge :=
      if_neg fun small => absurd positive (Int.not_le.2 (small.2.trans Int.zero_lt_one))
    rw [if_neg fits, HistorySettings.capacityOf_of_not_possible impossible, large]
    rfl

section Count

variable {history : History} {alertId : String}

theorem dayOf_of_reaches (known : Zone.find? history.zone = some zone) {t : Timestamp}
    (h : zone.Reaches t) : history.dayOf t = .ok (zone.clock t / day).toNat := by
  obtain ⟨there, shown, clock, -⟩ := Timestamp.inZone_of_reaches h
  rw [dayOf, Timestamp.inNamed_eq_inZone known, shown, Except.map, Timestamp.days_of_clock clock]

/-- Counting fails nowhere if the zone shows every event that is counted. -/
theorem countOn_of_reaches (known : Zone.find? history.zone = some zone) (today : Nat)
    {events : List Event}
    (shown : ∀ event ∈ events, event.alertId = alertId → zone.Reaches event.triggeredAt) :
    history.countOn alertId today events = .ok (events.countP fun event =>
      event.alertId = alertId ∧ (zone.clock event.triggeredAt / day).toNat = today) := by
  induction events with
  | nil => rfl
  | cons event rest ih =>
    obtain ⟨own, others⟩ := List.forall_mem_cons.1 shown
    rw [countOn, ih others, List.countP_cons]
    by_cases same : event.alertId = alertId
    · rw [if_pos same, dayOf_of_reaches known (own same)]
      simp [same, bind, Except.bind, Except.map, pure, Except.pure]
    · rw [if_neg same]
      simp [same, bind, Except.bind, pure, Except.pure]

/-- The count of the day is the number of the alert's events on the date of the present. -/
theorem countToday_of_reaches (known : Zone.find? history.zone = some zone) {now : Timestamp}
    (present : zone.Reaches now)
    (shown : ∀ event ∈ history.events, event.alertId = alertId → zone.Reaches event.triggeredAt) :
    history.countToday alertId now = .ok (history.events.countP fun event =>
      event.alertId = alertId ∧ zone.dateOf event.triggeredAt = zone.dateOf now) := by
  rw [countToday, dayOf_of_reaches known present]
  simp only [bind, Except.bind, countOn_of_reaches known _ shown, Zone.dateOf, ofDays_inj]

end Count

/-- A bounded history is a window on the log: whatever is recorded and cleared, it holds the end of
what was recorded since, up to its bound, shows it from the newest on, and counts for a time the
alert's events that fall on the same date in its zone. Asked for each date once, it counts each
event of the alert once. -/
theorem refines_log {bound : Int} (positive : 1 ≤ bound) (known : Zone.find? name = some zone) :
    ((∃ history, build (some bound) (some name) = .ok history) ↔ bound < machineEnd) ∧
    ∀ history, build (some bound) (some name) = .ok history → ∀ operations,
      let log := sinceClear operations
      let held := history.operateAll operations
      (held.events <:+ log ∧ held.events.length = min bound.toNat log.length) ∧
      (∀ limit : Int, 0 ≤ limit →
        held.recent limit = log.reverse.take (min limit.toNat (min bound.toNat log.length))) ∧
      ∀ alertId, (∀ event ∈ held.events, event.alertId = alertId → zone.Reaches event.triggeredAt) →
        (∀ now, zone.Reaches now →
          held.countToday alertId now = .ok (held.events.countP fun event =>
          event.alertId = alertId ∧ zone.dateOf event.triggeredAt = zone.dateOf now)) ∧
        ∀ times : List Timestamp, (∀ now ∈ times, zone.Reaches now) →
          (times.map zone.dateOf).Nodup →
          (∀ event ∈ held.events, event.alertId = alertId →
            zone.dateOf event.triggeredAt ∈ times.map zone.dateOf) →
          ∃ counts, times.mapM (held.countToday alertId) = .ok counts ∧
            counts.sum = held.events.countP (·.alertId = alertId) := by
  rw [build_of_pos positive known]
  refine ⟨⟨fun ⟨history, built⟩ => ?_, fun fits => ⟨_, if_pos fits⟩⟩,
    fun history built operations => ?_⟩
  · by_contra large
    rw [if_neg large] at built
    contradiction
  split at built
  case isFalse => contradiction
  obtain rfl := Except.ok.inj built
  intro log held
  have events : held.events = latest bound.toNat log := events_operateAll rfl operations
  have zoned : Zone.find? held.zone = some zone := by
    rw [zone_operateAll]
    exact known
  refine ⟨⟨events ▸ latest_suffix _ _, events ▸ length_latest _ _⟩, fun limit nonneg => ?_,
    fun alertId shown => ?_⟩
  · rw [recent, if_pos nonneg, events, reverse_latest, List.take_take]
  · have counted (now : Timestamp) (present : zone.Reaches now) :=
      countToday_of_reaches zoned present shown
    refine ⟨counted, fun times present distinct dated => ?_⟩
    refine ⟨_, mapM_ok fun now member => counted now (present now member), ?_⟩
    have sum := sum_countP_dates (fun event => zone.dateOf event.triggeredAt)
      (fun event => decide (event.alertId = alertId)) distinct
      fun event (member : event ∈ held.events) own => dated event member (of_decide_eq_true own)
    rw [List.map_map] at sum
    simpa [Function.comp_def] using sum

end

/-- Minutes of the last day of June 2024 and the day after, on a clock that may be said to be
east. -/
def endOfJune (minutes : Nat) (east : Option Offset) : Timestamp :=
  { wall := (Date.mk 2024 6 30).toDays * day + minutes % 2880 * minute
    offset := east
    wall_lt := by
      have begun : (Date.mk 2024 6 30).toDays = 739066 := by decide
      have last : horizon = 3652059 * day := by decide
      rw [begun, last]
      unfold day hour minute second
      omega }

def firedAt (alertId : String) (time : Timestamp) : Event :=
  { id := "event"
    alertId
    ticker := "ACME"
    triggeredAt := time
    reason := "Any price"
    conditionsMet := ["Any price"]
    price := 2
    volume := none
    newsCount := none
    sentiment := none
    action := .pending
    actionAt := none
    snoozedUntil := none }

/-- Four events after the history was cleared. On London clocks, an hour ahead in summer, the second
is past midnight already, and so is the third, which was noted in Tokyo. -/
def acrossMidnight : List Operation :=
  [.record (firedAt "a" (endOfJune 0 none)), .clear, .record (firedAt "b" (endOfJune 0 none)),
    .record (firedAt "a" (endOfJune 1410 none)),
    .record (firedAt "a" (endOfJune 2040 (some ZoneRule.tokyo.standard))),
    .record (firedAt "a" (endOfJune 600 none))]

theorem refines_log_acrossMidnight :
    ∃ history, build (some 3) (some "Europe/London") = .ok history ∧
      (history.operateAll acrossMidnight).events.length = 3 ∧
      (history.operateAll acrossMidnight).recent 1 = [firedAt "a" (endOfJune 600 none)] ∧
      (history.operateAll acrossMidnight).countToday "a" (endOfJune 1400 none) = .ok 2 ∧
      ∃ counts, [endOfJune 1400 none, endOfJune 0 none].mapM
        ((history.operateAll acrossMidnight).countToday "a") = .ok counts ∧ counts.sum = 3 := by
  have known : Zone.find? "Europe/London" = some ZoneRule.london.zone :=
    Zone.find?_of_lookup (by decide +kernel) rfl
  obtain ⟨built, window⟩ := refines_log (show (1 : Int) ≤ 3 by decide) known
  obtain ⟨history, built⟩ := built.2 (by decide)
  obtain rfl : (⟨"Europe/London", 3, []⟩ : History) = history := Except.ok.inj built
  obtain ⟨⟨-, length⟩, recent, counts⟩ := window _ built acrossMidnight
  obtain ⟨today, each⟩ := counts "a" (by decide +kernel)
  refine ⟨_, built, length, recent 1 (by decide), ?_, ?_⟩
  · rw [today (endOfJune 1400 none) (by decide +kernel)]
    exact congrArg Except.ok (by decide +kernel)
  · obtain ⟨counts, asked, sum⟩ := each [endOfJune 1400 none, endOfJune 0 none] (by decide +kernel)
      (by decide +kernel) (by decide +kernel)
    exact ⟨counts, asked, sum.trans (by decide +kernel)⟩

end History

end MarketAlerts
