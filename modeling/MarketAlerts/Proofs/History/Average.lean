import MarketAlerts.Calendar.ZoneRule
import MarketAlerts.Proofs.History.Statistics
import MarketAlerts.Proofs.Number.Sign

/-!
The average of a history counts days from the first one with an event through today. An event that
is still to come may make this no day at all, or fewer than none.
-/
namespace MarketAlerts

open Calendar

namespace AlertStatistics

theorem perDay_of_pos (events : Nat) {days : Int} (pos : 0 < days) (few : days < 2 ^ 53) :
    ∃ average, perDay events days = .ok average ∧ 0 ≤ average := by
  have sign := Number.hasSign_div (Number.hasSign_written events false 0)
    (Number.isFinite_ofInt_of_pos pos few)
  exact ⟨_, if_neg (Int.ne_of_gt pos), Number.nonneg_of_hasSign (Number.hasSign_roundPlaces sign 2)⟩

theorem perDay_of_neg (events : Nat) {days : Int} (neg : days < 0) (few : -2 ^ 53 < days) :
    ∃ average, perDay events days = .ok average ∧ average ≤ 0 := by
  have sign := Number.hasSign_div (Number.hasSign_written events false 0)
    (Number.isFinite_ofInt_of_neg neg few)
  exact ⟨_, if_neg (Int.ne_of_lt neg), Number.nonpos_of_hasSign (Number.hasSign_roundPlaces sign 2)⟩

end AlertStatistics

namespace History

open AlertStatistics

section

variable {history : History} {zone : Zone} {now : Timestamp} {first : Nat}

/-- The first day with an event that is still there. -/
structure IsFirstDay (history : History) (zone : Zone) (first : Nat) : Prop where
  dated : ∃ event ∈ history.events, zone.dayAt event.triggeredAt = first
  le : ∀ event ∈ history.events, first ≤ zone.dayAt event.triggeredAt

theorem min?_eq_some_iff_isFirstDay :
    (history.events.map fun event => zone.dayAt event.triggeredAt).min? = some first ↔
      history.IsFirstDay zone first := by
  rw [List.min?_eq_some_iff]
  constructor
  · rintro ⟨member, least⟩
    exact ⟨List.mem_map.1 member, fun event inside => least _ (List.mem_map_of_mem inside)⟩
  · rintro ⟨dated, least⟩
    exact ⟨List.mem_map.2 dated, List.forall_mem_map.2 least⟩

theorem averageUntil_of_isFirstDay (h : history.IsFirstDay zone first) (today : Nat) :
    history.averageUntil zone today = perDay history.events.length (today - first + 1) := by
  rw [averageUntil, min?_eq_some_iff_isFirstDay.2 h]

theorem exists_isFirstDay (nonempty : history.events ≠ []) (zone : Zone) : ∃ first,
    history.IsFirstDay zone first := by
  cases least : (history.events.map fun event => zone.dayAt event.triggeredAt).min? with
  | none =>
    rw [List.min?_eq_none_iff, List.map_eq_nil_iff] at least
    contradiction
  | some first => exact ⟨first, min?_eq_some_iff_isFirstDay.1 least⟩

variable [Installation] {alerts : List Alert}

theorem exists_statistics (shows : history.Shows zone now) {average : Float}
    (averaged : history.averageUntil zone (zone.dayAt now) = .ok average) :
    ∃ s, history.statistics alerts now = .ok s ∧ s.averagePerDay = average := by
  rw [statistics_eq shows, averaged]
  exact ⟨_, rfl, rfl⟩

/-- Where the present and all events can be shown, the statistics have a week and a month to count.
They fail if and only if the first day with an event is tomorrow. With no event the average is zero,
from a first day up to today it is not negative, and from a later one it is not positive. -/
theorem average_from_first_day (present : ∃ there, now.inNamed history.zone = .ok there)
    (past : ∀ event ∈ history.events, ∃ there, event.triggeredAt.inNamed history.zone = .ok there)
    (alerts : List Alert) :
    ∃ zone, history.Shows zone now ∧
      let today := zone.dayAt now
      mondayWeekday today ≤ today ∧
      ((history.events = [] ∧ ∃ s, history.statistics alerts now = .ok s ∧ s.averagePerDay = 0) ∨
      ∃ first, history.IsFirstDay zone first ∧
        (first ≤ today → ∃ s, history.statistics alerts now = .ok s ∧ 0 ≤ s.averagePerDay) ∧
        (first = today + 1 → history.statistics alerts now = .error .divisionByZero) ∧
        (today + 1 < first → ∃ s, history.statistics alerts now = .ok s ∧
          s.averagePerDay ≤ 0)) := by
  obtain ⟨zone, shows⟩ := exists_shows present past
  refine ⟨zone, shows, Nat.mod_le _ _, ?_⟩
  by_cases empty : history.events = []
  · refine .inl ⟨empty, exists_statistics shows ?_⟩
    rw [averageUntil, empty]
    rfl
  obtain ⟨first, starts⟩ := exists_isFirstDay empty zone
  obtain ⟨event, member, dated⟩ := starts.dated
  -- Both days are days of the calendar, so that doubles can tell how many lie between them.
  have last : lastDay = 3652059 := by decide
  have early := (shows.past event member).dayAt_lt
  have late := shows.present.dayAt_lt
  rw [dated, last] at early
  rw [last] at late
  refine .inr ⟨first, starts, fun upToToday => ?_, fun tomorrow => ?_, fun later => ?_⟩
  · obtain ⟨average, made, sign⟩ := perDay_of_pos history.events.length
      (show 0 < (zone.dayAt now : Int) - first + 1 by omega) (by omega)
    obtain ⟨s, told, rate⟩ :=
      exists_statistics shows ((averageUntil_of_isFirstDay starts _).trans made)
    exact ⟨s, told, rate ▸ sign⟩
  · have noDay : (zone.dayAt now : Int) - first + 1 = 0 := by omega
    rw [statistics_eq shows, averageUntil_of_isFirstDay starts, noDay]
    rfl
  · obtain ⟨average, made, sign⟩ := perDay_of_neg history.events.length
      (show (zone.dayAt now : Int) - first + 1 < 0 by omega) (by omega)
    obtain ⟨s, told, rate⟩ :=
      exists_statistics shows ((averageUntil_of_isFirstDay starts _).trans made)
    exact ⟨s, told, rate ▸ sign⟩

end

/-- Noon of a day of the calendar. -/
def noonOf (date : Nat) : Timestamp where
  wall := date % lastDay * day + 12 * hour
  offset := none
  wall_lt := by
    have units : day = 24 * hour ∧ 0 < hour ∧ 0 < lastDay := by decide
    have within := Nat.mod_lt date units.2.2
    calc date % lastDay * day + 12 * hour
        < (date % lastDay + 1) * day := by
          rw [Nat.add_mul, Nat.one_mul, units.1]
          omega
      _ ≤ horizon := Nat.mul_le_mul_right day within

def recordedOn (dates : List Nat) : History :=
  ⟨"UTC", 10, dates.map fun date => firedAt "a" (noonOf date)⟩

theorem clock_noonOf (date : Nat) : Zone.utc.clock (noonOf date) = (noonOf date).wall := by
  have east : (Zone.utc.offsetAt (noonOf date).instant.toNat).micros = 0 := rfl
  have written : (noonOf date).offsetOrUtc.micros = 0 := rfl
  rw [Zone.clock, east, Timestamp.instant, written]
  omega

theorem dayAt_noonOf (date : Nat) : Zone.utc.dayAt (noonOf date) = date % lastDay := by
  have units : day = 24 * hour ∧ 0 < hour := by decide
  have wall : (noonOf date).wall = date % lastDay * day + 12 * hour := rfl
  rw [Zone.dayAt, clock_noonOf, wall, ← Int.natCast_ediv, Int.toNat_natCast, Nat.mul_comm,
    Nat.mul_add_div (by omega), Nat.div_eq_of_lt (by omega), Nat.add_zero]

theorem exists_inNamed_noonOf (date : Nat) : ∃ there, (noonOf date).inNamed "UTC" = .ok there := by
  have wall := (noonOf date).wall_lt
  have clock := clock_noonOf date
  have written : (noonOf date).instant = (noonOf date).wall := by
    have plain : (noonOf date).offsetOrUtc.micros = 0 := rfl
    rw [Timestamp.instant, plain]
    omega
  have reaches : Zone.utc.Reaches (noonOf date) := ⟨by omega, by omega, by omega, by omega⟩
  obtain ⟨there, shown, -⟩ := Timestamp.inZone_of_reaches reaches
  exact ⟨there, (Timestamp.inNamed_eq_inZone Zone.find?_default _).trans shown⟩

theorem exists_inNamed_recordedOn (dates : List Nat) :
    ∀ event ∈ (recordedOn dates).events,
      ∃ there, event.triggeredAt.inNamed (recordedOn dates).zone = .ok there := by
  intro event member
  obtain ⟨date, -, rfl⟩ := List.mem_map.1 member
  exact exists_inNamed_noonOf date

theorem IsFirstDay.min?_eq {dates : List Nat} {first : Nat}
    (h : (recordedOn dates).IsFirstDay .utc first) :
    (dates.map (· % lastDay)).min? = some first := by
  have least := min?_eq_some_iff_isFirstDay.2 h
  rw [recordedOn, List.map_map] at least
  simpa only [Function.comp_def, firedAt, dayAt_noonOf] using least

/-- Asked at noon, the statistics tell of the day before and of the day after tomorrow, but fail
over tomorrow. -/
theorem average_from_first_day_recordedOn :
    (∃ s, (recordedOn [5, 3]).statistics [] (noonOf 4) = .ok s ∧ 0 ≤ s.averagePerDay) ∧
    (recordedOn [5]).statistics [] (noonOf 4) = .error .divisionByZero ∧
    ∃ s, (recordedOn [6, 7]).statistics [] (noonOf 4) = .ok s ∧ s.averagePerDay ≤ 0 := by
  have today : Zone.utc.dayAt (noonOf 4) = 4 := (dayAt_noonOf 4).trans (by decide)
  have told (dates : List Nat) :=
    average_from_first_day (exists_inNamed_noonOf 4) (exists_inNamed_recordedOn dates) []
  refine ⟨?_, ?_, ?_⟩
  · obtain ⟨zone, shows, -, ⟨empty, -⟩ | ⟨first, starts, upToToday, -⟩⟩ := told [5, 3]
    · contradiction
    obtain rfl : Zone.utc = zone := Option.some.inj shows.known
    obtain rfl : 3 = first := Option.some.inj (Eq.trans (by decide) starts.min?_eq)
    exact upToToday (by omega)
  · obtain ⟨zone, shows, -, ⟨empty, -⟩ | ⟨first, starts, -, tomorrow, -⟩⟩ := told [5]
    · contradiction
    obtain rfl : Zone.utc = zone := Option.some.inj shows.known
    obtain rfl : 5 = first := Option.some.inj (Eq.trans (by decide) starts.min?_eq)
    exact tomorrow (by omega)
  · obtain ⟨zone, shows, -, ⟨empty, -⟩ | ⟨first, starts, -, -, later⟩⟩ := told [6, 7]
    · contradiction
    obtain rfl : Zone.utc = zone := Option.some.inj shows.known
    obtain rfl : 6 = first := Option.some.inj (Eq.trans (by decide) starts.min?_eq)
    exact later (by omega)

/-- All times can be shown, and still an event of tomorrow makes the statistics fail, and one of the
day after makes the average less than zero. -/
theorem fails_before_first_day :
    (∃ there, (noonOf 4).inNamed "UTC" = .ok there) ∧
    (∀ date, ∀ event ∈ (recordedOn [date]).events, ∃ there,
    event.triggeredAt.inNamed "UTC" = .ok there) ∧
    (recordedOn [5]).statistics [] (noonOf 4) = .error .divisionByZero ∧
    ∃ s, (recordedOn [6]).statistics [] (noonOf 4) = .ok s ∧ s.averagePerDay < 0 := by
  refine ⟨exists_inNamed_noonOf 4, fun date => exists_inNamed_recordedOn [date], rfl, ?_⟩
  have below : ((recordedOn [6]).statistics [] (noonOf 4)).map
      (fun s => decide (s.averagePerDay < 0)) = .ok true :=
    rfl
  obtain ⟨s, told, negative⟩ := ok_of_map below
  exact ⟨s, told, of_decide_eq_true negative⟩

end History

end MarketAlerts
