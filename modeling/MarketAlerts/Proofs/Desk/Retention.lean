import MarketAlerts.Calendar.ZoneRule
import MarketAlerts.Proofs.Desk.DailyCap
import MarketAlerts.Proofs.History.Log
import MarketAlerts.Proofs.Settings

/-!
How many events an engine retains that makes its history from its settings. Settings are accepted
with any bound. From one up, as far as a machine counts, the bound is that of the history, and the
history holds the latest events of every run up to it. Zero stands for the usual bound, and with any
other there is no engine.
-/
namespace MarketAlerts

open Document Calendar

section

variable [Installation]

namespace Engine

variable {settings : Settings} {loop : Option DeliveryLoop} {notifiers : Option (List Notifier)}
  {nameEvent : (tick position : Nat) → String}

/-- An engine that is given no history makes an empty one, with the bound and the zone of its
settings. -/
theorem exists_build (possible : settings.history.IsPossible) :
    ∃ engine, build settings none loop notifiers nameEvent = .ok engine ∧
      engine.history = ⟨Zone.nameOr settings.engine.zone.name, settings.history.retained, []⟩ := by
  have made : History.build settings.history.maxEvents settings.engine.zone.name =
      .ok ⟨Zone.nameOr settings.engine.zone.name, settings.history.retained, []⟩ := by
    rw [History.build, HistorySettings.capacityOf_of_possible possible]
    rfl
  unfold build
  rw [Option.filter_none, made]
  exact ⟨_, rfl, rfl⟩

theorem build_of_not_possible (impossible : ¬ settings.history.IsPossible) :
    build settings none loop notifiers nameEvent = .error settings.history.fault := by
  unfold build
  rw [Option.filter_none, History.build, HistorySettings.capacityOf_of_not_possible impossible]
  rfl

end Engine

namespace Desk

/-- Settings are accepted with any bound of the history. If it is not negative and a machine counts
so far, an engine is built, and its history holds the latest of all events that are recorded, as
many as the bound says; but zero stands for the usual bound. So it is over every run of the engine
in which nobody clears the history: it holds the latest of the events that fire. With any other
bound the engine is not built. -/
theorem retains_latest (environment : Environment) (settings : Settings)
    (loop : Option DeliveryLoop) (notifiers : Option (List Notifier))
    (nameEvent : (tick position : Nat) → String) : let bound := settings.history.maxEvents
    let built := Engine.build settings none loop notifiers nameEvent
    Settings.read environment settings.keywords = .valid settings ∧
    (¬ (0 ≤ bound ∧ bound < machineEnd) → built = .error settings.history.fault) ∧
    (0 ≤ bound ∧ bound < machineEnd → ∃ engine, built = .ok engine ∧
      (bound ≠ 0 → (settings.history.retained : Int) = bound) ∧
      (∀ events, (engine.history.recordAll events).events <:+ events ∧
        (engine.history.recordAll events).size = min settings.history.retained events.length) ∧
      ∀ alerts moves, (∀ move ∈ moves, move ≠ .clearHistory) →
        let desk : Desk := ⟨engine, alerts⟩
        let fired := (desk.firings moves).map (·.event)
        (desk.run moves).engine.history.events <:+ fired ∧
        (desk.run moves).engine.history.size = min settings.history.retained fired.length) := by
  intro bound built
  refine ⟨Settings.read_keywords environment settings, Engine.build_of_not_possible, fun possible =>
    ?_⟩
  obtain ⟨engine, made, fresh⟩ : ∃ engine, built = .ok engine ∧ engine.history = _ :=
    Engine.exists_build possible
  have holds (events : List Event) : (engine.history.recordAll events).events <:+ events ∧
      (engine.history.recordAll events).size = min settings.history.retained events.length := by
    have latest : (engine.history.recordAll events).events =
        History.latest settings.history.retained events := by
      rw [fresh]
      exact History.events_recordAll (Nat.zero_le _) events
    rw [History.size, latest]
    exact ⟨History.latest_suffix _ _, History.length_latest _ _⟩
  refine ⟨engine, made, HistorySettings.retained_of_ne_zero possible, holds,
    fun alerts moves kept => ?_⟩
  intro desk fired
  rw [desk.history_recordAll kept]
  exact holds fired

end Desk

end

namespace Desk

/-- The usual settings, but for the bound of the history. -/
def retaining (bound : Int) : Settings := { Settings.default with history := ⟨bound⟩ }

theorem retains_latest_one :
    ∃ engine, Engine.build (retaining 1) none none (some []) pair.engine.nameEvent = .ok engine ∧
      let desk : Desk := ⟨engine, pair.alerts⟩
      let moves : List Move := [.tick [0, 1] .steady (oClock 12), .settle]
      (desk.firings moves).length = 2 ∧ (desk.run moves).engine.history.size = 1 := by
  obtain ⟨-, -, possible⟩ := retains_latest [] (retaining 1) none (some []) pair.engine.nameEvent
  obtain ⟨engine, built, -, -, held⟩ := possible (by decide)
  have fired :
      ((Desk.mk engine pair.alerts).firings [.tick [0, 1] .steady (oClock 12), .settle]).length =
      2 := by
    obtain rfl := Except.ok.inj built
    decide +kernel
  obtain ⟨-, size⟩ := held pair.alerts [.tick [0, 1] .steady (oClock 12), .settle] (by simp)
  rw [List.length_map, fired] at size
  exact ⟨engine, built, fired, size⟩

/-- Settings that ask for a history of no events are accepted, and the history holds an event all
the same. Those that ask for less than none are accepted too, but there is no engine for them. -/
theorem zero_retains :
    ∃ zero fewer engine,
      Settings.read [] [("history", .record [("VIGIL_HISTORY_MAX_EVENTS", .integer 0)])] =
      .valid zero ∧
      zero.history.maxEvents = 0 ∧
      Engine.build zero none none none pair.engine.nameEvent = .ok engine ∧
      (engine.history.record (History.firedAt "first" (oClock 12))).size = 1 ∧
      Settings.read [] [("history", .record [("VIGIL_HISTORY_MAX_EVENTS", .integer (-1))])] =
      .valid fewer ∧
      Engine.build fewer none none none pair.engine.nameEvent = .error .negativeCapacity :=
  ⟨_, _, _, rfl, rfl, rfl, rfl, rfl, rfl⟩

end Desk

end MarketAlerts
