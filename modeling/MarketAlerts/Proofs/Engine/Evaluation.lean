import MarketAlerts.Engine.Tick

/-!
What can be said of an alert that fires: it passed every gate at that time, and its event bears its
name, its ticker and the time.
-/
namespace MarketAlerts

open Document Calendar

/-- A result of two steps comes from a result of the first. -/
theorem ok_of_bind {α β : Type} {first : Except Fault α} {next : α → Except Fault β} {result : β}
    (h : (first >>= next) = .ok result) : ∃ value, first = .ok value ∧ next value = .ok result := by
  cases first with
  | error fault => cases h
  | ok value => exact ⟨value, rfl, h⟩

theorem ok_of_map {α β : Type} {first : Except Fault α} {f : α → β} {result : β}
    (h : first.map f = .ok result) : ∃ value, first = .ok value ∧ f value = result := by
  cases first with
  | error fault => cases h
  | ok value => exact ⟨value, rfl, Except.ok.inj h⟩

theorem mapM_ok {α β : Type} {f : α → Except Fault β} {g : α → β} {values : List α}
    (fine : ∀ value ∈ values, f value = .ok (g value)) : values.mapM f = .ok (values.map g) := by
  induction values with
  | nil => rfl
  | cons value rest ih =>
    obtain ⟨here, others⟩ := List.forall_mem_cons.1 fine
    rw [List.mapM_cons, here, ih others]
    rfl

theorem exists_of_mapM_ok {α β : Type} {f : α → Except Fault β} {values : List α} {results : List β}
    (fine : values.mapM f = .ok results) : ∀ value ∈ values, ∃ result, f value = .ok result := by
  induction values generalizing results with
  | nil => exact List.forall_mem_nil _
  | cons value rest ih =>
    rw [List.mapM_cons] at fine
    obtain ⟨result, here, others⟩ := ok_of_bind fine
    obtain ⟨more, there, -⟩ := ok_of_bind others
    exact List.forall_mem_cons.2 ⟨⟨result, here⟩, ih there⟩

variable [Installation]

/-- Who passes all gates is held up by none of them. -/
theorem Gate.check_of_run {alert : Alert} {context : GateContext} {gates : List Gate}
    (passed : Gate.run alert context gates = .ok .passed) :
    ∀ gate ∈ gates, gate.check alert context = .ok none := by
  induction gates with
  | nil => simp
  | cons first rest ih =>
    obtain ⟨reason, checked, later⟩ := ok_of_bind passed
    cases reason with
    | some text => cases later
    | none =>
      intro gate member
      rcases List.mem_cons.1 member with rfl | member
      · exact checked
      · exact ih later gate member

theorem Gate.check_of_screen {alert : Alert} {context : GateContext}
    (passed : Gate.screen alert context = .ok .passed) (gate : Gate) :
    gate.check alert context = .ok none :=
  Gate.check_of_run passed gate (by cases gate <;> simp [Gate.inOrder])

/-- The cooldown gate lets an alert through once its pause is over. -/
theorem Gate.pause_of_cooldown {alert : Alert} {context : GateContext} {last : Timestamp}
    (checked : Gate.cooldown.check alert context = .ok none)
    (before : alert.lastTriggeredAt = some last) :
    ∃ pause, minutes alert.frequency.cooldownMinutes = .ok pause ∧
      pause ≤ context.now.instant - last.instant := by
  simp only [Gate.check, before] at checked
  obtain ⟨pause, span, rest⟩ := ok_of_bind checked
  refine ⟨pause, span, ?_⟩
  split at rest
  · cases rest
  · omega

theorem Gate.count_of_dailyCap {alert : Alert} {context : GateContext}
    (checked : Gate.dailyCap.check alert context = .ok none) :
    context.triggersToday < alert.frequency.maxPerDay.val := by
  simp only [Gate.check] at checked
  split at checked
  · cases checked
  · next below => exact Nat.lt_of_not_le below

namespace Engine

theorem fire_eq_ok {alert : Alert} {evidence : Evidence} {finding : Finding} {now : Timestamp}
    {id : String} {event : Event} (fired : fire alert evidence finding now id = .ok event) :
    event.alertId = alert.id ∧ event.ticker = alert.ticker ∧ event.triggeredAt = now := by
  unfold fire fireWith at fired
  split at fired
  · cases fired
  · cases fired
    exact ⟨rfl, rfl, rfl⟩

/-- An event comes from an alert that passed the gates on the count of the history. -/
structure Fires (engine : Engine) (alert : Alert) (now : Timestamp) (event : Event) : Prop where
  alertId : event.alertId = alert.id
  ticker : event.ticker = alert.ticker
  triggeredAt : event.triggeredAt = now
  passed : ∃ count, engine.history.countToday alert.id now = .ok count ∧
    Gate.screen alert ⟨now, count, some engine.settings.engine.zone.name⟩ = .ok .passed

theorem fires_of_evaluate {engine : Engine} {alert : Alert} {evidence : Evidence} {now : Timestamp}
    {id : String} {event : Event}
    (fired : engine.evaluate alert evidence now none id = .ok (.fired event)) :
    engine.Fires alert now.aware event := by
  obtain ⟨decision, screened, rest⟩ := ok_of_bind fired
  obtain ⟨count, counted, passed⟩ := ok_of_bind screened
  cases decision with
  | blocked gate reason => cases rest
  | passed =>
    obtain ⟨finding, _, rest⟩ := ok_of_bind rest
    split at rest
    · obtain ⟨found, made, same⟩ := ok_of_bind rest
      cases same
      obtain ⟨alertId, ticker, triggeredAt⟩ := fire_eq_ok made
      exact ⟨alertId, ticker, triggeredAt, count, counted, passed⟩
    · cases rest

theorem fires_of_evaluateListed {engine : Engine} {alert : Alert} {market : Market}
    {now : Timestamp} {id : String} {event : Event}
    (fired : (engine.evaluateListed alert market now id).event? = some event) :
    engine.Fires alert now.aware event := by
  unfold evaluateListed Evaluation.event? at fired
  dsimp only at fired
  split at fired
  · next outcome fires =>
    obtain rfl := Option.some.inj fired
    split at fires
    · cases fires
    · split at fires
      · next made => exact fires_of_evaluate (fires ▸ made)
      · cases fires
  · contradiction

end Engine

end MarketAlerts
