import MarketAlerts.Calendar.ZoneRule
import MarketAlerts.Proofs.Desk.DailyCap
import MarketAlerts.Proofs.Desk.Reports

/-!
The rule by which a tick fires an alert, in both directions. Where nothing fails, the alert fires,
leaves one event and has it in its book exactly if it meets all gates once its snooze is over and
its rule triggers; what else can come of it is told by the first gate that it does not meet.
-/
namespace MarketAlerts

open Calendar

section

variable [Installation]

/-- What a tick knows of a ticker that was observed. -/
def Market.evidence (market : Market) (ticker : String) (seen : Observation) : Engine.Evidence :=
  ⟨some seen, market.news ticker, market.prices ticker⟩

namespace Alert

theorem triggeredCount_of_lasting {a b : Alert} (same : a.lasting = b.lasting) :
    a.triggeredCount = b.triggeredCount :=
  show a.lasting.triggeredCount = b.lasting.triggeredCount by rw [same]

theorem status_resumeIfDue_eq_expired_iff (alert : Alert) (now : Timestamp) :
    (alert.resumeIfDue now).alert.status = .expired ↔ alert.status = .expired := by
  unfold resumeIfDue
  split
  · next due =>
    have snoozed : alert.status = .snoozed := by
      rw [isDue, Bool.and_eq_true] at due
      exact of_decide_eq_true due.1
    simp [snoozed]
  · rfl

theorem status_booked_eq_expired_iff (alert : Alert) (now : Timestamp) (evaluation : Evaluation) :
    (alert.booked now evaluation).status = .expired ↔
      alert.status = .expired ∨ ∃ reason, evaluation.outcome = .blocked .expiry reason := by
  unfold booked
  cases evaluation.outcome with
  | blocked gate reason =>
    cases gate with
    | expiry =>
      by_cases already : alert.status = .expired <;> simp [expire, already]
    | _ => simp
  | fired event => simp [recordTrigger]
  | _ => simp

/-- The book of an alert after an event: when it fired last, how often, and when it was changed
last. -/
theorem book_recordTrigger (alert : Alert) (event : Event) :
    (alert.recordTrigger event).lastTriggeredAt = some event.triggeredAt ∧
      (alert.recordTrigger event).triggeredCount = alert.triggeredCount + 1 ∧
      (alert.recordTrigger event).updatedAt = event.triggeredAt :=
  ⟨rfl, rfl, rfl⟩

theorem booked_of_fired {alert : Alert} {now : Timestamp} {evaluation : Evaluation} {event : Event}
    (fired : evaluation.outcome = .fired event) :
    alert.booked now evaluation = alert.recordTrigger event := by
  unfold booked
  rw [fired]

/-- What lasts of an alert stays where it does not fire. -/
theorem lasting_booked (alert : Alert) (now : Timestamp) {evaluation : Evaluation}
    (still : evaluation.event? = none) : (alert.booked now evaluation).lasting = alert.lasting := by
  unfold Evaluation.event? at still
  unfold booked
  split
  · exact alert.lasting_expire now
  · next event fired => simp [fired] at still
  · rfl

end Alert

/-- What an event tells: which alert fired and when, what the rule found, and what was seen. -/
structure Event.Tells (event : Event) (alert : Alert) (seen : Observation) (finding : Finding)
    (now : Timestamp) : Prop where
  alertId : event.alertId = alert.id
  ticker : event.ticker = alert.ticker
  triggeredAt : event.triggeredAt = now
  reason : event.reason = finding.reason
  conditionsMet : event.conditionsMet = finding.conditionsMet
  price : event.price = seen.price
  volume : event.volume = some seen.volume
  action : event.action = .pending

theorem Event.Tells.of_lasting {event : Event} {alert other : Alert} {seen : Observation}
    {finding : Finding} {now : Timestamp} (tells : event.Tells alert seen finding now)
    (same : alert.lasting = other.lasting) : event.Tells other seen finding now :=
  { tells with
    alertId := tells.alertId.trans (Alert.of_lasting same).id
    ticker := tells.ticker.trans (Alert.of_lasting same).ticker }

namespace Engine

theorem tells_of_fire {alert : Alert} {evidence : Evidence} {seen : Observation} {finding : Finding}
    {now : Timestamp} {id : String} {event : Event} (observed : evidence.seen = some seen)
    (made : fire alert evidence finding now id = .ok event) :
    event.Tells alert seen finding now := by
  unfold fire fireWith at made
  rw [observed] at made
  cases made
  exact ⟨rfl, rfl, rfl, rfl, rfl, rfl, rfl, rfl⟩

variable {engine : Engine} {alert : Alert} {evidence : Evidence} {now : Timestamp} {count : Nat}
  {evaluation : Evaluation}

/-- The event of an alert that qualifies. -/
theorem Verdict.event {seen : Observation}
    (verdict : engine.Verdict alert evidence now count evaluation.outcome)
    (observed : evidence.seen = some seen) (qualifies : engine.Qualifies alert evidence now count) :
    ∃ event finding, evaluation.outcome = .fired event ∧
      engine.dispatch alert (engine.informed evidence) now = .ok finding ∧
      event.Tells alert seen finding now := by
  obtain ⟨event, fired⟩ := verdict.fired_iff.2 qualifies
  rw [fired] at verdict
  cases verdict with
  | fired _ judged _ made =>
    have there : (engine.informed evidence).seen = some seen := observed
    exact ⟨event, _, fired, judged, tells_of_fire there made⟩

theorem Verdict.event?_eq_none
    (verdict : engine.Verdict alert evidence now count evaluation.outcome)
    (unqualified : ¬ engine.Qualifies alert evidence now count) : evaluation.event? = none := by
  unfold Evaluation.event?
  split
  · next event fired => exact absurd (verdict.fired_iff.1 ⟨event, fired⟩) unqualified
  · rfl

/-- An alert that has not expired yet expires if and only if its expiry is the first gate that is
not met. -/
theorem Verdict.expires_iff
    (verdict : engine.Verdict (alert.resumeIfDue now).alert evidence now count evaluation.outcome) :
    ((alert.resumeIfDue now).alert.booked now evaluation).status = .expired ∧
        alert.status ≠ .expired ↔
      Gate.expiry.IsFirstUnmet (alert.resumeIfDue now).alert (engine.gateContext now count) := by
  rw [Alert.status_booked_eq_expired_iff, alert.status_resumeIfDue_eq_expired_iff,
    verdict.blocked_iff]
  constructor
  · rintro ⟨already | unmet, before⟩
    · exact absurd already before
    · exact unmet
  · intro unmet
    refine ⟨.inr unmet, fun already => ?_⟩
    -- A gate behind the status is the first one only for an alert that is active.
    have active := unmet.active (by decide)
    rw [(alert.status_resumeIfDue_eq_expired_iff now).2 already] at active
    contradiction

/-- The report on an alert that was observed gives the verdict. -/
theorem Sound.report {market : Market} {seen : Observation}
    (sound : engine.Sound alert (market.evidence alert.ticker seen) now.aware count)
    (observed : market.observation alert.ticker = some seen) (id : String) :
    engine.Verdict alert (market.evidence alert.ticker seen) now.aware count
      (engine.evaluateListed alert market now id).outcome := by
  obtain ⟨outcome, evaluated, verdict⟩ := sound.verdict rfl id
  rw [ok_of_evaluateListed observed evaluated]
  exact verdict

end Engine

namespace Desk

/-- Where nothing fails, the report gives the verdict. -/
theorem exists_verdict (desk : Desk) {listed : List Nat} {market : Market} {now : Timestamp}
    {position : Nat} {alert : Alert} {seen : Observation} {count : Nat}
    (found : desk.alerts[position]? = some alert) (once : listed.count position = 1)
    (observed : market.observation alert.ticker = some seen)
    (sound : desk.engine.Sound (alert.resumeIfDue now.aware).alert
      (market.evidence alert.ticker seen) now.aware count) :
    ∃ evaluation, desk.reports listed market now position = [evaluation] ∧
      (desk.tick listed market now).desk.alerts[position]? =
        some ((alert.resumeIfDue now.aware).alert.booked now.aware evaluation) ∧
      desk.engine.Verdict (alert.resumeIfDue now.aware).alert (market.evidence alert.ticker seen)
        now.aware count evaluation.outcome := by
  obtain ⟨evaluation, id, report, evaluated, settled⟩ := desk.exists_report market now found once
  refine ⟨evaluation, report, settled, ?_⟩
  have ticker := (Alert.of_lasting (alert.lasting_resumeIfDue now.aware)).ticker
  rw [evaluated]
  rw [← ticker] at sound observed ⊢
  exact sound.report observed id

/-- A tick puts what fired at the end of the history, which lets the oldest events go where there
are too many. -/
theorem history_tick (desk : Desk) (listed : List Nat) (market : Market) (now : Timestamp) :
    let fired := desk.fired (.tick listed market now)
    let before := desk.engine.history
    let after := (desk.tick listed market now).desk.engine.history
    after = before.recordAll (fired.map (·.event)) ∧ (fired = [] → after = before) ∧
      (fired ≠ [] → after = { before with
        events := (before.events ++ fired.map (·.event)).drop
          (before.events.length + fired.length - before.capacity) }) := by
  intro fired before after
  have recorded : after = before.recordAll (fired.map (·.event)) :=
    (course_tick desk listed market now).history
  refine ⟨recorded, fun nothing => ?_, fun something => ?_⟩
  · rw [recorded, nothing]
    rfl
  · have nonempty : fired.map (·.event) ≠ [] := mt List.map_eq_nil_iff.1 something
    rw [recorded, before.recordAll_eq nonempty, List.length_map]

/-- Take an alert that a tick lists once, with an observation of its ticker, and no failure in its
evaluation. If it qualifies, the tick reports that it fired and makes one event of it, which tells
of the alert at that time; its book says that it fired then, once more than before. If it does not,
nothing of this happens. What fired is appended to the history, up to its bound, and nothing else. A
gate is reported as what holds the alert up exactly if it is the first that is not met, and the tick
lets it expire exactly if this is the expiry. -/
theorem tick_fires_iff (desk : Desk) {listed : List Nat} {market : Market} {now : Timestamp}
    {position : Nat} {alert : Alert} {seen : Observation} {count : Nat}
    (found : desk.alerts[position]? = some alert) (once : listed.count position = 1)
    (observed : market.observation alert.ticker = some seen)
    (sound : desk.engine.Sound (alert.resumeIfDue now.aware).alert
      (market.evidence alert.ticker seen) now.aware count) :
    let woken := (alert.resumeIfDue now.aware).alert
    let context := desk.engine.gateContext now.aware count
    let qualifies := desk.engine.Qualifies woken (market.evidence alert.ticker seen) now.aware count
    let fired := desk.fired (.tick listed market now)
    let before := desk.engine.history
    let result := (desk.tick listed market now).desk
    ∃ evaluation after,
      desk.reports listed market now position = [evaluation] ∧
      result.alerts[position]? = some after ∧
      result.engine.history = before.recordAll (fired.map (·.event)) ∧
      (fired = [] → result.engine.history = before) ∧
      (fired ≠ [] → result.engine.history = { before with
        events := (before.events ++ fired.map (·.event)).drop
          (before.events.length + fired.length - before.capacity) }) ∧
      (qualifies → ∃ event finding,
        desk.engine.dispatch woken (desk.engine.informed (market.evidence alert.ticker seen))
          now.aware = .ok finding ∧
        evaluation.record.triggered = true ∧ firedAt position fired = [event] ∧
        event.alertId = alert.id ∧ event.triggeredAt = now.aware ∧
        event.Tells alert seen finding now.aware ∧
        after = woken.recordTrigger event ∧
        after.lastTriggeredAt = some now.aware ∧
        after.triggeredCount = alert.triggeredCount + 1 ∧
        after.updatedAt = now.aware) ∧
      (¬ qualifies → evaluation.record.triggered = false ∧ firedAt position fired = [] ∧
        after.lastTriggeredAt = alert.lastTriggeredAt ∧
        after.triggeredCount = alert.triggeredCount) ∧
      (∀ gate : Gate, evaluation.record.blockedBy = some gate.name ↔
        gate.IsFirstUnmet woken context) ∧
      (after.status = .expired ∧ alert.status ≠ .expired ↔
        Gate.expiry.IsFirstUnmet woken context) := by
  intro woken context qualifies fired before result
  obtain ⟨evaluation, report, settled, verdict⟩ := desk.exists_verdict found once observed sound
  have lasting : woken.lasting = alert.lasting := alert.lasting_resumeIfDue now.aware
  have events : firedAt position fired = evaluation.event?.toList := by
    rw [desk.firedAt_tick, report]
    cases event : evaluation.event? <;> simp [event]
  obtain ⟨recorded, still, grown⟩ := desk.history_tick listed market now
  refine ⟨evaluation, _, report, settled, recorded, still, grown, ?fires, ?silent, ?gates, ?expires⟩
  case fires =>
    intro holds
    obtain ⟨event, finding, outcome, judged, tells⟩ := verdict.event rfl holds
    have shown : evaluation.event? = some event := by rw [Evaluation.event?, outcome]
    have own := tells.of_lasting lasting
    obtain ⟨last, times, changed⟩ := woken.book_recordTrigger event
    have counted := Alert.triggeredCount_of_lasting lasting
    rw [tells.triggeredAt] at last changed
    rw [counted] at times
    refine ⟨event, finding, judged, ?_, ?_, own.alertId, own.triggeredAt, own,
      Alert.booked_of_fired outcome, ?_⟩
    · rw [Evaluation.triggered_record, shown, Option.isSome_some]
    · rw [events, shown, Option.toList_some]
    · rw [Alert.booked_of_fired outcome]
      exact ⟨last, times, changed⟩
  case silent =>
    intro fails
    have still := verdict.event?_eq_none fails
    have kept := (woken.lasting_booked now.aware still).trans lasting
    refine ⟨?_, ?_, Alert.lastTriggeredAt_of_lasting kept, Alert.triggeredCount_of_lasting kept⟩
    · rw [Evaluation.triggered_record, still, Option.isSome_none]
    · rw [events, still, Option.toList_none]
  case gates =>
    intro gate
    exact Evaluation.blockedBy_eq_some_iff.trans (verdict.blocked_iff gate)
  case expires => exact verdict.expires_iff

end Desk

end

namespace Desk

/-- At noon a snooze is just over, the cooldown of an hour too, and the alert is in its last
moment. -/
def brink : Desk :=
  { pair with
    alerts := [.eager "other" false,
      { Alert.eager "first" true with
        status := .snoozed
        snoozedUntil := some (oClock 12)
        lastTriggeredAt := some (oClock 11)
        expiresAt := some (oClock 12) }] }

theorem brink_fires :
    let noon := oClock 12
    let fired := brink.fired (.tick [0, 1] .steady noon)
    let result := (brink.tick [0, 1] .steady noon).desk
    ∃ event after, firedAt 1 fired = [event] ∧ event.alertId = "first" ∧
      event.triggeredAt = noon.aware ∧
      result.alerts[1]? = some after ∧ after.lastTriggeredAt = some noon.aware ∧
      after.triggeredCount = 1 ∧ after.updatedAt = noon.aware ∧
      result.engine.history.events = fired.map (·.event) := by
  intro noon fired result
  let watched := brink.alerts[1]
  let woken := (watched.resumeIfDue noon.aware).alert
  let evidence := Market.steady.evidence "ACME"
    ⟨"ACME", 2, 2, 100, none, none, none, none, none, none, ⟨0, none, by decide⟩⟩
  have pause : minutes woken.frequency.cooldownMinutes = .ok (60 * minute) :=
    ok_of_toOption (by decide +kernel)
  have met : ∀ gate : Gate, gate.Met woken (brink.engine.gateContext noon.aware 0) := by
    intro gate
    cases gate with
    | status => rfl
    | expiry =>
      intro expires same
      cases same
      decide
    | quietHours => rfl
    | cooldown =>
      intro last same
      cases same
      exact ⟨_, pause, by decide⟩
    | dailyCap => exact (by decide : 0 < 3)
  have counted : brink.engine.history.countToday "first" noon.aware = .ok 0 :=
    ok_of_toOption (by decide +kernel)
  have qualifies : brink.engine.Qualifies woken evidence noon.aware 0 :=
    ⟨met, _, rfl, by decide +kernel⟩
  have sound : brink.engine.Sound woken evidence noon.aware 0 :=
    ⟨counted, ⟨.passed, Gate.screen_eq_passed_iff.2 met⟩, fun _ => ⟨_, rfl⟩⟩
  have found : brink.alerts[1]? = some watched := rfl
  have once : [0, 1].count 1 = 1 := by decide
  have two : fired.length = 2 := by decide +kernel
  have nonempty : fired ≠ [] := List.ne_nil_of_length_pos (by omega)
  obtain ⟨_, after, _, settled, _, _, grown, fires, _⟩ := brink.tick_fires_iff found once rfl sound
  obtain ⟨event, _, _, _, one, alertId, triggeredAt, _, _, last, times, changed⟩ := fires qualifies
  have opened : brink.engine.history = ⟨"UTC", 1000, []⟩ := rfl
  have held := grown nonempty
  rw [opened, two] at held
  have events : result.engine.history.events = fired.map (·.event) := by
    rw [held]
    rfl
  exact ⟨event, after, one, alertId, triggeredAt, settled, last, times, changed, events⟩

end Desk

end MarketAlerts
