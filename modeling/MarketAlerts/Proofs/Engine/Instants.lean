import Mathlib.Data.List.Forall2
import MarketAlerts.Calendar.ZoneRule
import MarketAlerts.Proofs.Desk.Run
import MarketAlerts.Proofs.History.Log

/-!
Decisions go by instants. One instant can be written in many ways, with any offset from universal
time or with none; the gates and the counts of a history do not tell them apart, neither in the
present time nor in the times that alerts and events carry.
-/
namespace MarketAlerts

open Document Calendar

theorem Calendar.Timestamp.inZone_congr {now later : Timestamp} (same : now.instant = later.instant)
    (zone : Zone) : now.inZone zone = later.inZone zone := by
  rw [inZone, inZone, same]

/-- Another event is this one, at the same instant. -/
structure Event.Respelled (event other : Event) : Prop where
  time : other.triggeredAt.instant = event.triggeredAt.instant
  rest : other = { event with triggeredAt := other.triggeredAt }

/-- Another history is this one, with each of its events at the same instant. -/
structure History.Respelled (history other : History) : Prop where
  events : List.Forall₂ Event.Respelled history.events other.events
  rest : other = { history with events := other.events }

/-- What the gates look at beside the alert; a number of triggers below zero is refused. -/
def GateContext.given (now : Timestamp) (triggersToday : Int) (zone : Option String) :
    Checked GateContext :=
  GateContext.mk now <$> (asCount triggersToday).under "triggers_today" <*> .valid zone

/-- This is how the parts are read from a document. -/
theorem GateContext.read_record {written : Datum} {now : Timestamp}
    (time : written.asTime = .valid now) (triggersToday : Int) (zone : Option String) :
    GateContext.read (.record [("now", written), ("triggers_today", .integer triggersToday),
      ("timezone", .ofOption .text zone)]) = GateContext.given now triggersToday zone := by
  show GateContext.mk <$> (written.asTime).under "now" <*>
    (asCount triggersToday).under "triggers_today"
    <*> ((Datum.ofOption .text zone).orNull Datum.asText).under "timezone" = _
  rw [time, GateContext.given]
  cases zone <;> cases asCount triggersToday <;> rfl

/-- Whether all gates let an alert pass, and the name of the one that does not. -/
def Decision.verdict (decision : Decision) : Bool × Option String :=
  (decision.record.passed, decision.record.gate)

namespace History

/-- What does not look at the time of an event is the same over all events in any spelling. -/
theorem map_respelled {α : Type} {f : Event → α} {events spelled : List Event}
    (each : List.Forall₂ Event.Respelled events spelled)
    (blind : ∀ event time, f { event with triggeredAt := time } = f event) :
    spelled.map f = events.map f := by
  induction each with
  | nil => rfl
  | cons one _ ih => rw [List.map_cons, List.map_cons, ih, one.rest, blind]

end History

section

variable [Installation]

theorem Calendar.Timestamp.inNamed_congr {now later : Timestamp}
    (same : now.instant = later.instant) (name : String) :
    now.inNamed name = later.inNamed name := by
  unfold inNamed
  simp only [inZone_congr same]

/-- Another alert is this one, with its expiry and its last trigger at the same instants. -/
structure Alert.Respelled (alert other : Alert) : Prop where
  expiry : other.expiresAt.map (·.instant) = alert.expiresAt.map (·.instant)
  last : other.lastTriggeredAt.map (·.instant) = alert.lastTriggeredAt.map (·.instant)
  rest : other =
    { alert with expiresAt := other.expiresAt, lastTriggeredAt := other.lastTriggeredAt }

/-- What the gates decide where the number of triggers is given from outside. -/
def Gate.screenGiven (alert : Alert) (now : Timestamp) (triggersToday : Int)
    (zone : Option String) : Except Fault Decision := do
  screen alert
    (← (GateContext.given now triggersToday zone).orRefuse "GateContext" Installation.helpAddress)

section Now

variable {now later : Timestamp}

theorem QuietHours.holds_congr (same : now.instant = later.instant) (quiet : QuietHours)
    (fallback : Option String) : quiet.holds now fallback = quiet.holds later fallback := by
  unfold holds
  rw [Timestamp.inNamed_congr same]

namespace Gate

variable {alert other : Alert}

/-- No gate tells apart two times of one instant, not even in its reason. -/
theorem check_congr (same : now.instant = later.instant) (alert : Alert) (count : Nat)
    (zone : Option String) (gate : Gate) :
    gate.check alert ⟨now, count, zone⟩ = gate.check alert ⟨later, count, zone⟩ := by
  cases gate with
  | status => rfl
  | expiry => simp only [check, same]
  | quietHours => simp only [check, QuietHours.holds_congr same]
  | cooldown => simp only [check, same]
  | dailyCap => rfl

theorem screen_congr (same : now.instant = later.instant) (alert : Alert) (count : Nat)
    (zone : Option String) :
    screen alert ⟨now, count, zone⟩ = screen alert ⟨later, count, zone⟩ := by
  have run_congr (gates : List Gate) :
      run alert ⟨now, count, zone⟩ gates = run alert ⟨later, count, zone⟩ gates := by
    induction gates with
    | nil => rfl
    | cons gate rest ih => rw [run, run, check_congr same, ih]
  exact run_congr inOrder

/-- An alert has expired if the instant of its expiry is past. -/
theorem isSome_expiry (alert : Alert) (context : GateContext) :
    (expiry.check alert context).map (·.isSome) =
      .ok ((alert.expiresAt.map (·.instant)).any (decide <| · < context.now.instant)) := by
  unfold check
  cases alert.expiresAt with
  | none => rfl
  | some expires => by_cases past : expires.instant < context.now.instant <;>
      simp [past, Except.map]

/-- The cooldown runs from the instant of the last trigger. -/
theorem cooldown_eq (alert : Alert) (context : GateContext) :
    cooldown.check alert context =
      (alert.lastTriggeredAt.map (·.instant)).elim (.ok none) fun last =>
      (minutes alert.frequency.cooldownMinutes).map fun pause =>
        if context.now.instant - last < pause then
          some ("in cooldown (" ++ Number.general alert.frequency.cooldownMinutes ++ "m)")
        else none := by
  unfold check
  cases alert.lastTriggeredAt with
  | none => rfl
  | some last =>
    cases span : minutes alert.frequency.cooldownMinutes with
    | error fault => rfl
    | ok pause => by_cases short : context.now.instant - last.instant < pause <;>
        simp [short, bind, Except.bind, Except.map, pure, Except.pure]

/-- A gate blocks an alert in any spelling, or in none. Only the reason of an alert that has expired
tells when. -/
theorem isSome_check (h : alert.Respelled other) (context : GateContext) (gate : Gate) :
    (gate.check other context).map (·.isSome) = (gate.check alert context).map (·.isSome) := by
  have same := h.rest
  cases gate with
  | status => rw [same]; rfl
  | expiry => rw [isSome_expiry, isSome_expiry, h.expiry]
  | quietHours => rw [same]; rfl
  | cooldown =>
    have frequency : other.frequency = alert.frequency := by rw [same]
    rw [cooldown_eq, cooldown_eq, h.last, frequency]
  | dailyCap => rw [same]; rfl

/-- For the verdict it matters of each gate only whether it has a reason. -/
theorem verdict_run_cons (alert : Alert) (context : GateContext) (gate : Gate) (rest : List Gate) :
    (run alert context (gate :: rest)).map (·.verdict) =
      (gate.check alert context).map (·.isSome) >>= fun stops =>
        if stops then .ok (false, some gate.name)
          else (run alert context rest).map (·.verdict) := by
  rw [run]
  cases gate.check alert context with
  | error fault => rfl
  | ok answer => cases answer <;> rfl

theorem verdict_run (h : alert.Respelled other) (context : GateContext) (gates : List Gate) :
    (run other context gates).map (·.verdict) = (run alert context gates).map (·.verdict) := by
  induction gates with
  | nil => rfl
  | cons gate rest ih => rw [verdict_run_cons, verdict_run_cons, isSome_check h, ih]

/-- All gates decide alike at one instant on an alert in any spelling. -/
theorem verdict_screen (same : now.instant = later.instant) (h : alert.Respelled other)
    (count : Nat) (zone : Option String) : (screen other ⟨later, count, zone⟩).map (·.verdict) =
      (screen alert ⟨now, count, zone⟩).map (·.verdict) := by
  rw [screen_congr same]
  exact verdict_run h _ inOrder

theorem screenGiven_eq (alert : Alert) (now : Timestamp) (triggersToday : Int)
    (zone : Option String) : screenGiven alert now triggersToday zone =
      if 0 ≤ triggersToday then screen alert ⟨now, triggersToday.toNat, zone⟩
      else .error (.refused "GateContext" [("triggers_today", .of .atLeast 0 triggersToday)]
        Installation.helpAddress) := by
  unfold screenGiven GateContext.given asCount
  split <;> rfl

end Gate

namespace History

variable {history other : History}

theorem dayOf_congr (same : now.instant = later.instant) (history : History) :
    history.dayOf now = history.dayOf later := by
  rw [dayOf, dayOf, Timestamp.inNamed_congr same]

/-- The day of an event is that of its instant, and the zone is the same. -/
theorem dayOf_respelled (h : history.Respelled other) (same : now.instant = later.instant) :
    other.dayOf later = history.dayOf now := by
  rw [h.rest, dayOf_congr same]
  rfl

theorem countOn_respelled (h : history.Respelled other) (alertId : String) (today : Nat)
    {events spelled : List Event} (each : List.Forall₂ Event.Respelled events spelled) :
    other.countOn alertId today spelled = history.countOn alertId today events := by
  induction each with
  | nil => rfl
  | @cons event rewritten _ _ one _ ih =>
    have own : rewritten.alertId = event.alertId := by rw [one.rest]
    rw [countOn, countOn, ih, own, dayOf_respelled h one.time.symm]

theorem countToday_respelled (h : history.Respelled other) (same : now.instant = later.instant)
    (alertId : String) : other.countToday alertId later = history.countToday alertId now := by
  unfold countToday
  simp only [dayOf_respelled h same, countOn_respelled h alertId _ h.events]

theorem days_respelled (h : history.Respelled other) {events spelled : List Event}
    (each : List.Forall₂ Event.Respelled events spelled) :
    (spelled.mapM fun event => other.dayOf event.triggeredAt) =
      events.mapM fun event => history.dayOf event.triggeredAt := by
  induction each with
  | nil => rfl
  | cons one _ ih => rw [List.mapM_cons, List.mapM_cons, ih, dayOf_respelled h one.time.symm]

theorem statistics_respelled (h : history.Respelled other) (same : now.instant = later.instant)
    (alerts : List Alert) : other.statistics alerts later = history.statistics alerts now := by
  have tickers := map_respelled h.events (f := (·.ticker)) fun _ _ => rfl
  have owners := map_respelled h.events (f := (·.alertId)) fun _ _ => rfl
  have kinds (events : List Event) :
      (events.filterMap fun event => AlertStatistics.kindOf? alerts event.alertId) =
      (events.map (·.alertId)).filterMap (AlertStatistics.kindOf? alerts) := by
    rw [List.filterMap_map]
    rfl
  unfold statistics
  simp only [dayOf_respelled h same, days_respelled h h.events, tickers, kinds, owners,
    h.events.length_eq]

end History

/-- An engine that counts in its own history decides alike, too. -/
theorem Engine.verdict_screen (engine : Engine) {alert other : Alert} {rewritten : History}
    (same : now.instant = later.instant) (respelled : alert.Respelled other)
    (kept : engine.history.Respelled rewritten) (triggersToday : Option Nat) :
    (Engine.screen { engine with history := rewritten } other later triggersToday).map (·.verdict) =
      (engine.screen alert now triggersToday).map (·.verdict) := by
  have own : other.id = alert.id := by rw [respelled.rest]
  unfold screen
  rw [own, History.countToday_respelled kept same]
  cases triggersToday.elim (engine.history.countToday alert.id now) .ok with
  | error fault => rfl
  | ok count => exact Gate.verdict_screen same respelled count _

end Now

/-- At two times of one instant, however they are written, the gates decide the same about an alert,
the reason included, or fail in the same way, and so does the count of the day. How the times are
written that the alert and the events carry makes no difference to the verdict nor to a count, and
none to the statistics of the history and the verdicts of an engine that counts in it. -/
theorem decides_by_instants {now later : Timestamp} (same : now.instant = later.instant)
    {alert other : Alert} (respelled : alert.Respelled other) {history rewritten : History}
    (kept : history.Respelled rewritten) : (∀ (triggersToday : Int) (zone : Option String),
      Gate.screenGiven alert now triggersToday zone =
      Gate.screenGiven alert later triggersToday zone ∧
      (Gate.screenGiven other later triggersToday zone).map (·.verdict) =
        (Gate.screenGiven alert now triggersToday zone).map (·.verdict)) ∧
    (∀ alertId, history.countToday alertId now = history.countToday alertId later ∧
      rewritten.countToday alertId later = history.countToday alertId now) ∧
    (∀ alerts, rewritten.statistics alerts later = history.statistics alerts now) ∧
    ∀ (engine : Engine) triggersToday, engine.history = history →
      (Engine.screen { engine with history := rewritten } other later triggersToday).map
        (·.verdict) =
        (engine.screen alert now triggersToday).map (·.verdict) := by
  refine ⟨fun triggersToday zone => ?_, fun alertId => ?_, History.statistics_respelled kept same,
    ?_⟩
  · rw [Gate.screenGiven_eq, Gate.screenGiven_eq, Gate.screenGiven_eq]
    by_cases counted : 0 ≤ triggersToday
    · rw [if_pos counted, if_pos counted, if_pos counted]
      exact ⟨Gate.screen_congr same alert _ zone, Gate.verdict_screen same respelled _ zone⟩
    · rw [if_neg counted, if_neg counted, if_neg counted]
      exact ⟨rfl, rfl⟩
  · refine ⟨?_, History.countToday_respelled kept same alertId⟩
    rw [History.countToday, History.countToday, History.dayOf_congr same]
  · rintro engine triggersToday rfl
    exact engine.verdict_screen same respelled kept triggersToday

end

/-- Minutes of the last day of June 2024 in universal time, as a clock in Tokyo shows them. -/
def inTokyo (minutes : Nat) : Timestamp :=
  History.endOfJune (minutes + 540) (some ZoneRule.tokyo.standard)

/-- An alert that has fired at a time. -/
def Alert.firedAt (time : Timestamp) : Alert :=
  { Alert.eager "a" false with lastTriggeredAt := some time }

/-- A history of London that holds one event. -/
def History.london (time : Timestamp) : History := ⟨"Europe/London", 3, [firedAt "a" time]⟩

theorem decides_by_instants_inTokyo :
    let now := History.endOfJune 1410 none
    let last := History.endOfJune 1400 none
    (Alert.firedAt last).Respelled (.firedAt (inTokyo 1400)) ∧
      (History.london last).Respelled (.london (inTokyo 1400)) ∧
      (Gate.screenGiven (.firedAt last) now 0 none).map (·.verdict) = .ok (false, some "cooldown") ∧
      (Gate.screenGiven (.firedAt (inTokyo 1400)) (inTokyo 1410) 0 none).map (·.verdict) =
        .ok (false, some "cooldown") ∧
      (History.london last).countToday "a" now = .ok 1 ∧
      (History.london (inTokyo 1400)).countToday "a" (inTokyo 1410) = .ok 1 := by
  intro now last
  have present : now.instant = (inTokyo 1410).instant := by decide
  have past : (inTokyo 1400).instant = last.instant := by decide
  have respelled : (Alert.firedAt last).Respelled (.firedAt (inTokyo 1400)) :=
    ⟨rfl, congrArg some past, rfl⟩
  have kept : (History.london last).Respelled (.london (inTokyo 1400)) :=
    ⟨.cons ⟨past, rfl⟩ .nil, rfl⟩
  obtain ⟨gates, counts, -, -⟩ := decides_by_instants present respelled kept
  have held : (Gate.screenGiven (.firedAt last) now 0 none).map (·.verdict) =
      .ok (false, some "cooldown") := by
    decide +kernel
  have counted : (History.london last).countToday "a" now = .ok 1 := by decide +kernel
  exact ⟨respelled, kept, held, (gates 0 none).2.trans held, counted, (counts "a").2.trans counted⟩

end MarketAlerts
