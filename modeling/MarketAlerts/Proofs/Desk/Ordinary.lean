import MarketAlerts.Calendar.ZoneRule
import MarketAlerts.Proofs.Desk.DailyCap
import MarketAlerts.Proofs.Desk.Supplied
import MarketAlerts.Proofs.Engine.Division
import MarketAlerts.Proofs.Engine.Ordinary

/-!
Ordinary desks: at ordinary times no report of a tick has an error, and what a run at ordinary times
leaves behind is an ordinary desk again.
-/
namespace MarketAlerts

open Document Calendar

section

variable [Installation]

theorem Engine.IsOrdinary.error_evaluateListed {engine : Engine} (h : engine.IsOrdinary)
    {alert : Alert} (short : alert.frequency.HasShortCooldown) {now : Timestamp}
    (ordinary : now.IsOrdinary) (market : Market) (id : String) :
    (engine.evaluateListed alert market now id).record.error = none := by
  rw [Evaluation.error_record_eq_none_iff]
  cases observed : market.observation alert.ticker with
  | none =>
    unfold evaluateListed
    rw [observed]
    exact nofun
  | some seen =>
    obtain ⟨outcome, evaluated, fine⟩ :=
      h.exists_evaluate short ordinary seen (market.news alert.ticker)
        (market.prices alert.ticker) none id
    rw [ok_of_evaluateListed observed evaluated]
    exact fine

/-- A tick is at an ordinary time; other moves may come at any. -/
def Move.IsTimely : Move → Prop
  | .tick _ _ now => now.IsOrdinary
  | _ => True

namespace Desk

/-- The engine is ordinary, and no alert has a longer cooldown than can be counted. -/
structure IsOrdinary (desk : Desk) : Prop where
  engine : desk.engine.IsOrdinary
  cooldowns : ∀ alert ∈ desk.alerts, alert.frequency.HasShortCooldown

section Tick

variable {desk : Desk} {listed : List Nat} {market : Market} {now : Timestamp}

/-- An alert keeps its cooldown while it is woken. -/
theorem shortCooldown_awake {position : Nat} {alert : Alert}
    (found : desk.alerts[position]? = some alert) (short : alert.frequency.HasShortCooldown)
    {woken : Alert} (awake : (desk.awake listed now).alerts[position]? = some woken) :
    woken.frequency.HasShortCooldown := by
  obtain ⟨first, there, lasting⟩ := (desk.quiet_awake listed now).exists_lasting awake
  obtain rfl : first = alert := Option.some.inj (there.symm.trans found)
  rw [(Alert.of_lasting lasting).frequency]
  exact short

/-- No report on an alert has an error. -/
theorem error_of_mem_reports (ordinary : desk.engine.IsOrdinary) {position : Nat} {alert : Alert}
    (found : desk.alerts[position]? = some alert) (short : alert.frequency.HasShortCooldown)
    (present : now.IsOrdinary) {evaluation : Evaluation}
    (member : evaluation ∈ desk.reports listed market now position) :
    evaluation.record.error = none := by
  have bound : position < (desk.awake listed now.aware).alerts.length := by
    rw [(desk.quiet_awake listed now.aware).length]
    exact (List.getElem?_eq_some_iff.1 found).1
  have awake := List.getElem?_eq_getElem bound
  obtain ⟨id, rfl⟩ := eq_of_mem_reports member awake
  exact ordinary.error_evaluateListed (shortCooldown_awake found short awake) present.aware market
    id

/-- A tick of an ordinary desk reports no error at all. -/
theorem IsOrdinary.error_of_mem_evaluations (h : desk.IsOrdinary) (present : now.IsOrdinary)
    {evaluation : Evaluation} (member : evaluation ∈ (desk.tick listed market now).evaluations) :
    evaluation.record.error = none := by
  rw [evaluations_eq] at member
  obtain ⟨⟨position, report⟩, judged, rfl⟩ := List.mem_map.1 member
  have bound : position < desk.alerts.length := by
    have awake := lt_of_mem_judged judged
    rwa [(desk.quiet_awake listed now.aware).length] at awake
  have found := List.getElem?_eq_getElem bound
  have reported : report ∈ desk.reports listed market now position :=
    List.mem_map.2 ⟨_, List.mem_filter.2 ⟨judged, decide_eq_true rfl⟩, rfl⟩
  exact error_of_mem_reports h.engine found (h.cooldowns _ (List.getElem_mem bound)) present
    reported

end Tick

theorem Course.settings {start finish : Desk} {firings : List Firing}
    (course : Course start firings finish) : finish.engine.settings = start.engine.settings := by
  induction course with
  | done desk => rfl
  | quiet change _ ih => rw [ih, change.settings]
  | fire _ _ ih => exact ih

theorem settings_move (desk : Desk) (move : Move) :
    (desk.move move).engine.settings = desk.engine.settings := by
  cases move with
  | tick listed market now => exact (course_tick desk listed market now).settings
  | command position command now => exact (Quiet.obey desk position now command).settings
  | _ => rfl

/-- What a timely move adds to the history is of an ordinary time. -/
theorem IsOrdinary.move {desk : Desk} (h : desk.IsOrdinary) {move : Move} (timely : move.IsTimely) :
    (desk.move move).IsOrdinary where
  engine :=
    { anomaly := by
        rw [settings_move]
        exact h.engine.anomaly
      history :=
        { named := by
            rw [zone_move]
            exact h.engine.history.named
          dated := by
            intro event held
            have known : event ∈ desk.engine.history.events ++ (desk.fired move).map (·.event) := by
              rw [history_move]
              exact List.mem_append_right _ held
            rcases List.mem_append.1 known with old | new
            · exact h.engine.history.dated event old
            · obtain ⟨firing, fired, rfl⟩ := List.mem_map.1 new
              cases move with
              | tick listed market now =>
                rw [triggeredAt_of_mem_fired fired]
                exact timely.aware
              | _ => contradiction } }
  cooldowns := by
    intro alert member
    obtain ⟨position, found⟩ := List.getElem?_of_mem member
    obtain ⟨first, there, written⟩ := exists_written (written_move desk move) found
    rw [(Alert.of_written written).frequency]
    exact h.cooldowns first (List.mem_of_getElem? there)

/-- An ordinary desk is ordinary still after any timely moves, whatever its users do. -/
theorem IsOrdinary.run {desk : Desk} (h : desk.IsOrdinary) {moves : List Move}
    (timely : ∀ move ∈ moves, move.IsTimely) : (desk.run moves).IsOrdinary := by
  induction moves generalizing desk with
  | nil => exact h
  | cons move rest ih =>
    obtain ⟨first, later⟩ := List.forall_mem_cons.1 timely
    exact ih (h.move first) later

/-- However long an ordinary desk has been in use, its next tick reports no error. -/
theorem IsOrdinary.error_run {desk : Desk} (h : desk.IsOrdinary) {moves : List Move}
    (timely : ∀ move ∈ moves, move.IsTimely) {listed : List Nat} {market : Market} {now : Timestamp}
    (present : now.IsOrdinary) :
    ∀ evaluation ∈ ((desk.run moves).tick listed market now).evaluations,
    evaluation.record.error = none :=
  fun _ member => (h.run timely).error_of_mem_evaluations present member

/-- Ordinary inputs never fail. Where the history is of a known zone, its events and the present are
of the years 2 to 9998, the defaults of anomaly detection are within their bounds, and a cooldown
lasts no more than a million million minutes, every evaluation of the alert is carried out, with
whatever numbers, news and prices. It has an outcome that is no failure, and has the same one where
a division by zero would fail or do anything else. So a tick reports no error for the alert. -/
theorem ordinary_never_fails {engine : Engine} (ordinary : engine.IsOrdinary) {alert : Alert}
    (short : alert.frequency.HasShortCooldown) {now : Timestamp} (present : now.IsOrdinary) :
    (∀ seen news prices triggersToday id, ∃ outcome,
      engine.evaluate alert ⟨some seen, news, prices⟩ now triggersToday id = .ok outcome ∧
        (Evaluation.mk alert.id alert.ticker outcome).record.error = none ∧
        ∀ division : Division,
          division.evaluate engine alert seen news prices now triggersToday id = .ok outcome) ∧
    ∀ (desk : Desk) (position : Nat), desk.engine = engine → desk.alerts[position]? = some alert →
      ∀ listed market, ∀ evaluation ∈ desk.reports listed market now position,
        evaluation.record.error = none := by
  refine ⟨fun seen news prices triggersToday id => ?_, ?_⟩
  · obtain ⟨outcome, evaluated, fine⟩ :=
      ordinary.exists_evaluate short present seen news prices triggersToday id
    refine ⟨outcome, evaluated, Evaluation.error_record_eq_none_iff.2 fine, fun division => ?_⟩
    rw [division.evaluate_eq, evaluated]
  · rintro desk position rfl found listed market evaluation member
    exact error_of_mem_reports ordinary found short present member

end Desk

end

namespace Desk

/-- The first moment of year 2. -/
def dawn : Timestamp := ⟨365 * day, none, by decide⟩

/-- The last moment of year 9998. -/
def dusk : Timestamp := ⟨(Date.mk 9999 1 1).toDays * day - 1, none, by decide +kernel⟩

/-- Every number is an odd one: a price that is no number, zeros to divide by, an infinite volume
and prices that do not move. -/
def oddMarket : Market :=
  { observation := fun ticker =>
      some ⟨ticker, 0 / 0, -0.0, 1 / 0, some 0, some (0 / 0), none, none, none, some (-1), dawn⟩
    news := fun ticker => some (.build ticker [⟨"Record loss", none, none, none, none⟩] 0 none)
    prices := fun _ => some (List.replicate 20 ⟨dusk, 1 / 0, 0⟩) }

/-- An alert with the longest cooldown, last fired at the end of time, and with quiet hours by the
clocks furthest west, on an engine that counts by the days furthest east, with all its thresholds at
a bound. -/
def remote : Desk :=
  { engine :=
      { pair.engine with
        settings := { Settings.default with anomaly := ⟨100, 1, 0.5, true, 168⟩ }
        history := ⟨"Etc/GMT-14", 1000, [{ earlier "first" with triggeredAt := dusk }]⟩ }
    alerts := [
      { Alert.eager "first" true with
        kind := .known .anomaly
        frequency := { Frequency.default with cooldownMinutes := ⟨1e12, by decide⟩ }
        quietHours :=
          { QuietHours.default with enabled := true, zone := NamedZone.ofName? "Etc/GMT+12" }
        lastTriggeredAt := some ⟨horizon - 1, none, by decide⟩ }] }

theorem ordinary_never_fails_dawn :
    (∃ seen outcome, oddMarket.observation "ACME" = some seen ∧
      remote.engine.evaluate remote.alerts[0]
        ⟨some seen, oddMarket.news "ACME", oddMarket.prices "ACME"⟩ dawn none "event" =
        .ok outcome ∧
      Division.failing.evaluate remote.engine remote.alerts[0] seen (oddMarket.news "ACME")
        (oddMarket.prices "ACME") dawn none "event" = .ok outcome) ∧
      (remote.reports [0] oddMarket dawn 0).length = 1 ∧
      ∀ evaluation ∈ remote.reports [0] oddMarket dawn 0, evaluation.record.error = none := by
  have bounds : remote.engine.settings.anomaly.WithinBounds :=
    ⟨by decide, by decide, by decide, by decide⟩
  have dated : ∀ event ∈ remote.engine.history.events, event.triggeredAt.IsOrdinary := by
    decide +kernel
  have ordinary : remote.engine.IsOrdinary := ⟨bounds, ⟨_, rfl⟩, dated⟩
  have short : remote.alerts[0].frequency.HasShortCooldown := by
    unfold Frequency.HasShortCooldown
    decide
  obtain ⟨evaluated, reported⟩ :=
    ordinary_never_fails ordinary short (by decide +kernel : dawn.IsOrdinary)
  obtain ⟨outcome, fine, -, guarded⟩ :=
    evaluated _ (oddMarket.news "ACME") (oddMarket.prices "ACME") none "event"
  exact ⟨⟨_, outcome, rfl, fine, guarded .failing⟩,
    remote.length_reports [0] oddMarket dawn (by decide), reported remote 0 rfl rfl [0] oddMarket⟩

end Desk

end MarketAlerts
