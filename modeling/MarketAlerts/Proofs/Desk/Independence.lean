import Mathlib.Data.List.InsertIdx
import Mathlib.Data.List.Nodup
import MarketAlerts.Calendar.ZoneRule
import MarketAlerts.Proofs.Desk.ExactlyOnce
import MarketAlerts.Proofs.Desk.Firing

/-!
Alerts of one tick do not get in each other's way. All of them are evaluated against the state
before anything is recorded, so each is reported on and changed as if it were listed alone, but for
the names of events; and one whose evaluation fails leaves nothing behind but its report and the
log.
-/
namespace MarketAlerts

open Calendar Delivery

def EvaluationOutcome.named (name : String) : EvaluationOutcome → EvaluationOutcome
  | .fired event => .fired { event with id := name }
  | outcome => outcome

/-- An evaluation with another name for its event. -/
def Evaluation.named (name : String) (evaluation : Evaluation) : Evaluation :=
  { evaluation with outcome := evaluation.outcome.named name }

theorem error_of_map {α β : Type} {result : Except Fault α} {f : α → β} {fault : Fault}
    (failed : result.map f = .error fault) : result = .error fault := by
  cases result with
  | error other => exact congrArg Except.error (Except.error.inj failed)
  | ok value => cases failed

theorem getElem?_filterMap_of_isSome {α β : Type} {f : α → Option β} {values : List α}
    (all : ∀ value ∈ values, (f value).isSome) (index : Nat) :
    (values.filterMap f)[index]? = values[index]?.bind f := by
  induction values generalizing index with
  | nil => rfl
  | cons value rest ih =>
    obtain ⟨image, here⟩ := Option.isSome_iff_exists.1 (all value List.mem_cons_self)
    rw [List.filterMap_cons_some here]
    cases index with
    | zero => exact here.symm
    | succ index =>
      exact ih (fun other member => all other (List.mem_cons_of_mem value member)) index

theorem filterMap_eraseIdx {α β : Type} {f : α → Option β} {values : List α} {index : Nat}
    {value : α} (found : values[index]? = some value) (skipped : f value = none) :
    (values.eraseIdx index).filterMap f = values.filterMap f := by
  obtain ⟨bound, here⟩ := List.getElem?_eq_some_iff.1 found
  have parts : values = values.take index ++ value :: values.drop (index + 1) := by
    rw [← here, ← List.drop_eq_getElem_cons, List.take_append_drop]
  rw [List.eraseIdx_eq_take_drop_succ, List.filterMap_append]
  conv_rhs => rw [parts, List.filterMap_append, List.filterMap_cons_none skipped]

namespace Delivery.Loop

/-- A loop without the lines of the log in its journal. -/
def unlogged (loop : DeliveryLoop) : DeliveryLoop :=
  { loop with journal := loop.journal.filter fun entry => match entry.2 with
      | .emitted (.logged _) => false
      | _ => true }

theorem unlogged_log (loop : DeliveryLoop) (lines : List LogLine) :
    (loop.emitAll (lines.map .logged)).unlogged = loop.unlogged := by
  simp [unlogged, emitAll, List.filter_map, Function.comp_def]

theorem unlogged_note (loop : DeliveryLoop) {what : Note String Event Float Dispatch}
    (other : ∀ output, what ≠ .emitted output) :
    (loop.note what).unlogged = loop.unlogged.note what := by
  cases what with
  | emitted output => exact absurd rfl (other output)
  | _ => simp [unlogged, note]

theorem unlogged_dropTimer (loop : DeliveryLoop) (key : String) :
    (loop.dropTimer key).unlogged = loop.unlogged.dropTimer key := by
  have same : loop.unlogged.batcher = loop.batcher := rfl
  unfold dropTimer
  rw [same]
  cases loop.batcher.timers.lookup key <;> rfl

theorem unlogged_add (loop : DeliveryLoop) (key : String) (event : Event) (window : Float)
    (callback : Callback String Event Float Dispatch) :
    (loop.add key event window callback).unlogged =
    loop.unlogged.add key event window callback := by
  have joined : ((loop.dropTimer key).note (.joined key event)).unlogged =
      (loop.unlogged.dropTimer key).note (.joined key event) := by
    rw [unlogged_note _ (by simp), unlogged_dropTimer]
  unfold add
  dsimp only
  rw [← joined]
  split
  · rw [unlogged_note _ (by simp)]
    rfl
  · rfl

end Delivery.Loop

section

variable [Installation]

namespace Engine

variable {engine : Engine} {alert : Alert} {market : Market} {now : Timestamp}

/-- The name of an event has no part in whether there is one. -/
theorem evaluate_named (engine : Engine) (alert : Alert) (evidence : Evidence) (now : Timestamp)
    (count : Option Nat) (id name : String) :
    engine.evaluate alert evidence now count name =
      (engine.evaluate alert evidence now count id).map (EvaluationOutcome.named name) := by
  rw [evaluate_eq, evaluate_eq]
  cases engine.screen alert now.aware count with
  | error fault => rfl
  | ok decision =>
    cases decision with
    | blocked gate reason => rfl
    | passed =>
      rw [ok_bind, ok_bind]
      dsimp only
      cases engine.dispatch alert (engine.informed evidence) now.aware with
      | error fault => rfl
      | ok finding =>
        rw [ok_bind, ok_bind]
        split
        · unfold fire fireWith
          cases (engine.informed evidence).seen <;> rfl
        · rfl

theorem named_evaluateListed (engine : Engine) (alert : Alert) (market : Market) (now : Timestamp)
    (id name : String) :
    (engine.evaluateListed alert market now id).named name =
      engine.evaluateListed alert market now name := by
  unfold evaluateListed Evaluation.named
  dsimp only
  cases market.observation alert.ticker with
  | none => rfl
  | some seen =>
    dsimp only
    rw [evaluate_named engine alert _ now none id name]
    cases engine.evaluate alert _ now none id <;> rfl

theorem evaluateListed_of_error {seen : Observation} {fault : Fault} {id : String}
    (observed : market.observation alert.ticker = some seen)
    (failed : engine.evaluate alert (market.evidence alert.ticker seen) now none id =
    .error fault) :
    engine.evaluateListed alert market now id = ⟨alert.id, alert.ticker, .failed fault⟩ := by
  unfold Market.evidence at failed
  unfold evaluateListed
  simp only [observed, failed]

end Engine

theorem Alert.booked_named (alert : Alert) (now : Timestamp) (evaluation : Evaluation)
    (name : String) : alert.booked now (evaluation.named name) = alert.booked now evaluation := by
  unfold booked Evaluation.named EvaluationOutcome.named
  cases evaluation.outcome <;> rfl

theorem Alert.unlogged_send (alert : Alert) (notifiers : List Notifier) (event : Event)
    (loop : DeliveryLoop) :
    (alert.send notifiers event loop).unlogged = alert.send notifiers event loop.unlogged := by
  unfold send
  split
  · exact loop.unlogged_add _ _ _ _
  · rfl

theorem Engine.unlogged_handle (engine : Engine) (alert : Alert) (event : Event) :
    (engine.handle alert event).loop.unlogged =
      alert.send engine.notifiers event engine.loop.unlogged := by
  have sent : (engine.handle alert event).loop =
      alert.send engine.notifiers event
        (engine.loop.emitAll ([triggerLine alert event].map .logged)) :=
    rfl
  rw [sent, Alert.unlogged_send, Loop.unlogged_log]

namespace Desk

variable {desk : Desk} {listed : List Nat}

/-- What a tick reports on the alert at a position, whatever else is listed. -/
def reportOn (desk : Desk) (market : Market) (now : Timestamp) (name : String) (position : Nat) :
    Option (Nat × Evaluation) :=
  desk.alerts[position]?.map fun alert =>
    (position, desk.engine.evaluateListed (alert.resumeIfDue now.aware).alert market now.aware name)

theorem map_named_reportOn (desk : Desk) (market : Market) (now : Timestamp) (first name : String)
    (position : Nat) :
    (desk.reportOn market now first position).map (Prod.map id (Evaluation.named name)) =
      desk.reportOn market now name position := by
  simp [reportOn, Function.comp_def, Engine.named_evaluateListed]

theorem pick_awake (desk : Desk) (listed : List Nat) (now : Timestamp) :
    (desk.awake listed now).pick listed = listed.filterMap fun position =>
      desk.alerts[position]?.map fun alert => (position, (alert.resumeIfDue now).alert) := by
  apply List.filterMap_congr
  intro position member
  simp [alert_awake, member, Function.comp_def]

/-- Where all positions are known, there is one report for each, in the order of the list. -/
theorem getElem?_judged (known : ∀ position ∈ listed, position < desk.alerts.length)
    (market : Market) (now : Timestamp) (index : Nat) :
    (desk.judged listed market now)[index]? = listed[index]?.bind
      (desk.reportOn market now (desk.engine.nameEvent (desk.engine.tallies.ticks + 1) index)) := by
  obtain ⟨loop, engine⟩ := engine_awake desk listed now.aware
  rw [judged_eq, engine, pick_awake, List.getElem?_mapIdx, getElem?_filterMap_of_isSome]
  · cases listed[index]? with
    | none => rfl
    | some position =>
      simp only [Option.bind_some, reportOn, Option.map_map, Function.comp_def]
      rfl
  · intro position member
    simpa using known position member

/-- The names of events apart, the reports of a tick are those on each alert. -/
theorem map_named_judged (known : ∀ position ∈ listed, position < desk.alerts.length)
    (market : Market) (now : Timestamp) (name : String) :
    (desk.judged listed market now).map (Prod.map id (Evaluation.named name)) =
      listed.filterMap (desk.reportOn market now name) := by
  apply List.ext_getElem?
  intro index
  rw [List.getElem?_map, getElem?_judged known, getElem?_filterMap_of_isSome]
  · cases listed[index]? with
    | none => rfl
    | some position => exact desk.map_named_reportOn market now _ name position
  · intro position member
    simpa [reportOn] using known position member

theorem positions_judged_of_known (known : ∀ position ∈ listed, position < desk.alerts.length)
    (market : Market) (now : Timestamp) : (desk.judged listed market now).map (·.1) = listed := by
  rw [positions_judged, List.filter_eq_self]
  simpa using known

theorem length_evaluations (known : ∀ position ∈ listed, position < desk.alerts.length)
    (market : Market) (now : Timestamp) :
    (desk.tick listed market now).evaluations.length = listed.length := by
  have positions := congrArg List.length (positions_judged_of_known known market now)
  rw [List.length_map] at positions
  rw [evaluations_eq, List.length_map, positions]

theorem getElem?_evaluations (known : ∀ position ∈ listed, position < desk.alerts.length)
    (market : Market) (now : Timestamp) {index position : Nat} {alert : Alert}
    (there : listed[index]? = some position) (found : desk.alerts[position]? = some alert) :
    (desk.tick listed market now).evaluations[index]? =
      some (desk.engine.evaluateListed (alert.resumeIfDue now.aware).alert market now.aware
        (desk.engine.nameEvent (desk.engine.tallies.ticks + 1) index)) := by
  rw [evaluations_eq, List.getElem?_map, getElem?_judged known, there, Option.bind_some, reportOn,
    found]
  rfl

/-- The names of events apart, each alert of a list has its own report. -/
theorem zip_named (known : ∀ position ∈ listed, position < desk.alerts.length) (market : Market)
    (now : Timestamp) (name : String) :
    listed.zip ((desk.tick listed market now).evaluations.map (Evaluation.named name)) =
      listed.filterMap (desk.reportOn market now name) := by
  have pairs : desk.judged listed market now =
      listed.zip (desk.tick listed market now).evaluations :=
    List.zip_of_prod (positions_judged_of_known known market now)
      (evaluations_eq desk listed market now).symm
  rw [List.zip_map_right, ← pairs, map_named_judged known]

/-- What a tick makes of an alert that it lists once, whatever else it lists. -/
def afterTick (desk : Desk) (market : Market) (now : Timestamp) (alert : Alert) : Alert :=
  let woken := (alert.resumeIfDue now.aware).alert
  woken.booked now.aware (desk.engine.evaluateListed woken market now.aware "")

theorem alert_tick_of_nodup (desk : Desk) (distinct : listed.Nodup) (market : Market)
    (now : Timestamp) (position : Nat) :
    (desk.tick listed market now).desk.alerts[position]? = desk.alerts[position]?.map fun alert =>
      if position ∈ listed then desk.afterTick market now alert else alert := by
  by_cases member : position ∈ listed
  · cases found : desk.alerts[position]? with
    | none =>
      rw [alert_tick, alert_awake, found]
      rfl
    | some alert =>
      have once := List.count_eq_one_of_mem distinct member
      obtain ⟨evaluation, id, -, evaluated, settled⟩ := desk.exists_report market now found once
      have named := desk.engine.named_evaluateListed (alert.resumeIfDue now.aware).alert market
        now.aware id ""
      rw [settled, Option.map_some, if_pos member, evaluated, afterTick, ← named,
        Alert.booked_named]
  · rw [desk.alert_tick_of_not_mem market now member]
    simp [member]

/-- The way of an event of the alert at its position. -/
def send (desk : Desk) (loop : DeliveryLoop) (firing : Firing) : DeliveryLoop :=
  match desk.alerts[firing.position]? with
  | none => loop
  | some alert => alert.send desk.engine.notifiers firing.event loop

theorem send_congr {next : Desk}
    (written : next.alerts.map Alert.written = desk.alerts.map Alert.written)
    (notifiers : next.engine.notifiers = desk.engine.notifiers) : next.send = desk.send := by
  funext loop firing
  unfold send
  rw [notifiers]
  split
  · next missing =>
    have gone := List.getElem?_eq_none_iff.1 missing
    have lengths := congrArg List.length written
    rw [List.length_map, List.length_map] at lengths
    rw [List.getElem?_eq_none (lengths ▸ gone)]
  · next alert found =>
    obtain ⟨first, there, alike⟩ := exists_written written found
    rw [there, Alert.send_of_alike (Alert.of_written alike)]

/-- But for the log, firings send one event after the other. -/
theorem Course.unlogged {start finish : Desk} {firings : List Firing}
    (course : Course start firings finish) :
    finish.engine.loop.unlogged = firings.foldl start.send start.engine.loop.unlogged := by
  induction course with
  | done desk => rfl
  | quiet change _ ih =>
    obtain ⟨lines, loop⟩ := change.loop
    rw [ih, send_congr change.written change.notifiers, loop, Loop.unlogged_log]
  | @fire start finish position alert event rest found _ ih =>
    have same : (start.fire position alert event).send = start.send :=
      send_congr (map_set_same found (Alert.written_recordTrigger alert event)) rfl
    rw [ih, same, List.foldl_cons]
    congr 1
    rw [send, found]
    exact Engine.unlogged_handle _ _ _

/-- The desk with one name passed over in each tick, that of a place of the list. -/
def skipName (desk : Desk) (index : Nat) : Desk :=
  { desk with engine := { desk.engine with
      nameEvent := fun tick place =>
        desk.engine.nameEvent tick (if place < index then place else place + 1) } }

theorem judged_eraseIdx (known : ∀ position ∈ listed, position < desk.alerts.length)
    (market : Market) (now : Timestamp) (index : Nat) :
    (desk.skipName index).judged (listed.eraseIdx index) market now =
      (desk.judged listed market now).eraseIdx index := by
  have fewer : ∀ position ∈ listed.eraseIdx index, position < (desk.skipName index).alerts.length :=
    fun position member => known position (List.mem_of_mem_eraseIdx member)
  apply List.ext_getElem?
  intro place
  rw [getElem?_judged fewer, List.getElem?_eraseIdx, List.getElem?_eraseIdx, getElem?_judged known,
    getElem?_judged known]
  have named :
      (desk.skipName index).engine.nameEvent ((desk.skipName index).engine.tallies.ticks + 1)
      place = desk.engine.nameEvent (desk.engine.tallies.ticks + 1)
        (if place < index then place else place + 1) := rfl
  rw [named]
  split <;> rfl

/-- An alert fares as if it were listed alone. -/
theorem tick_alone (distinct : listed.Nodup)
    (known : ∀ position ∈ listed, position < desk.alerts.length) (market : Market) (now : Timestamp)
    {index position : Nat} (there : listed[index]? = some position) :
    let alone := desk.tick [position] market now
    ∃ alert evaluation, desk.alerts[position]? = some alert ∧
      (desk.tick listed market now).evaluations[index]? = some evaluation ∧
      evaluation.alertId = alert.id ∧
      alone.evaluations =
        [evaluation.named (desk.engine.nameEvent (desk.engine.tallies.ticks + 1) 0)] ∧
      alone.desk.alerts[position]? = (desk.tick listed market now).desk.alerts[position]? := by
  intro alone
  have member := List.mem_of_getElem? there
  have bound := known position member
  have found := List.getElem?_eq_getElem bound
  have within : ∀ other ∈ [position], other < desk.alerts.length := by simpa using bound
  have alike := Alert.of_lasting (desk.alerts[position].lasting_resumeIfDue now.aware)
  refine ⟨_, _, found, getElem?_evaluations known market now there found, alike.id, ?_, ?_⟩
  · obtain ⟨only, one⟩ := List.length_eq_one_iff.1 (length_evaluations within market now)
    have zero : [position][0]? = some position := rfl
    have first := getElem?_evaluations within market now zero found
    rw [one] at first
    rw [Engine.named_evaluateListed]
    exact one.trans (congrArg (fun evaluation => [evaluation]) (Option.some.inj first))
  · rw [desk.alert_tick_of_nodup (List.nodup_singleton position) market now position,
      desk.alert_tick_of_nodup distinct market now position]
    simp only [member, List.mem_singleton]

/-- The order of the list is the order of the reports and nothing else. -/
theorem tick_perm (distinct : listed.Nodup)
    (known : ∀ position ∈ listed, position < desk.alerts.length) (market : Market) (now : Timestamp)
    {other : List Nat} (perm : other.Perm listed) :
    (other.zip ((desk.tick other market now).evaluations.map (Evaluation.named ""))).Perm
      (listed.zip ((desk.tick listed market now).evaluations.map (Evaluation.named ""))) ∧
    (desk.tick other market now).desk.alerts = (desk.tick listed market now).desk.alerts := by
  have alike : ∀ position ∈ other, position < desk.alerts.length :=
    fun position member => known position (perm.mem_iff.1 member)
  refine ⟨?_, List.ext_getElem? fun position => ?_⟩
  · rw [zip_named alike, zip_named known]
    exact perm.filterMap _
  · rw [desk.alert_tick_of_nodup (perm.nodup_iff.2 distinct) market now position,
      desk.alert_tick_of_nodup distinct market now position]
    simp only [perm.mem_iff]

/-- A report of a failure, under whatever name an event would have had. -/
theorem reportOn_of_error {market : Market} {now : Timestamp} {position : Nat} {alert : Alert}
    {seen : Observation} {fault : Fault} (found : desk.alerts[position]? = some alert)
    (observed : market.observation alert.ticker = some seen)
    (failed : desk.engine.evaluate (alert.resumeIfDue now.aware).alert
      (market.evidence alert.ticker seen) now none "" = .error fault) (name : String) :
    desk.reportOn market now name position =
      some (position, ⟨alert.id, alert.ticker, .failed fault⟩) := by
  have alike := Alert.of_lasting (alert.lasting_resumeIfDue now.aware)
  rw [← alike.ticker] at observed failed
  let woken := (alert.resumeIfDue now.aware).alert
  have report := desk.engine.named_evaluateListed woken market now.aware "" name
  have unnamed : desk.engine.evaluateListed woken market now.aware "" =
      ⟨woken.id, woken.ticker, .failed fault⟩ := Engine.evaluateListed_of_error observed failed
  rw [unnamed] at report
  rw [reportOn, found, Option.map_some, ← report, alike.id, alike.ticker]
  rfl

theorem afterTick_of_error {market : Market} {now : Timestamp} {position : Nat} {alert : Alert}
    {fault : Fault} (found : desk.alerts[position]? = some alert)
    (report : desk.reportOn market now "" position =
      some (position, ⟨alert.id, alert.ticker, .failed fault⟩)) :
    desk.afterTick market now alert = (alert.resumeIfDue now.aware).alert := by
  rw [reportOn, found, Option.map_some] at report
  have evaluated := congrArg Prod.snd (Option.some.inj report)
  dsimp only at evaluated
  rw [afterTick, evaluated]
  rfl

/-- The other alerts fare as if one of the list were not on it. -/
theorem alert_eraseIdx (distinct : listed.Nodup) (market : Market) (now : Timestamp)
    {index position place : Nat} (there : listed[index]? = some position)
    (apart : place ≠ position) : (desk.tick listed market now).desk.alerts[place]? =
      ((desk.skipName index).tick (listed.eraseIdx index) market now).desk.alerts[place]? := by
  have others : place ∈ listed.eraseIdx index ↔ place ∈ listed := by
    refine ⟨List.mem_of_mem_eraseIdx, fun member => ?_⟩
    obtain ⟨spot, here⟩ := List.getElem?_of_mem member
    refine List.mem_eraseIdx_iff_getElem?.2 ⟨spot, ?_, here⟩
    rintro rfl
    exact apart (Option.some.inj (here.symm.trans there))
  rw [desk.alert_tick_of_nodup distinct,
    (desk.skipName index).alert_tick_of_nodup (distinct.eraseIdx index)]
  simp only [others]
  rfl

/-- An alert whose evaluation fails is reported and woken, and all else is as if it were not
listed. -/
theorem tick_without (distinct : listed.Nodup)
    (known : ∀ position ∈ listed, position < desk.alerts.length) {market : Market} {now : Timestamp}
    {index position : Nat} {alert : Alert} {fault : Fault} (there : listed[index]? = some position)
    (found : desk.alerts[position]? = some alert)
    (report : ∀ name, desk.reportOn market now name position =
      some (position, ⟨alert.id, alert.ticker, .failed fault⟩)) :
    let result := desk.tick listed market now
    let rest := (desk.skipName index).tick (listed.eraseIdx index) market now
    result.evaluations[index]? = some ⟨alert.id, alert.ticker, .failed fault⟩ ∧
    rest.evaluations = result.evaluations.eraseIdx index ∧
    result.desk.alerts = rest.desk.alerts.set position (alert.resumeIfDue now.aware).alert ∧
    result.desk.engine.history = rest.desk.engine.history ∧
    result.desk.engine.loop.unlogged = rest.desk.engine.loop.unlogged := by
  intro result rest
  have judged := judged_eraseIdx known market now index
  have own : (desk.judged listed market now)[index]? =
      some (position, ⟨alert.id, alert.ticker, .failed fault⟩) := by
    rw [getElem?_judged known, there, Option.bind_some, report]
  have fired : (desk.skipName index).fired (.tick (listed.eraseIdx index) market now) =
      desk.fired (.tick listed market now) := by
    rw [Desk.fired, Desk.fired, judged]
    exact filterMap_eraseIdx own rfl
  have course := course_tick desk listed market now
  have less := course_tick (desk.skipName index) (listed.eraseIdx index) market now
  rw [fired] at less
  refine ⟨?reported, ?others, List.ext_getElem? fun place => ?alerts, ?history, ?loop⟩
  case reported => rw [evaluations_eq, List.getElem?_map, own, Option.map_some]
  case others => rw [evaluations_eq, evaluations_eq, judged, List.eraseIdx_map]
  case alerts =>
    rw [List.getElem?_set]
    by_cases here : position = place
    · subst here
      have lengths := congrArg List.length less.written
      rw [List.length_map, List.length_map] at lengths
      have long : position < rest.desk.alerts.length :=
        lengths ▸ (List.getElem?_eq_some_iff.1 found).1
      rw [if_pos rfl, if_pos long, desk.alert_tick_of_nodup distinct, found, Option.map_some,
        if_pos (List.mem_of_getElem? there), afterTick_of_error found (report "")]
    · rw [if_neg here]
      exact alert_eraseIdx distinct market now there (Ne.symm here)
  case history => exact course.history.trans less.history.symm
  case loop => exact course.unlogged.trans less.unlogged.symm

/-- Alerts of one tick do not interfere. Each has one report, in the order of the list, and report
and alert are those of a tick that lists this alert only, the name of the event apart. So the order
of the list is of no account. An alert whose evaluation fails has its fault reported and stays as it
was when it woke; history, batches and deliveries, and all other alerts and reports, are as if it
were absent. -/
theorem tick_independent (desk : Desk) (distinct : listed.Nodup)
    (known : ∀ position ∈ listed, position < desk.alerts.length) (market : Market)
    (now : Timestamp) : let result := desk.tick listed market now
    result.evaluations.length = listed.length ∧
    (∀ index position : Nat, listed[index]? = some position →
      let alone := desk.tick [position] market now
      ∃ alert evaluation, desk.alerts[position]? = some alert ∧
        result.evaluations[index]? = some evaluation ∧ evaluation.alertId = alert.id ∧
        alone.evaluations =
          [evaluation.named (desk.engine.nameEvent (desk.engine.tallies.ticks + 1) 0)] ∧
        alone.desk.alerts[position]? = result.desk.alerts[position]?) ∧
    (∀ other : List Nat, other.Perm listed →
      let reordered := desk.tick other market now
      (other.zip (reordered.evaluations.map (Evaluation.named ""))).Perm
        (listed.zip (result.evaluations.map (Evaluation.named ""))) ∧
      reordered.desk.alerts = result.desk.alerts) ∧
    (∀ (index position : Nat) (alert : Alert) (seen : Observation) (fault : Fault),
      listed[index]? = some position → desk.alerts[position]? = some alert →
      market.observation alert.ticker = some seen →
      let woken := (alert.resumeIfDue now.aware).alert
      desk.engine.evaluate woken (market.evidence alert.ticker seen) now none "" = .error fault →
      let rest := (desk.skipName index).tick (listed.eraseIdx index) market now
      (∃ evaluation, result.evaluations[index]? = some evaluation ∧ evaluation.record =
        { alertId := alert.id, ticker := alert.ticker, error := some fault.message }) ∧
      rest.evaluations = result.evaluations.eraseIdx index ∧
      result.desk.alerts = rest.desk.alerts.set position woken ∧
      result.desk.engine.history = rest.desk.engine.history ∧
      result.desk.engine.loop.unlogged = rest.desk.engine.loop.unlogged) := by
  intro result
  refine ⟨length_evaluations known market now, ?alone, ?reordered, ?without⟩
  case alone => exact fun index position there => tick_alone distinct known market now there
  case reordered => exact fun other perm => tick_perm distinct known market now perm
  case without =>
    intro index position alert seen fault there found observed woken failed rest
    have report := reportOn_of_error found observed failed
    obtain ⟨reported, others⟩ := tick_without distinct known there found report
    exact ⟨⟨_, reported, rfl⟩, others⟩

end Desk

end

namespace Desk

/-- Between two alerts that fire stands one whose cooldown is more than a span of time can hold. -/
def mishap : Desk :=
  { pair with
    alerts := [.eager "first" true,
      { Alert.eager "endless" false with
        lastTriggeredAt := some (oClock 11)
        frequency := { Frequency.default with cooldownMinutes := ⟨1e300, by decide +kernel⟩ } },
      .eager "third" false] }

theorem mishap_apart :
    let result := mishap.tick [2, 1, 0] .steady (oClock 12)
    let rest := (mishap.skipName 1).tick [2, 0] .steady (oClock 12)
    (result.evaluations[1]?.map fun evaluation => evaluation.record.error) =
      some (some Fault.spanTooLong.message) ∧
    rest.evaluations = result.evaluations.eraseIdx 1 ∧
    (rest.evaluations.filterMap Evaluation.event?).map (·.id) = ["1-0", "1-2"] := by
  have distinct : [2, 1, 0].Nodup := by decide
  have known : ∀ position ∈ [2, 1, 0], position < mishap.alerts.length := by decide
  have watched : mishap.alerts[1]? = some mishap.alerts[1] := rfl
  have failed : (mishap.engine.evaluate (mishap.alerts[1].resumeIfDue (oClock 12).aware).alert
      (Market.steady.evidence "ACME" ⟨"ACME", 2, 2, 100, none, none, none, none, none, none,
        ⟨0, none, by decide⟩⟩) (oClock 12) none "").map (fun _ => ()) = .error .spanTooLong := by
    decide +kernel
  obtain ⟨_, _, _, without⟩ := mishap.tick_independent distinct known .steady (oClock 12)
  obtain ⟨⟨evaluation, reported, record⟩, others, _⟩ :=
    without 1 1 _ _ _ rfl watched rfl (error_of_map failed)
  refine ⟨?_, others, by decide +kernel⟩
  rw [reported, Option.map_some, record]

end Desk

end MarketAlerts
