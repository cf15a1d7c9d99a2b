import MarketAlerts.Proofs.Alert.Operations
import MarketAlerts.Proofs.Engine.Verdict

/-!
A tick as one of its alerts sees it. What becomes of an alert is decided by its own reports alone,
and each of these evaluates the alert as the tick found it once its snooze was over.
-/
namespace MarketAlerts

open Calendar Delivery

namespace Desk

/-- Evaluations at a position of a list of them. -/
def reportsIn (judged : List (Nat × Evaluation)) (position : Nat) : List Evaluation :=
  (judged.filter fun entry => entry.1 = position).map (·.2)

theorem reportsIn_cons (entry : Nat × Evaluation) (rest : List (Nat × Evaluation))
    (position : Nat) : reportsIn (entry :: rest) position =
      (if entry.1 = position then [entry.2] else []) ++ reportsIn rest position := by
  by_cases here : entry.1 = position <;> simp [reportsIn, here]

/-- What fires at a position is what its reports say. -/
theorem firedAt_firingsOf (judged : List (Nat × Evaluation)) (position : Nat) :
    firedAt position (firingsOf judged) =
      (reportsIn judged position).filterMap Evaluation.event? := by
  induction judged with
  | nil => rfl
  | cons entry rest ih =>
    rw [firingsOf_cons, firedAt_append, ih, reportsIn_cons, List.filterMap_append]
    congr 1
    by_cases here : entry.1 = position <;> cases fired : entry.2.event? <;>
      simp [firedAt, here, fired]

end Desk

variable [Installation]

/-- What keeping book of an evaluation makes of its alert. -/
def Alert.booked (now : Timestamp) (alert : Alert) (evaluation : Evaluation) : Alert :=
  match evaluation.outcome with
  | .blocked .expiry _ => (alert.expire now).alert
  | .fired event => alert.recordTrigger event
  | _ => alert

/-- Nobody has to be woken twice. -/
theorem Alert.resumeIfDue_twice (alert : Alert) (now : Timestamp) :
    ((alert.resumeIfDue now).alert.resumeIfDue now).alert = (alert.resumeIfDue now).alert := by
  by_cases due : alert.isDue now = true
  · have woken : (alert.resumeIfDue now).alert =
        { alert with status := .active, snoozedUntil := none, updatedAt := now } := by
      rw [resumeIfDue, if_pos due]
    rw [woken]
    simp [resumeIfDue, isDue]
  · have still : (alert.resumeIfDue now).alert = alert := by rw [resumeIfDue, if_neg due]
    rw [still, still]

namespace Desk

theorem alerts_change {α : Type} (desk : Desk) (position : Nat) (operation : Alert → Change α) :
    (desk.change position operation).alerts =
      desk.alerts.modify position fun alert => (operation alert).alert := by
  apply List.ext_getElem?
  intro place
  rw [List.getElem?_modify]
  unfold change
  split
  · next missing =>
    by_cases here : position = place
    · subst here
      rw [missing]
      rfl
    · simp [here]
  · next alert found =>
    have bound := (List.getElem?_eq_some_iff.1 found).1
    by_cases here : position = place
    · subst here
      simp [List.getElem?_set_self bound, found]
    · simp [List.getElem?_set_ne here, here]

theorem alerts_obey (desk : Desk) (position : Nat) (now : Timestamp) (command : Command) :
    (desk.obey position now command).alerts =
      desk.alerts.modify position fun alert => (alert.obey now command).alert := by
  cases command <;> exact alerts_change desk position _

/-- Keeping book of an evaluation touches its own alert only. -/
theorem alerts_absorb (desk : Desk) (now : Timestamp) (position : Nat) (evaluation : Evaluation) :
    (desk.absorb now position evaluation).alerts =
      desk.alerts.modify position fun alert => alert.booked now evaluation := by
  unfold absorb Alert.booked
  cases evaluation.outcome with
  | blocked gate reason =>
    cases gate with
    | expiry => exact alerts_change _ position fun alert => alert.expire now
    | _ => exact (List.modify_id position desk.alerts).symm
  | fired event =>
    have changed := alerts_change desk position fun alert =>
      Change.mk (alert.recordTrigger event) (.ok ()) []
    refine Eq.trans ?_ changed
    unfold change
    dsimp only
    cases desk.alerts[position]? <;> rfl
  | _ => exact (List.modify_id position desk.alerts).symm

/-- The alerts of a tick, awake where their snooze is over. -/
theorem alert_resumeAll (desk : Desk) (now : Timestamp) (listed : List Nat) (position : Nat) :
    (desk.resumeAll now listed).alerts[position]? = desk.alerts[position]?.map fun alert =>
      if position ∈ listed then (alert.resumeIfDue now).alert else alert := by
  induction listed generalizing desk with
  | nil => simp [resumeAll]
  | cons place rest ih =>
    have first : (desk.resumeAll now (place :: rest)) =
        (desk.change place (·.resumeIfDue now)).resumeAll now rest := rfl
    rw [first, ih, alerts_change, List.getElem?_modify]
    cases desk.alerts[position]? with
    | none => rfl
    | some alert =>
      by_cases here : place = position
      · subst here
        by_cases again : place ∈ rest <;> simp [again, Alert.resumeIfDue_twice]
      · simp [here, Ne.symm here]

theorem alert_awake (desk : Desk) (listed : List Nat) (now : Timestamp) (position : Nat) :
    (desk.awake listed now).alerts[position]? = desk.alerts[position]?.map fun alert =>
      if position ∈ listed then (alert.resumeIfDue now).alert else alert :=
  alert_resumeAll _ now listed position

/-- The reports of a tick on the alert at a position. -/
def reports (desk : Desk) (listed : List Nat) (market : Market) (now : Timestamp) (position : Nat) :
    List Evaluation :=
  reportsIn (desk.judged listed market now) position

theorem firedAt_tick (desk : Desk) (listed : List Nat) (market : Market) (now : Timestamp)
    (position : Nat) : firedAt position (desk.fired (.tick listed market now)) =
      (desk.reports listed market now position).filterMap Evaluation.event? :=
  firedAt_firingsOf _ position

/-- Of all the evaluations an alert is changed by its own. -/
theorem alert_absorbed (now : Timestamp) (judged : List (Nat × Evaluation)) (desk : Desk)
    (position : Nat) :
    (judged.foldl (fun (desk : Desk) (place, evaluation) => desk.absorb now place evaluation)
      desk).alerts[position]? =
      desk.alerts[position]?.map fun alert =>
        (reportsIn judged position).foldl (Alert.booked now) alert := by
  induction judged generalizing desk with
  | nil => simp [reportsIn]
  | cons entry rest ih =>
    rw [List.foldl_cons, ih, alerts_absorb, List.getElem?_modify, reportsIn_cons]
    cases desk.alerts[position]? with
    | none => rfl
    | some alert => by_cases here : entry.1 = position <;> simp [here]

/-- What a tick makes of an alert: it wakes where it is due, and then its reports are kept book
of. -/
theorem alert_tick (desk : Desk) (listed : List Nat) (market : Market) (now : Timestamp)
    (position : Nat) : (desk.tick listed market now).desk.alerts[position]? =
      ((desk.awake listed now.aware).alerts[position]?).map fun alert =>
        (desk.reports listed market now position).foldl (Alert.booked now.aware) alert := by
  obtain ⟨lines, summary, done⟩ := desk.desk_tick listed market now
  rw [done]
  exact alert_absorbed now.aware (desk.judged listed market now) _ position

/-- Waking alerts only writes to the log. -/
theorem engine_resumeAll (desk : Desk) (now : Timestamp) (listed : List Nat) :
    ∃ loop, (desk.resumeAll now listed).engine = { desk.engine with loop } := by
  induction listed generalizing desk with
  | nil => exact ⟨_, rfl⟩
  | cons place rest ih =>
    obtain ⟨loop, later⟩ := ih (desk.change place (·.resumeIfDue now))
    have first : ∃ loop, (desk.change place (·.resumeIfDue now)).engine =
        { desk.engine with loop } := by
      unfold change
      split
      · exact ⟨_, rfl⟩
      · exact ⟨_, rfl⟩
    obtain ⟨_, first⟩ := first
    refine ⟨loop, ?_⟩
    rw [first] at later
    exact later

/-- Besides the log only the number of ticks is another one when a tick begins. -/
theorem engine_awake (desk : Desk) (listed : List Nat) (now : Timestamp) :
    ∃ loop, (desk.awake listed now).engine =
      { desk.engine with
        loop
        tallies := { desk.engine.tallies with ticks := desk.engine.tallies.ticks + 1 } } :=
  engine_resumeAll _ now listed

/-- A report evaluates its alert as the tick finds it. -/
theorem eq_of_mem_reports {desk : Desk} {listed : List Nat} {market : Market} {now : Timestamp}
    {position : Nat} {evaluation : Evaluation}
    (member : evaluation ∈ desk.reports listed market now position) {woken : Alert}
    (found : (desk.awake listed now.aware).alerts[position]? = some woken) :
    ∃ id, evaluation = desk.engine.evaluateListed woken market now.aware id := by
  obtain ⟨⟨place, report⟩, entry, rfl⟩ := List.mem_map.1 member
  obtain ⟨judged, here⟩ := List.mem_filter.1 entry
  obtain rfl : place = position := of_decide_eq_true here
  obtain ⟨alert, id, there, evaluated⟩ := of_mem_judged judged
  obtain rfl : alert = woken := Option.some.inj (there.symm.trans found)
  obtain ⟨loop, engine⟩ := engine_awake desk listed now.aware
  refine ⟨id, ?_⟩
  rw [evaluated, engine]
  rfl

/-- An alert has as many reports as it is listed. -/
theorem length_reports (desk : Desk) (listed : List Nat) (market : Market) (now : Timestamp)
    {position : Nat} (known : position < desk.alerts.length) :
    (desk.reports listed market now position).length = listed.count position := by
  have positions := positions_judged desk listed market now
  calc (desk.reports listed market now position).length
      = (desk.judged listed market now).countP (fun entry => entry.1 = position) := by
        rw [reports, reportsIn, List.length_map, List.countP_eq_length_filter]
    _ = ((desk.judged listed market now).map (·.1)).count position := by
        rw [List.count, List.countP_map]
        rfl
    _ = listed.count position := by
        rw [positions, List.count_filter (by simpa using known)]

/-- An alert that is listed once has one report, which evaluates it as it stands once its snooze is
over, and keeping book of this report is all that the tick does to it. -/
theorem exists_report (desk : Desk) {listed : List Nat} (market : Market) (now : Timestamp)
    {position : Nat} {alert : Alert} (found : desk.alerts[position]? = some alert)
    (once : listed.count position = 1) :
    let woken := (alert.resumeIfDue now.aware).alert
    ∃ evaluation id, desk.reports listed market now position = [evaluation] ∧
      evaluation = desk.engine.evaluateListed woken market now.aware id ∧
      (desk.tick listed market now).desk.alerts[position]? =
        some (woken.booked now.aware evaluation) := by
  intro woken
  have member : position ∈ listed := List.count_pos_iff.1 (once ▸ Nat.one_pos)
  have awake : (desk.awake listed now.aware).alerts[position]? = some woken := by
    rw [alert_awake, found, Option.map_some, if_pos member]
  have known : position < desk.alerts.length := (List.getElem?_eq_some_iff.1 found).1
  obtain ⟨evaluation, report⟩ :=
    List.length_eq_one_iff.1 ((desk.length_reports listed market now known).trans once)
  obtain ⟨id, evaluated⟩ := eq_of_mem_reports (report ▸ List.mem_singleton_self evaluation) awake
  refine ⟨evaluation, id, report, evaluated, ?_⟩
  rw [desk.alert_tick, awake, report]
  rfl

/-- An alert that is not listed is left as it is. -/
theorem alert_tick_of_not_mem (desk : Desk) {listed : List Nat} (market : Market) (now : Timestamp)
    {position : Nat} (absent : position ∉ listed) :
    (desk.tick listed market now).desk.alerts[position]? = desk.alerts[position]? := by
  rw [alert_tick, alert_awake]
  cases found : desk.alerts[position]? with
  | none => rfl
  | some alert =>
    have known : position < desk.alerts.length := (List.getElem?_eq_some_iff.1 found).1
    have silent : desk.reports listed market now position = [] := by
      rw [← List.length_eq_zero_iff, desk.length_reports listed market now known,
        List.count_eq_zero_of_not_mem absent]
    simp [silent, absent]

end Desk

end MarketAlerts
