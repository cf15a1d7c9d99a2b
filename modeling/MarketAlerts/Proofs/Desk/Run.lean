import MarketAlerts.Proofs.Engine.Evaluation

/-!
Runs of a desk: ticks, operations of a user on alerts, moves of the loop's clock and shutdowns, in
any order. A tick is a sequence of firings, one event at a time; besides these it changes no more
than the status of alerts and the log, and so does a user.
-/
namespace MarketAlerts

open Calendar Delivery

/-- What a user does to an alert. -/
inductive Command
  | snooze (hours : Number.Quantity)
  | resume
  | toggle
  | dismiss
  | expire

inductive Move
  | tick (listed : List Nat) (market : Market) (now : Timestamp)
  | command (position : Nat) (command : Command) (now : Timestamp)
  | advance (seconds : Float)
  | settle
  | shutdown
  | clearHistory

/-- An event with the position of the alert that fired it. -/
structure Firing where
  position : Nat
  event : Event

/-- The events of the alert at a position. -/
def firedAt (position : Nat) (firings : List Firing) : List Event :=
  (firings.filter fun firing => firing.position = position).map (·.event)

theorem firedAt_append (position : Nat) (firings more : List Firing) :
    firedAt position (firings ++ more) = firedAt position firings ++ firedAt position more := by
  simp [firedAt]

theorem firedAt_cons (position : Nat) (firing : Firing) (rest : List Firing) :
    firedAt position (firing :: rest) =
      (if firing.position = position then [firing.event] else []) ++ firedAt position rest := by
  by_cases here : firing.position = position <;> simp [firedAt, here]

/-- Where no position comes twice, a position has one event or none. -/
theorem firedAt_of_nodup {firings : List Firing} (once : (firings.map (·.position)).Nodup)
    (position : Nat) : firedAt position firings = [] ∨
      ∃ event, ⟨position, event⟩ ∈ firings ∧ firedAt position firings = [event] := by
  induction firings with
  | nil => exact .inl rfl
  | cons firing rest ih =>
    rw [List.map_cons, List.nodup_cons] at once
    rw [firedAt_cons]
    by_cases here : firing.position = position
    · subst here
      have nothing : firedAt firing.position rest = [] := by
        rw [firedAt, List.map_eq_nil_iff, List.filter_eq_nil_iff]
        intro other member same
        exact once.1 (List.mem_map.2 ⟨other, member, by simpa using same⟩)
      rw [if_pos rfl, nothing, List.append_nil]
      exact .inr ⟨firing.event, List.mem_cons_self, rfl⟩
    · rw [if_neg here, List.nil_append]
      rcases ih once.2 with nothing | ⟨event, member, one⟩
      · exact .inl nothing
      · exact .inr ⟨event, List.mem_cons_of_mem _ member, one⟩

theorem map_set_same {α β : Type} {f : α → β} {values : List α} {position : Nat} {old new : α}
    (found : values[position]? = some old) (same : f new = f old) :
    (values.set position new).map f = values.map f := by
  have here := (List.getElem?_eq_some_iff.1 found).1
  apply List.ext_getElem?
  intro place
  rw [List.getElem?_map, List.getElem?_map, List.getElem?_set, if_pos here]
  split
  · next there =>
    subst there
    rw [found, Option.map_some, Option.map_some, same]
  · rfl

theorem exists_of_map_eq {α β : Type} {f : α → β} {before after : List α}
    (same : after.map f = before.map f) {position : Nat} {value : α}
    (found : after[position]? = some value) :
    ∃ first, before[position]? = some first ∧ f value = f first := by
  have here := congrArg (·[position]?) same
  simp only [List.getElem?_map, found, Option.map_some] at here
  obtain ⟨first, there, alike⟩ := Option.map_eq_some_iff.1 here.symm
  exact ⟨first, there, alike.symm⟩

namespace Desk

/-- The events of evaluations, with their positions. -/
def firingsOf (judged : List (Nat × Evaluation)) : List Firing :=
  judged.filterMap fun (position, evaluation) => evaluation.event?.map (Firing.mk position)

theorem firingsOf_cons (entry : Nat × Evaluation) (rest : List (Nat × Evaluation)) :
    firingsOf (entry :: rest) =
      (entry.2.event?.map (Firing.mk entry.1)).toList ++ firingsOf rest := by
  cases fired : entry.2.event? <;> simp [firingsOf, fired]

theorem positions_firingsOf (judged : List (Nat × Evaluation)) :
    ((firingsOf judged).map (·.position)).Sublist (judged.map (·.1)) := by
  induction judged with
  | nil => exact List.Sublist.refl _
  | cons entry rest ih =>
    rw [firingsOf_cons]
    cases entry.2.event? with
    | none => exact ih.cons _
    | some event => exact ih.cons_cons _

end Desk

variable [Installation]

namespace Desk

def obey (desk : Desk) (position : Nat) (now : Timestamp) : Command → Desk
  | .snooze hours => desk.change position (·.snooze hours now)
  | .resume => desk.change position (·.resumeIfDue now)
  | .toggle => desk.change position fun alert => Change.mk (alert.toggle now) (.ok ()) []
  | .dismiss => desk.change position fun alert => Change.mk (alert.dismiss now) (.ok ()) []
  | .expire => desk.change position (·.expire now)

def move (desk : Desk) : Move → Desk
  | .tick listed market now => (desk.tick listed market now).desk
  | .command position command now => desk.obey position now command
  | .advance seconds => { desk with engine := desk.engine.advance seconds }
  | .settle => { desk with engine := desk.engine.settle }
  | .shutdown => { desk with engine := desk.engine.shutdown }
  | .clearHistory =>
    { desk with engine := { desk.engine with history := desk.engine.history.clear } }

def run (desk : Desk) (moves : List Move) : Desk := moves.foldl move desk

/-- The evaluations of a tick with the positions of their alerts. -/
def judged (desk : Desk) (listed : List Nat) (market : Market) (now : Timestamp) :
    List (Nat × Evaluation) :=
  ((desk.pick listed).map (·.1)).zip (desk.tick listed market now).evaluations

/-- What fires in one move. -/
def fired (desk : Desk) : Move → List Firing
  | .tick listed market now => firingsOf (desk.judged listed market now)
  | _ => []

/-- What fires in a run. -/
def firings (desk : Desk) : List Move → List Firing
  | [] => []
  | move :: rest => desk.fired move ++ (desk.move move).firings rest

end Desk

/-- Each alert is listed at most once. -/
def Move.ListsOnce : Move → Prop
  | .tick listed _ _ => listed.Nodup
  | _ => True

/-- An alert without what its user may change. -/
def Alert.lasting (alert : Alert) : Alert :=
  { alert with status := .active, snoozedUntil := none, updatedAt := alert.createdAt }

/-- An alert without its bookkeeping. -/
def Alert.written (alert : Alert) : Alert :=
  { alert.lasting with lastTriggeredAt := none, triggeredCount := 0 }

namespace Alert

@[simp] theorem lasting_expire (alert : Alert) (now : Timestamp) :
    (alert.expire now).alert.lasting = alert.lasting := by
  unfold expire
  split <;> rfl

@[simp] theorem lasting_snooze (alert : Alert) (hours : Number.Quantity) (now : Timestamp) :
    (alert.snooze hours now).alert.lasting = alert.lasting := by
  unfold snooze
  dsimp only
  split <;> rfl

@[simp] theorem lasting_resumeIfDue (alert : Alert) (now : Timestamp) :
    (alert.resumeIfDue now).alert.lasting = alert.lasting := by
  unfold resumeIfDue
  split <;> rfl

@[simp] theorem lasting_dismiss (alert : Alert) (now : Timestamp) :
    (alert.dismiss now).lasting = alert.lasting := rfl

@[simp] theorem lasting_toggle (alert : Alert) (now : Timestamp) :
    (alert.toggle now).lasting = alert.lasting := rfl

/-- What two alerts that were written alike have in common. -/
structure Alike (a b : Alert) : Prop where
  id : a.id = b.id
  ticker : a.ticker = b.ticker
  frequency : a.frequency = b.frequency

theorem Alike.symm {a b : Alert} (same : Alike a b) : Alike b a :=
  ⟨same.id.symm, same.ticker.symm, same.frequency.symm⟩

theorem of_written {a b : Alert} (same : a.written = b.written) : Alike a b where
  id := show a.written.id = b.written.id by rw [same]
  ticker := show a.written.ticker = b.written.ticker by rw [same]
  frequency := show a.written.frequency = b.written.frequency by rw [same]

theorem of_lasting {a b : Alert} (same : a.lasting = b.lasting) : Alike a b := by
  apply of_written
  unfold written
  rw [same]

theorem lastTriggeredAt_of_lasting {a b : Alert} (same : a.lasting = b.lasting) :
    a.lastTriggeredAt = b.lastTriggeredAt :=
  show a.lasting.lastTriggeredAt = b.lasting.lastTriggeredAt by rw [same]

@[simp] theorem written_recordTrigger (alert : Alert) (event : Event) :
    (alert.recordTrigger event).written = alert.written := rfl

end Alert

namespace Desk

/-- Nothing but the status of alerts, the tallies and the log differs. -/
structure Quiet (before after : Desk) : Prop where
  alerts : after.alerts.map Alert.lasting = before.alerts.map Alert.lasting
  settings : after.engine.settings = before.engine.settings
  history : after.engine.history = before.engine.history
  notifiers : after.engine.notifiers = before.engine.notifiers
  loop : ∃ lines : List LogLine, after.engine.loop = before.engine.loop.emitAll (lines.map .logged)

namespace Quiet

theorem refl (desk : Desk) : Quiet desk desk where
  alerts := rfl
  settings := rfl
  history := rfl
  notifiers := rfl
  loop := ⟨[], by simp [Loop.emitAll]⟩

theorem trans {a b c : Desk} (first : Quiet a b) (second : Quiet b c) : Quiet a c where
  alerts := second.alerts.trans first.alerts
  settings := second.settings.trans first.settings
  history := second.history.trans first.history
  notifiers := second.notifiers.trans first.notifiers
  loop := by
    obtain ⟨lines, one⟩ := first.loop
    obtain ⟨more, two⟩ := second.loop
    refine ⟨lines ++ more, ?_⟩
    rw [two, one]
    simp [Loop.emitAll]

theorem length {before after : Desk} (quiet : Quiet before after) :
    after.alerts.length = before.alerts.length := by
  simpa using congrArg List.length quiet.alerts

/-- Every alert stays at its position, with what lasts of it. -/
theorem exists_lasting {before after : Desk} (quiet : Quiet before after) {position : Nat}
    {alert : Alert} (found : after.alerts[position]? = some alert) :
    ∃ first, before.alerts[position]? = some first ∧ alert.lasting = first.lasting :=
  exists_of_map_eq quiet.alerts found

theorem tally (desk : Desk) (update : Tallies → Tallies) :
    Quiet desk { desk with engine := desk.engine.tally update } :=
  { refl desk with }

theorem log (desk : Desk) (lines : List LogLine) :
    Quiet desk { desk with engine := desk.engine.log lines } :=
  { refl desk with loop := ⟨lines, rfl⟩ }

theorem change {α : Type} (desk : Desk) (position : Nat) {operation : Alert → Change α}
    (lasts : ∀ alert, (operation alert).alert.lasting = alert.lasting) :
    Quiet desk (desk.change position operation) := by
  unfold Desk.change
  split
  · exact refl desk
  · next alert found =>
    exact { log desk (operation alert).log with alerts := map_set_same found (lasts alert) }

theorem obey (desk : Desk) (position : Nat) (now : Timestamp) (command : Command) :
    Quiet desk (desk.obey position now command) := by
  cases command with
  | snooze hours => exact change desk position fun alert => alert.lasting_snooze hours now
  | resume => exact change desk position fun alert => alert.lasting_resumeIfDue now
  | toggle => exact change desk position fun alert => alert.lasting_toggle now
  | dismiss => exact change desk position fun alert => alert.lasting_dismiss now
  | expire => exact change desk position fun alert => alert.lasting_expire now

theorem resumeAll (desk : Desk) (now : Timestamp) (listed : List Nat) :
    Quiet desk (desk.resumeAll now listed) := by
  induction listed generalizing desk with
  | nil => exact refl desk
  | cons position rest ih =>
    have first := change desk position fun alert => alert.lasting_resumeIfDue now
    exact first.trans (ih (desk.change position (·.resumeIfDue now)))

/-- Keeping book of an alert that did not fire. -/
theorem absorb (desk : Desk) (now : Timestamp) (position : Nat) {evaluation : Evaluation}
    (still : evaluation.event? = none) : Quiet desk (desk.absorb now position evaluation) := by
  have counted := tally desk fun t => { t with evaluations := t.evaluations + 1 }
  unfold Desk.absorb
  dsimp only
  split
  · exact counted.trans (tally _ fun t => { t with errors := t.errors + 1 })
  · exact counted.trans (tally _ fun t => { t with blocked := t.blocked + 1 })
  · have blocked := counted.trans (tally _ fun t => { t with blocked := t.blocked + 1 })
    split
    · exact blocked.trans (change _ position fun alert => alert.lasting_expire now)
    · exact blocked
  · exact counted
  · next event outcome =>
    simp [Evaluation.event?, outcome] at still

end Quiet

/-- The alert at a position fires. -/
def fire (desk : Desk) (position : Nat) (alert : Alert) (event : Event) : Desk :=
  { engine := desk.engine.handle alert event
    alerts := desk.alerts.set position (alert.recordTrigger event) }

theorem absorb_fired (desk : Desk) (now : Timestamp) {position : Nat} {evaluation : Evaluation}
    {alert : Alert} {event : Event} (fired : evaluation.event? = some event)
    (found : desk.alerts[position]? = some alert) :
    desk.absorb now position evaluation =
      ({ desk with engine := desk.engine.tally fun t =>
        { t with evaluations := t.evaluations + 1 } } :
        Desk).fire position alert event := by
  have outcome : evaluation.outcome = .fired event := by
    unfold Evaluation.event? at fired
    split at fired
    · next other outcome => rw [outcome, Option.some.inj fired]
    · contradiction
  simp [absorb, outcome, found, fire]

/-- Firings one after the other, with quiet changes before, between and after. -/
inductive Course : Desk → List Firing → Desk → Prop
  | done (desk : Desk) : Course desk [] desk
  | quiet {start next finish : Desk} {firings : List Firing} :
    Quiet start next → Course next firings finish → Course start firings finish
  | fire {start finish : Desk} {position : Nat} {alert : Alert} {event : Event}
    {firings : List Firing} : start.alerts[position]? = some alert →
      Course (start.fire position alert event) firings finish →
      Course start (⟨position, event⟩ :: firings) finish

theorem Course.append {start next finish : Desk} {firings more : List Firing}
    (first : Course start firings next) (second : Course next more finish) :
    Course start (firings ++ more) finish := by
  induction first with
  | done desk => exact second
  | quiet change _ ih => exact .quiet change (ih second)
  | fire found _ ih => exact .fire found (ih second)

/-- Keeping book of evaluations is a course of firings. -/
theorem course_absorb (now : Timestamp) (judged : List (Nat × Evaluation)) (desk : Desk)
    (known : ∀ entry ∈ judged, entry.1 < desk.alerts.length) :
    Course desk (firingsOf judged)
      (judged.foldl (fun desk (position, evaluation) => desk.absorb now position evaluation)
        desk) := by
  induction judged generalizing desk with
  | nil => exact .done desk
  | cons entry rest ih =>
    obtain ⟨position, evaluation⟩ := entry
    have here : position < desk.alerts.length := known _ List.mem_cons_self
    -- Alerts keep their places, so the positions of the rest stay known.
    have later (next : Desk) (same : next.alerts.length = desk.alerts.length) :
        ∀ entry ∈ rest, entry.1 < next.alerts.length := by
      intro entry member
      rw [same]
      exact known entry (List.mem_cons_of_mem _ member)
    rw [List.foldl_cons]
    cases fired : evaluation.event? with
    | none =>
      have quiet := Quiet.absorb desk now position fired
      rw [firingsOf_cons, fired]
      exact .quiet quiet (ih _ (later _ quiet.length))
    | some event =>
      have found : desk.alerts[position]? = some desk.alerts[position] :=
        List.getElem?_eq_getElem here
      rw [firingsOf_cons, fired]
      dsimp only
      rw [absorb_fired desk now fired found]
      refine .quiet (Quiet.tally desk _) (.fire found (ih _ (later _ ?_)))
      simp [fire]

/-- The desk as a tick finds it once snoozes are over. -/
def awake (desk : Desk) (listed : List Nat) (now : Timestamp) : Desk :=
  ({ desk with engine := desk.engine.tally fun t => { t with ticks := t.ticks + 1 } } :
    Desk).resumeAll
    now listed

theorem quiet_awake (desk : Desk) (listed : List Nat) (now : Timestamp) :
    Quiet desk (desk.awake listed now) :=
  (Quiet.tally desk _).trans (Quiet.resumeAll _ now listed)

theorem mem_pick {desk : Desk} {listed : List Nat} {entry : Nat × Alert} :
    entry ∈ desk.pick listed ↔ entry.1 ∈ listed ∧ desk.alerts[entry.1]? = some entry.2 := by
  obtain ⟨position, alert⟩ := entry
  simp only [pick, List.mem_filterMap, Option.map_eq_some_iff, Prod.mk.injEq]
  constructor
  · rintro ⟨place, member, found, here, rfl, rfl⟩
    exact ⟨member, here⟩
  · rintro ⟨member, found⟩
    exact ⟨position, member, alert, found, rfl, rfl⟩

theorem positions_pick (desk : Desk) (listed : List Nat) :
    (desk.pick listed).map (·.1) = listed.filter (· < desk.alerts.length) := by
  induction listed with
  | nil => rfl
  | cons position rest ih =>
    by_cases here : position < desk.alerts.length
    · have found : desk.alerts[position]? = some desk.alerts[position] :=
        List.getElem?_eq_getElem here
      rw [List.filter_cons_of_pos (by simpa using here), ← ih]
      simp [pick, found]
    · have missing : desk.alerts[position]? = none := List.getElem?_eq_none (Nat.le_of_not_lt here)
      rw [List.filter_cons_of_neg (by simpa using here), ← ih]
      simp [pick, missing]

theorem positions_awake (desk : Desk) (listed : List Nat) (now : Timestamp) :
    ((desk.awake listed now).pick listed).map (·.1) = (desk.pick listed).map (·.1) := by
  rw [positions_pick, positions_pick, (desk.quiet_awake listed now).length]

/-- Each listed alert is evaluated as the tick finds it. -/
theorem judged_eq (desk : Desk) (listed : List Nat) (market : Market) (now : Timestamp) :
    let found := desk.awake listed now.aware
    desk.judged listed market now = (found.pick listed).mapIdx fun index (position, alert) =>
      (position, found.engine.evaluateListed alert market now.aware
        (found.engine.nameEvent found.engine.tallies.ticks index)) := by
  intro found
  have positions : (desk.pick listed).map (·.1) = (found.pick listed).map (·.1) :=
    (positions_awake desk listed now.aware).symm
  have evaluations : (desk.tick listed market now).evaluations =
      (found.pick listed).mapIdx fun index (_, alert) =>
        found.engine.evaluateListed alert market now.aware
          (found.engine.nameEvent found.engine.tallies.ticks index) := rfl
  rw [judged, positions, evaluations]
  apply List.ext_getElem
  · simp
  · intro index _ _
    simp

theorem positions_judged (desk : Desk) (listed : List Nat) (market : Market) (now : Timestamp) :
    (desk.judged listed market now).map (·.1) = listed.filter (· < desk.alerts.length) := by
  rw [judged_eq, ← positions_pick, ← positions_awake desk listed now.aware]
  apply List.ext_getElem
  · simp
  · intro index _ _
    simp

/-- What was evaluated was a listed alert. -/
theorem of_mem_judged {desk : Desk} {listed : List Nat} {market : Market} {now : Timestamp}
    {entry : Nat × Evaluation} (member : entry ∈ desk.judged listed market now) :
    ∃ alert id, (desk.awake listed now.aware).alerts[entry.1]? = some alert ∧
      entry.2 = (desk.awake listed now.aware).engine.evaluateListed alert market now.aware id := by
  rw [judged_eq] at member
  obtain ⟨index, here, rfl⟩ := List.mem_mapIdx.1 member
  exact ⟨_, _, (mem_pick.1 (List.getElem_mem here)).2, rfl⟩

theorem lt_of_mem_judged {desk : Desk} {listed : List Nat} {market : Market} {now : Timestamp}
    {entry : Nat × Evaluation} (member : entry ∈ desk.judged listed market now) :
    entry.1 < (desk.awake listed now.aware).alerts.length := by
  obtain ⟨alert, id, there, -⟩ := of_mem_judged member
  exact (List.getElem?_eq_some_iff.1 there).1

theorem judged_eq_zip (desk : Desk) (listed : List Nat) (market : Market) (now : Timestamp) :
    desk.judged listed market now =
      (((desk.awake listed now.aware).pick listed).zip
        (desk.tick listed market now).evaluations).map
        fun ((position, _), evaluation) => (position, evaluation) := by
  rw [judged, ← positions_awake desk listed now.aware, List.zip_map_left]
  rfl

theorem evaluations_eq (desk : Desk) (listed : List Nat) (market : Market) (now : Timestamp) :
    (desk.tick listed market now).evaluations = (desk.judged listed market now).map (·.2) := by
  have lengths : (desk.tick listed market now).evaluations.length ≤
      ((desk.pick listed).map (·.1)).length := by
    rw [← positions_awake desk listed now.aware]
    simp [tick, awake]
  rw [judged, List.map_snd_zip lengths]

/-- A tick wakes alerts, writes to the log, keeps book of every evaluation and writes to the log
again. -/
theorem desk_tick (desk : Desk) (listed : List Nat) (market : Market) (now : Timestamp) :
    ∃ lines summary : List LogLine,
      let found := desk.awake listed now.aware
      let booked := (desk.judged listed market now).foldl
        (fun desk (position, evaluation) => desk.absorb now.aware position evaluation)
        { found with engine := found.engine.log lines }
      (desk.tick listed market now).desk = { booked with engine := booked.engine.log summary } := by
  simp only [judged_eq_zip, List.foldl_map]
  exact ⟨_, _, rfl⟩

/-- A tick is a course of firings. -/
theorem course_tick (desk : Desk) (listed : List Nat) (market : Market) (now : Timestamp) :
    Course desk (desk.fired (.tick listed market now)) (desk.tick listed market now).desk := by
  obtain ⟨lines, summary, done⟩ := desk.desk_tick listed market now
  let found := desk.awake listed now.aware
  let noted : Desk := { found with engine := found.engine.log lines }
  have woken : Quiet desk noted := (desk.quiet_awake listed now.aware).trans (Quiet.log found _)
  have booked := course_absorb now.aware (desk.judged listed market now) noted
    fun _ => lt_of_mem_judged
  have closed := booked.append (.quiet (Quiet.log _ summary) (.done _))
  rw [List.append_nil] at closed
  rw [done]
  exact .quiet woken closed

/-- To the alerts every move is a course of firings. -/
theorem course_move (desk : Desk) (move : Move) :
    ∃ next, Course desk (desk.fired move) next ∧ (desk.move move).alerts = next.alerts := by
  cases move with
  | tick listed market now => exact ⟨_, course_tick desk listed market now, rfl⟩
  | command position command now =>
    exact ⟨_, .quiet (Quiet.obey desk position now command) (.done _), rfl⟩
  | _ => exact ⟨desk, .done desk, rfl⟩

/-- What fires in a move is an alert that passes the gates once its snooze is over. -/
theorem fires_of_mem_fired {desk : Desk} {move : Move} {firing : Firing}
    (member : firing ∈ desk.fired move) :
    ∃ alert woken now, desk.alerts[firing.position]? = some alert ∧ woken.lasting = alert.lasting ∧
      desk.engine.Fires woken now firing.event := by
  cases move with
  | tick listed market now =>
    obtain ⟨⟨position, evaluation⟩, judged, made⟩ := List.mem_filterMap.1 member
    obtain ⟨event, fired, rfl⟩ := Option.map_eq_some_iff.1 made
    obtain ⟨woken, id, found, evaluated⟩ := of_mem_judged judged
    have quiet := desk.quiet_awake listed now.aware
    obtain ⟨alert, here, lasting⟩ := quiet.exists_lasting found
    dsimp only at evaluated
    rw [evaluated] at fired
    have fires := Engine.fires_of_evaluateListed fired
    refine ⟨alert, woken, now.aware, here, lasting, { fires with passed := ?_ }⟩
    rw [← quiet.history, ← quiet.settings]
    exact fires.passed
  | _ => contradiction

/-- Where alerts are listed once, an alert fires at most once in a move. -/
theorem nodup_positions_fired (desk : Desk) {move : Move} (once : move.ListsOnce) :
    ((desk.fired move).map (·.position)).Nodup := by
  cases move with
  | tick listed market now =>
    have distinct : listed.Nodup := once
    have positions : ((desk.judged listed market now).map (·.1)).Nodup := by
      rw [positions_judged]
      exact distinct.filter _
    exact positions.sublist (positions_firingsOf _)
  | _ => exact List.nodup_nil

/-- What an alert was written with stays through everything. -/
theorem Quiet.written {before after : Desk} (quiet : Quiet before after) :
    after.alerts.map Alert.written = before.alerts.map Alert.written := by
  have rest := congrArg (List.map fun alert : Alert =>
    { alert with lastTriggeredAt := none, triggeredCount := 0 }) quiet.alerts
  rw [List.map_map, List.map_map] at rest
  exact rest

/-- Alerts of two desks that were written alike. -/
theorem exists_written {origin desk : Desk}
    (same : desk.alerts.map Alert.written = origin.alerts.map Alert.written) {position : Nat}
    {alert : Alert} (found : desk.alerts[position]? = some alert) :
    ∃ first, origin.alerts[position]? = some first ∧ alert.written = first.written :=
  exists_of_map_eq same found

theorem Course.written {start finish : Desk} {firings : List Firing}
    (course : Course start firings finish) :
    finish.alerts.map Alert.written = start.alerts.map Alert.written := by
  induction course with
  | done desk => rfl
  | quiet change _ ih => exact ih.trans change.written
  | fire found _ ih => exact ih.trans (map_set_same found (Alert.written_recordTrigger _ _))

theorem written_move (desk : Desk) (move : Move) :
    (desk.move move).alerts.map Alert.written = desk.alerts.map Alert.written := by
  obtain ⟨next, course, alerts⟩ := course_move desk move
  rw [alerts]
  exact course.written

theorem written_run (desk : Desk) (moves : List Move) :
    (desk.run moves).alerts.map Alert.written = desk.alerts.map Alert.written := by
  induction moves generalizing desk with
  | nil => rfl
  | cons move rest ih => exact (ih (desk.move move)).trans (written_move desk move)

end Desk

/-- An alert that fires at every price above one. -/
def Alert.eager (id : String) (batching : Bool) : Alert :=
  { id
    ticker := "ACME"
    name := "Any price"
    description := none
    kind := .known .threshold
    priority := .medium
    status := .active
    groups := [⟨"group", .all, [⟨"condition", .known .price, .known .greaterThan, 1, none⟩]⟩]
    anomaly := none
    frequency := { Frequency.default with batching }
    quietHours := .default
    createdAt := ⟨0, none, by decide⟩
    updatedAt := ⟨0, none, by decide⟩
    expiresAt := none
    snoozedUntil := none
    lastTriggeredAt := none
    triggeredCount := 0 }

/-- Two alerts on one ticker, the first of them in batches, and two channels, the second of which
fails. -/
def Desk.pair : Desk :=
  { engine :=
      { settings := .default
        history := ⟨"UTC", 1000, []⟩
        analyzer := standardAnalyzer
        notifiers := [.quiet "<quiet>", .failing "<failing>" "down"]
        loop := .start
        tallies := {}
        nameEvent := fun tick position => toString tick ++ "-" ++ toString position }
    alerts := [.eager "first" true, .eager "second" false] }

/-- A full hour of day 800. -/
def oClock (hours : Nat) : Timestamp :=
  { wall := 800 * day + hours % 24 * hour
    offset := none
    wall_lt := by
      have within : hours % 24 * hour < 24 * hour :=
        Nat.mul_lt_mul_of_pos_right (Nat.mod_lt hours (by decide)) (by decide)
      have early : 801 * day < horizon := by decide
      unfold day at early ⊢
      omega }

/-- Every ticker stands at two. -/
def Market.steady : Market :=
  { observation := fun ticker =>
      some ⟨ticker, 2, 2, 100, none, none, none, none, none, none, ⟨0, none, by decide⟩⟩
    news := fun _ => none
    prices := fun _ => none }

end MarketAlerts
