import MarketAlerts.Calendar.ZoneRule
import MarketAlerts.Proofs.Alert.Operations

/-!
What the end of a snooze says of the status. A snoozed alert has one. It loses it by waking; where
it is left snoozed until it wakes, the end stands for the status. With an event the end stays once
the event was put off, whatever is done to the event after that.
-/
namespace MarketAlerts

open Calendar

namespace Operation

/-- Whether an operation takes an alert out of a snooze before its end. -/
def breaksOff : Operation → Bool
  | command .toggle => true
  | command .dismiss => true
  | command .expire => true
  | _ => false

end Operation

namespace Alert

variable [Installation]

/-- The alert after operations at their times, if all of them succeed. -/
def performAll (alert : Alert) : List (Timestamp × Operation) → Except Fault Alert
  | [] => .ok alert
  | (now, operation) :: rest => do
    (alert.perform now operation).result
    (alert.perform now operation).alert.performAll rest

/-- No operation takes the alert out of a snooze before its end. -/
def SleepsThrough (alert : Alert) : List (Timestamp × Operation) → Prop
  | [] => True
  | (now, operation) :: rest =>
    (alert.status = .snoozed → operation.breaksOff = false) ∧
      (alert.perform now operation).alert.SleepsThrough rest

/-- What all operations keep that succeed holds after any number of them. -/
theorem performAll_induction {P : Alert → List (Timestamp × Operation) → Prop}
    (step : ∀ {alert now operation rest}, P alert ((now, operation) :: rest) →
      (alert.perform now operation).result = .ok () → P (alert.perform now operation).alert rest)
    {steps : List (Timestamp × Operation)} {alert after : Alert} (h : P alert steps)
    (run : alert.performAll steps = .ok after) : P after [] := by
  induction steps generalizing alert with
  | nil =>
    obtain rfl := Except.ok.inj run
    exact h
  | cons entry rest ih =>
    obtain ⟨now, operation⟩ := entry
    unfold performAll at run
    cases result : (alert.perform now operation).result with
    | error fault =>
      rw [result] at run
      contradiction
    | ok _ =>
      rw [result] at run
      exact ih (step h result) run

/-- A snooze that succeeds has an end. -/
theorem snooze_of_ok {alert : Alert} {hours : Number.Quantity} {now : Timestamp}
    (fine : (alert.snooze hours now).result = .ok ()) :
    (alert.snooze hours now).alert.status = .snoozed ∧
      (alert.snooze hours now).alert.snoozedUntil.isSome = true := by
  rcases alert.snooze_cases hours now with ⟨wake, log, -, done⟩ | ⟨fault, -, done⟩
  · rw [done]
    exact ⟨rfl, rfl⟩
  · rw [done] at fine
    contradiction

theorem status_ne_snoozed_of_breaksOff {operation : Operation} (breaks : operation.breaksOff = true)
    (alert : Alert) (now : Timestamp) : (alert.perform now operation).alert.status ≠ .snoozed := by
  cases operation with
  | record event => contradiction
  | command command =>
    cases command with
    | snooze hours => contradiction
    | resume => contradiction
    | toggle =>
      simp only [perform, obey, toggle]
      split <;> decide
    | dismiss =>
      have apart : AlertStatus.dismissed ≠ .snoozed := by decide
      exact apart
    | expire =>
      have apart : AlertStatus.expired ≠ .snoozed := by decide
      unfold perform obey expire
      dsimp only
      split
      · next expired =>
        rw [expired]
        exact apart
      · exact apart

theorem snoozedUntil_of_breaksOff {operation : Operation} (breaks : operation.breaksOff = true)
    (alert : Alert) (now : Timestamp) :
    (alert.perform now operation).alert.snoozedUntil = alert.snoozedUntil := by
  cases operation with
  | record event => contradiction
  | command command =>
    cases command with
    | snooze hours => contradiction
    | resume => contradiction
    | toggle => rfl
    | dismiss => rfl
    | expire =>
      unfold perform obey expire
      dsimp only
      split <;> rfl

/-- An operation that breaks no snooze off makes the status and the end of a snooze what they are
together, or leaves both as they are. -/
theorem perform_of_not_breaksOff {alert : Alert} {now : Timestamp} {operation : Operation}
    (stays : operation.breaksOff = false) (fine : (alert.perform now operation).result = .ok ()) :
    let after := (alert.perform now operation).alert
    (after.snoozedUntil.isSome = true ↔ after.status = .snoozed) ∨
      after.status = alert.status ∧ after.snoozedUntil = alert.snoozedUntil := by
  cases operation with
  | record event => exact .inr ⟨rfl, rfl⟩
  | command command =>
    cases command with
    | snooze hours =>
      obtain ⟨status, ends⟩ := snooze_of_ok fine
      exact .inl (iff_of_true ends status)
    | resume =>
      unfold perform obey resumeIfDue
      dsimp only
      split
      · exact .inl (iff_of_false nofun nofun)
      · exact .inr ⟨rfl, rfl⟩
    | toggle => contradiction
    | dismiss => contradiction
    | expire => contradiction

theorem ends_perform {alert : Alert} {now : Timestamp} {operation : Operation}
    (ends : alert.status = .snoozed → alert.snoozedUntil.isSome = true)
    (fine : (alert.perform now operation).result = .ok ()) :
    (alert.perform now operation).alert.status = .snoozed →
      (alert.perform now operation).alert.snoozedUntil.isSome = true := by
  intro status
  cases breaks : operation.breaksOff with
  | true => exact absurd status (status_ne_snoozed_of_breaksOff breaks alert now)
  | false =>
    rcases perform_of_not_breaksOff breaks fine with tracks | ⟨same, same'⟩
    · exact tracks.2 status
    · rw [same']
      exact ends (same ▸ status)

theorem tracks_perform {alert : Alert} {now : Timestamp} {operation : Operation}
    (tracks : alert.snoozedUntil.isSome = true ↔ alert.status = .snoozed)
    (stays : alert.status = .snoozed → operation.breaksOff = false)
    (fine : (alert.perform now operation).result = .ok ()) :
    (alert.perform now operation).alert.snoozedUntil.isSome = true ↔
      (alert.perform now operation).alert.status = .snoozed := by
  cases breaks : operation.breaksOff with
  | true =>
    have awake : alert.status ≠ .snoozed := fun status => by simp [stays status] at breaks
    rw [snoozedUntil_of_breaksOff breaks, tracks]
    exact iff_of_false awake (status_ne_snoozed_of_breaksOff breaks alert now)
  | false =>
    rcases perform_of_not_breaksOff breaks fine with after | ⟨status, ends⟩
    · exact after
    · rw [status, ends]
      exact tracks

end Alert

namespace Event

/-- What a user can do with an event. -/
inductive Deed
  | view
  | dismiss
  | snooze (hours : Number.Quantity)

def Deed.isSnooze : Deed → Bool
  | snooze _ => true
  | _ => false

def treat (event : Event) (now : Timestamp) : Deed → Except Fault Event
  | .view => .ok (event.view now)
  | .dismiss => .ok (event.dismiss now)
  | .snooze hours => event.snooze hours now

/-- The event after deeds at their times, if all of them succeed. -/
def treatAll (event : Event) (deeds : List (Timestamp × Deed)) : Except Fault Event :=
  deeds.foldlM (fun event (now, deed) => event.treat now deed) event

/-- A deed that succeeds leaves the event with an end of its snooze if it is a snooze, or the event
had one. -/
theorem isSome_treat {event after : Event} {now : Timestamp} {deed : Deed}
    (done : event.treat now deed = .ok after) :
    after.snoozedUntil.isSome = (event.snoozedUntil.isSome || deed.isSnooze) ∧
      (after.action = .snoozed → deed.isSnooze = true) := by
  cases deed with
  | view =>
    obtain rfl := Except.ok.inj done
    simp [view, Deed.isSnooze]
  | dismiss =>
    obtain rfl := Except.ok.inj done
    simp [dismiss, Deed.isSnooze]
  | snooze hours =>
    unfold treat snooze at done
    cases length : Calendar.hours hours with
    | error fault => simp [length, bind, Except.bind] at done
    | ok span =>
      cases ends : now.aware.shift span with
      | error fault => simp [length, ends, bind, Except.bind] at done
      | ok wake =>
        simp only [length, ends, bind, Except.bind, pure, Except.pure, Except.ok.injEq] at done
        subst done
        simp [Deed.isSnooze]

theorem isSome_treatAll {deeds : List (Timestamp × Deed)} {event after : Event}
    (done : event.treatAll deeds = .ok after)
    (ends : event.action = .snoozed → event.snoozedUntil.isSome = true) :
    after.snoozedUntil.isSome = (event.snoozedUntil.isSome || deeds.any (·.2.isSnooze)) ∧
      (after.action = .snoozed → after.snoozedUntil.isSome = true) := by
  induction deeds generalizing event with
  | nil =>
    obtain rfl := Except.ok.inj done
    simpa using ends
  | cons entry rest ih =>
    obtain ⟨now, deed⟩ := entry
    unfold treatAll at done
    rw [List.foldlM_cons] at done
    dsimp only at done
    cases first : event.treat now deed with
    | error fault =>
      rw [first] at done
      contradiction
    | ok next =>
      rw [first] at done
      obtain ⟨known, snoozed⟩ := isSome_treat first
      have ends : next.action = .snoozed → next.snoozedUntil.isSome = true := fun action => by
        rw [known, snoozed action, Bool.or_true]
      obtain ⟨later, ends⟩ := ih done ends
      refine ⟨?_, ends⟩
      rw [later, known, List.any_cons, Bool.or_assoc]

end Event

namespace Alert

/-- An event that nobody has seen yet. -/
def newEvent : Event :=
  { id := "event"
    alertId := "first"
    ticker := "ACME"
    triggeredAt := oClock 1
    reason := "Any price"
    conditionsMet := ["Any price"]
    price := 2
    volume := none
    newsCount := none
    sentiment := none
    action := .pending
    actionAt := none
    snoozedUntil := none }

section

variable [Installation]

/-- An alert that starts active, with no snooze, has an end of its snooze whenever it is snoozed,
and as long as a snooze is left by waking alone it has one only then. A new event has one from the
first time that it is put off, so also whenever that was the last thing done with it. -/
theorem snoozedUntil_tracks :
    (∀ (alert after : Alert) (steps : List (Timestamp × Operation)), alert.status = .active →
      alert.snoozedUntil = none → alert.performAll steps = .ok after →
      (after.status = .snoozed → after.snoozedUntil.isSome = true) ∧
      (alert.SleepsThrough steps → (after.snoozedUntil.isSome = true ↔ after.status = .snoozed))) ∧
    ∀ (event after : Event) (deeds : List (Timestamp × Event.Deed)), event.action = .pending →
      event.snoozedUntil = none → event.treatAll deeds = .ok after →
      (after.snoozedUntil.isSome = true ↔ ∃ entry ∈ deeds, entry.2.isSnooze = true) ∧
      (after.action = .snoozed → after.snoozedUntil.isSome = true) := by
  constructor
  · intro alert after steps status noEnd run
    constructor
    · refine performAll_induction
        (P := fun alert _ => alert.status = .snoozed → alert.snoozedUntil.isSome = true)
        (fun ends fine => ends_perform ends fine) (fun snoozed => ?_) run
      rw [status] at snoozed
      contradiction
    · intro sleeps
      refine (performAll_induction
        (P := fun alert steps => (alert.snoozedUntil.isSome = true ↔ alert.status = .snoozed) ∧
          alert.SleepsThrough steps)
        (fun h fine => ⟨tracks_perform h.1 h.2.1 fine, h.2.2⟩) ⟨?_, sleeps⟩ run).1
      rw [status, noEnd]
      exact iff_of_false nofun nofun
  · intro event after deeds action noEnd run
    obtain ⟨known, ends⟩ := Event.isSome_treatAll run fun snoozed => by
      rw [action] at snoozed
      contradiction
    refine ⟨?_, ends⟩
    rw [known, noEnd, Option.isSome_none, Bool.false_or, List.any_eq_true]

end

/-- A snooze that is slept through, with a trigger on the way, and an alert switched off when it is
over. -/
def sleptThrough : List (Timestamp × Operation) :=
  [(oClock 0, .command (.snooze (.whole 2))), (oClock 1, .record newEvent),
    (oClock 1, .command .resume), (oClock 2, .command .resume), (oClock 3, .command .toggle)]

/-- An event that is looked at, put off, and dismissed in the end. -/
def dismissedLate : List (Timestamp × Event.Deed) :=
  [(oClock 1, .view), (oClock 2, .snooze (.whole 4)), (oClock 3, .dismiss)]

theorem snoozedUntil_tracks_sleptThrough :
    (∃ after, (eager "first" true).performAll sleptThrough = .ok after ∧
      (eager "first" true).SleepsThrough sleptThrough ∧
      (after.snoozedUntil.isSome = true ↔ after.status = .snoozed)) ∧
    ∃ after, newEvent.treatAll dismissedLate = .ok after ∧ after.snoozedUntil.isSome = true := by
  have sleeps : (eager "first" true).SleepsThrough sleptThrough :=
    ⟨nofun, fun _ => rfl, fun _ => rfl, fun _ => rfl, by decide +kernel, trivial⟩
  have fine : ((eager "first" true).performAll sleptThrough).isOk = true := by decide +kernel
  have fine' : (newEvent.treatAll dismissedLate).isOk = true := by decide +kernel
  obtain ⟨alerts, events⟩ := snoozedUntil_tracks
  constructor
  · cases run : (eager "first" true).performAll sleptThrough with
    | error fault =>
      rw [run] at fine
      contradiction
    | ok after => exact ⟨after, rfl, sleeps, (alerts _ after sleptThrough rfl rfl run).2 sleeps⟩
  · cases run : newEvent.treatAll dismissedLate with
    | error fault =>
      rw [run] at fine'
      contradiction
    | ok after =>
      have putOff : (oClock 2, .snooze (.whole 4)) ∈ dismissedLate := by simp [dismissedLate]
      exact ⟨after, rfl, (events _ after dismissedLate rfl rfl run).1.2 ⟨_, putOff, rfl⟩⟩

/-- A snooze that is broken off leaves its end behind, and so does an event that is looked at after
it was put off. -/
theorem end_left_behind :
    let alert := (eager "first" true).performAll
      [(oClock 0, .command (.snooze (.whole 2))), (oClock 1, .command .toggle)]
    let event := newEvent.treatAll [(oClock 0, .snooze (.whole 2)), (oClock 1, .view)]
    (eager "first" true).status = .active ∧ (eager "first" true).snoozedUntil = none ∧
      alert.toOption.map (fun alert => (alert.status, alert.snoozedUntil.isSome)) =
      some (.active, true) ∧
      newEvent.action = .pending ∧ newEvent.snoozedUntil = none ∧
      event.toOption.map (fun event => (event.action, event.snoozedUntil.isSome)) =
      some (.viewed, true) :=
  ⟨rfl, rfl, by decide +kernel, rfl, rfl, by decide +kernel⟩

end Alert

end MarketAlerts
