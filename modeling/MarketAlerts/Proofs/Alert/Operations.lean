import MarketAlerts.Calendar.ZoneRule
import MarketAlerts.Proofs.Calendar.Zones
import MarketAlerts.Proofs.Desk.Run

/-!
Operations on a single alert and what they leave behind when they fail. Nothing but a snooze can
fail: its end may be no number of hours, or lie outside the calendar. The alert is then silenced all
the same.
-/
namespace MarketAlerts

open Calendar

/-- What can be done to an alert: the commands of its user, and the bookkeeping of an event. -/
inductive Operation
  | command (command : Command)
  | record (event : Event)

namespace Alert

/-- A snooze has no end: its length is no span of time, or would end outside the calendar. -/
def Endless (hours : Number.Quantity) (now : Timestamp) (fault : Fault) : Prop :=
  Calendar.hours hours = .error fault ∨
    fault = .dateOutOfRange ∧ ∃ span, Calendar.hours hours = .ok span ∧
      ¬ (0 ≤ now.wall + span ∧ now.wall + span < horizon)

theorem wakeTime_eq_error_iff {hours : Number.Quantity} {now : Timestamp} {fault : Fault} :
    wakeTime hours now = .error fault ↔ Endless hours now fault := by
  unfold wakeTime Endless
  cases length : Calendar.hours hours with
  | error cause => simp [bind, Except.bind]
  | ok span =>
    simp only [bind, Except.bind, Timestamp.shift_eq_error_iff, reduceCtorEq, false_or,
      Except.ok.injEq, exists_eq_left']
    exact Iff.rfl

section

variable [Installation]

/-- What a command makes of an alert. -/
def obey (alert : Alert) (now : Timestamp) : Command → Change Unit
  | .snooze hours => alert.snooze hours now
  | .resume => ⟨(alert.resumeIfDue now).alert, .ok (), (alert.resumeIfDue now).log⟩
  | .toggle => ⟨alert.toggle now, .ok (), []⟩
  | .dismiss => ⟨alert.dismiss now, .ok (), []⟩
  | .expire => alert.expire now

def perform (alert : Alert) (now : Timestamp) : Operation → Change Unit
  | .command command => alert.obey now command
  | .record event => ⟨alert.recordTrigger event, .ok (), []⟩

/-- A snooze either ends at some time, or it fails and leaves a silent alert behind. -/
theorem snooze_cases (alert : Alert) (hours : Number.Quantity) (now : Timestamp) :
    (∃ wake log, wakeTime hours now = .ok wake ∧ alert.snooze hours now =
      ⟨{ alert with status := .snoozed, snoozedUntil := some wake, updatedAt := now }, .ok (),
        log⟩) ∨
    ∃ fault, wakeTime hours now = .error fault ∧
      alert.snooze hours now = ⟨{ alert with status := .snoozed }, .error fault, []⟩ := by
  unfold snooze
  cases wakeTime hours now with
  | ok wake => exact .inl ⟨wake, _, rfl, rfl⟩
  | error fault => exact .inr ⟨fault, rfl, rfl⟩

/-- No operation but a snooze fails. -/
theorem result_perform (alert : Alert) (now : Timestamp) {operation : Operation}
    (other : ∀ hours, operation ≠ .command (.snooze hours)) :
    (alert.perform now operation).result = .ok () := by
  cases operation with
  | record event => rfl
  | command command =>
    cases command with
    | snooze hours => exact absurd rfl (other hours)
    | expire =>
      unfold perform obey expire
      dsimp only
      split <;> rfl
    | _ => rfl

/-- An operation fails exactly where it is a snooze without an end. The one thing that it then has
changed is the status: the alert is as it was before if and only if it was already snoozed. -/
theorem perform_failed (alert : Alert) (now : Timestamp) (operation : Operation) (fault : Fault) :
    ((alert.perform now operation).result = .error fault ↔
      ∃ hours, operation = .command (.snooze hours) ∧ Endless hours now fault) ∧
    ((alert.perform now operation).result = .error fault →
      (alert.perform now operation).alert = { alert with status := .snoozed } ∧
      ((alert.perform now operation).alert = alert ↔ alert.status = .snoozed)) := by
  by_cases snooze : ∃ hours, operation = .command (.snooze hours)
  · obtain ⟨hours, rfl⟩ := snooze
    rcases alert.snooze_cases hours now with ⟨wake, log, ends, done⟩ | ⟨cause, endless, done⟩
    · have fine : ¬ Endless hours now fault := by
        rw [← wakeTime_eq_error_iff, ends]
        exact nofun
      simp [perform, obey, done, fine]
    · have same : cause = fault ↔ Endless hours now fault := by
        rw [← wakeTime_eq_error_iff, endless, Except.error.injEq]
      have kept : { alert with status := .snoozed } = alert ↔ alert.status = .snoozed := by
        constructor
        · intro unchanged
          rw [← unchanged]
        · intro silent
          rw [← silent]
      simp [perform, obey, done, same, kept]
  · have done := alert.result_perform now fun hours same => snooze ⟨hours, same⟩
    rw [done]
    refine ⟨⟨nofun, ?_⟩, nofun⟩
    rintro ⟨hours, same, -⟩
    exact absurd ⟨hours, same⟩ snooze

end

/-- An active alert that is snoozed for a billion hours: the snooze fails, the status stays changed,
and there is no time at which the alert would wake. -/
theorem snooze_billion_hours :
    let change := (eager "first" true).perform (oClock 0) (.command (.snooze (.whole 1000000000)))
    change.result = .error .dateOutOfRange ∧ (eager "first" true).status = .active ∧
      change.alert.status = .snoozed ∧ change.alert.snoozedUntil = none :=
  ⟨rfl, rfl, rfl, rfl⟩

end Alert

end MarketAlerts
