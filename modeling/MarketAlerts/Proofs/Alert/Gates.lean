import MarketAlerts.Proofs.Engine.Evaluation

/-!
What each gate asks of an alert, and what the gates in a row decide: an alert that meets all of them
passes, and any other is held up by the first that it does not meet.
-/
namespace MarketAlerts

open Calendar

namespace Gate

variable [Installation]

/-- What a gate asks of an alert. -/
def Met (alert : Alert) (context : GateContext) : Gate → Prop
  | status => alert.status = .active
  | expiry => ∀ expires ∈ alert.expiresAt, context.now.instant ≤ expires.instant
  | quietHours => alert.quietHours.holds context.now context.zone = .ok false
  | cooldown => ∀ last ∈ alert.lastTriggeredAt, ∃ pause,
      minutes alert.frequency.cooldownMinutes = .ok pause ∧
        pause ≤ context.now.instant - last.instant
  | dailyCap => context.triggersToday < alert.frequency.maxPerDay.val

/-- In the usual order of the gates, the first that an alert does not meet. -/
def IsFirstUnmet (alert : Alert) (context : GateContext) (gate : Gate) : Prop :=
  ∃ before after, inOrder = before ++ gate :: after ∧
    (∀ earlier ∈ before, Met alert context earlier) ∧ ¬ Met alert context gate

variable {alert : Alert} {context : GateContext}

/-- A gate lets through whoever meets it, and nobody else. -/
theorem check_eq_none_iff (gate : Gate) :
    gate.check alert context = .ok none ↔ gate.Met alert context := by
  cases gate with
  | status => by_cases active : alert.status = .active <;> simp [check, Met, active]
  | expiry =>
    cases ends : alert.expiresAt with
    | none => simp [check, Met, ends]
    | some expires =>
      by_cases past : expires.instant < context.now.instant
      · simp [check, Met, ends, past]
      · simp [check, Met, ends, past, Int.not_lt.1 past]
  | quietHours =>
    cases quiet : alert.quietHours.holds context.now context.zone with
    | error fault => simp [check, Met, quiet, bind, Except.bind]
    | ok silent => cases silent <;> simp [check, Met, quiet, bind, Except.bind, pure, Except.pure]
  | cooldown =>
    cases before : alert.lastTriggeredAt with
    | none => simp [check, Met, before]
    | some last =>
      cases span : minutes alert.frequency.cooldownMinutes with
      | error fault => simp [check, Met, before, span, bind, Except.bind]
      | ok pause =>
        by_cases short : context.now.instant - last.instant < pause
        · simp [check, Met, before, span, short, bind, Except.bind, pure, Except.pure]
        · simp [check, Met, before, span, short, Int.not_lt.1 short, bind, Except.bind, pure,
            Except.pure]
  | dailyCap =>
    by_cases full : alert.frequency.maxPerDay.val ≤ context.triggersToday
    · simp [check, Met, full]
    · simp [check, Met, full, Nat.not_le.1 full]

theorem not_met_of_check {gate : Gate} {reason : String}
    (checked : gate.check alert context = .ok (some reason)) : ¬ gate.Met alert context := by
  rw [← check_eq_none_iff, checked]
  simp

/-- Who is held up was let through by every gate before. -/
theorem blocked_of_run {gates : List Gate} {gate : Gate} {reason : String}
    (held : run alert context gates = .ok (.blocked gate reason)) :
    ∃ before after, gates = before ++ gate :: after ∧
      (∀ earlier ∈ before, earlier.Met alert context) ∧
      gate.check alert context = .ok (some reason) := by
  induction gates with
  | nil => cases held
  | cons first rest ih =>
    obtain ⟨answer, checked, later⟩ := ok_of_bind held
    cases answer with
    | some text =>
      cases later
      exact ⟨[], rest, rfl, by simp, checked⟩
    | none =>
      obtain ⟨before, after, rfl, met, stopped⟩ := ih later
      refine ⟨first :: before, after, rfl, ?_, stopped⟩
      intro earlier member
      rcases List.mem_cons.1 member with rfl | member
      · exact (check_eq_none_iff _).1 checked
      · exact met earlier member

theorem run_eq_passed {gates : List Gate} (met : ∀ gate ∈ gates, gate.Met alert context) :
    run alert context gates = .ok .passed := by
  induction gates with
  | nil => rfl
  | cons first rest ih =>
    have checked := (check_eq_none_iff first).2 (met first List.mem_cons_self)
    rw [run, checked]
    exact ih fun gate member => met gate (List.mem_cons_of_mem first member)

/-- All gates let an alert pass where it meets each of them. -/
theorem screen_eq_passed_iff :
    screen alert context = .ok .passed ↔ ∀ gate : Gate, gate.Met alert context :=
  ⟨fun passed gate => (check_eq_none_iff gate).1 (check_of_screen passed gate),
    fun met => run_eq_passed fun gate _ => met gate⟩

theorem isFirstUnmet_of_screen {gate : Gate} {reason : String}
    (held : screen alert context = .ok (.blocked gate reason)) :
    IsFirstUnmet alert context gate := by
  obtain ⟨before, after, order, met, stopped⟩ := blocked_of_run held
  exact ⟨before, after, order, met, not_met_of_check stopped⟩

/-- There is one first gate that is not met. -/
theorem IsFirstUnmet.unique {one other : Gate} (first : IsFirstUnmet alert context one)
    (second : IsFirstUnmet alert context other) : one = other := by
  classical
  have found {gate : Gate} (unmet : IsFirstUnmet alert context gate) :
      inOrder.find? (fun gate => decide (¬ gate.Met alert context)) = some gate := by
    obtain ⟨before, after, order, met, not⟩ := unmet
    refine List.find?_eq_some_iff_append.2 ⟨by simpa using not, before, after, order, ?_⟩
    intro earlier member
    simpa using met earlier member
  exact Option.some.inj ((found first).symm.trans (found second))

/-- The status comes first: whoever is held up later is active. -/
theorem IsFirstUnmet.active {gate : Gate} (unmet : IsFirstUnmet alert context gate)
    (later : gate ≠ .status) : alert.status = .active := by
  obtain ⟨before, after, order, met, -⟩ := unmet
  cases before with
  | nil => exact absurd (List.cons.inj order).1.symm later
  | cons first rest =>
    obtain rfl : status = first := (List.cons.inj order).1
    exact met status List.mem_cons_self

end Gate

end MarketAlerts
