import MarketAlerts.Proofs.Alert.Gates

/-!
The outcome of a single evaluation. Where nothing fails on the way, an alert fires when it meets
every gate and its rule triggers; an alert that is held up is held up by the first gate that it does
not meet.
-/
namespace MarketAlerts

open Calendar

theorem ok_bind {α β : Type} (value : α) (next : α → Except Fault β) :
    ((Except.ok value : Except Fault α) >>= next) = next value := rfl

theorem ok_of_toOption {α : Type} {result : Except Fault α} {value : α}
    (succeeds : result.toOption = some value) : result = .ok value := by
  cases result with
  | error fault => contradiction
  | ok found => exact congrArg Except.ok (Option.some.inj succeeds)

namespace Engine

variable [Installation]

/-- What the gates go by at a time when an alert has fired so often that day. -/
def gateContext (engine : Engine) (now : Timestamp) (count : Nat) : GateContext :=
  ⟨now, count, some engine.settings.engine.zone.name⟩

/-- What the rules go by: the evidence with the sentiment of its news. -/
def informed (engine : Engine) (evidence : Evidence) : Evidence :=
  { evidence with news := engine.resolveNews evidence.news }

/-- Nothing fails: not the count of the day, not the gates, and not the rule of an alert that
passes. -/
structure Sound (engine : Engine) (alert : Alert) (evidence : Evidence) (now : Timestamp)
    (count : Nat) : Prop where
  counted : engine.history.countToday alert.id now = .ok count
  screened : ∃ decision, Gate.screen alert (engine.gateContext now count) = .ok decision
  evaluated : Gate.screen alert (engine.gateContext now count) = .ok .passed →
    ∃ finding, engine.dispatch alert (engine.informed evidence) now = .ok finding

/-- An alert meets every gate, and the rule of its kind triggers. -/
structure Qualifies (engine : Engine) (alert : Alert) (evidence : Evidence) (now : Timestamp)
    (count : Nat) : Prop where
  met : ∀ gate : Gate, gate.Met alert (engine.gateContext now count)
  triggers : ∃ finding, engine.dispatch alert (engine.informed evidence) now = .ok finding ∧
    finding.triggered = true

/-- The outcome that an evaluation without a failure has to have. -/
inductive Verdict (engine : Engine) (alert : Alert) (evidence : Evidence) (now : Timestamp)
    (count : Nat) : EvaluationOutcome → Prop
  | blocked {gate : Gate} {reason : String} :
    gate.IsFirstUnmet alert (engine.gateContext now count) →
      Verdict engine alert evidence now count (.blocked gate reason)
  | quiet {finding : Finding} :
    (∀ gate : Gate, gate.Met alert (engine.gateContext now count)) →
      ¬ engine.Qualifies alert evidence now count →
      Verdict engine alert evidence now count (.quiet finding)
  | fired {event : Event} {finding : Finding} {id : String} :
    (∀ gate : Gate, gate.Met alert (engine.gateContext now count)) →
      engine.dispatch alert (engine.informed evidence) now = .ok finding →
      finding.triggered = true →
      fire alert (engine.informed evidence) finding now id = .ok event →
      Verdict engine alert evidence now count (.fired event)

variable {engine : Engine} {alert : Alert} {evidence : Evidence} {now : Timestamp} {count : Nat}

/-- The steps of an evaluation: the gates, the rule, the event. -/
theorem evaluateWith_eq (engine : Engine) (standard : Analyzer Float) (alert : Alert)
    (evidence : Evidence) (now : Timestamp) (triggersToday : Option Nat) (id : String) :
    engine.evaluateWith standard alert evidence now triggersToday id =
      engine.screen alert now.aware triggersToday >>= fun
        | .blocked gate reason => .ok (.blocked gate reason)
        | .passed => engine.dispatchWith standard alert (engine.informed evidence) now.aware >>=
            fun finding =>
          if finding.triggered then
            fireWith standard alert (engine.informed evidence) finding now.aware id >>= fun event =>
              .ok (.fired event)
          else .ok (.quiet finding) := by
  unfold evaluateWith
  refine bind_congr fun decision => ?_
  cases decision <;> rfl

theorem evaluate_eq (engine : Engine) (alert : Alert) (evidence : Evidence) (now : Timestamp)
    (triggersToday : Option Nat) (id : String) :
    engine.evaluate alert evidence now triggersToday id =
      engine.screen alert now.aware triggersToday >>= fun
        | .blocked gate reason => .ok (.blocked gate reason)
        | .passed => engine.dispatch alert (engine.informed evidence) now.aware >>= fun finding =>
          if finding.triggered then
            fire alert (engine.informed evidence) finding now.aware id >>= fun event =>
              .ok (.fired event)
          else .ok (.quiet finding) :=
  engine.evaluateWith_eq standardAnalyzer alert evidence now triggersToday id

/-- An evaluation without a failure has a verdict. -/
theorem Sound.verdict (sound : engine.Sound alert evidence now.aware count) {seen : Observation}
    (observed : evidence.seen = some seen) (id : String) :
    ∃ outcome, engine.evaluate alert evidence now none id = .ok outcome ∧
      engine.Verdict alert evidence now.aware count outcome := by
  obtain ⟨decision, screened⟩ := sound.screened
  have decided : engine.screen alert now.aware none = .ok decision := by
    unfold screen
    rw [Option.elim_none, sound.counted]
    exact screened
  rw [evaluate_eq, decided, ok_bind]
  cases decision with
  | blocked gate reason => exact ⟨_, rfl, .blocked (Gate.isFirstUnmet_of_screen screened)⟩
  | passed =>
    have met := Gate.screen_eq_passed_iff.1 screened
    obtain ⟨finding, judged⟩ := sound.evaluated screened
    dsimp only
    rw [judged, ok_bind]
    split
    · next triggered =>
      have made : ∃ event, fire alert (engine.informed evidence) finding now.aware id =
          .ok event := by
        unfold fire fireWith informed
        rw [observed]
        exact ⟨_, rfl⟩
      obtain ⟨event, made⟩ := made
      rw [made, ok_bind]
      exact ⟨_, rfl, .fired met judged triggered made⟩
    · next still =>
      refine ⟨_, rfl, .quiet met ?_⟩
      rintro ⟨-, other, again, triggered⟩
      rw [judged] at again
      rw [← Except.ok.inj again] at triggered
      exact still triggered

/-- An alert fires exactly where it qualifies. -/
theorem Verdict.fired_iff {outcome : EvaluationOutcome}
    (verdict : engine.Verdict alert evidence now count outcome) :
    (∃ event, outcome = .fired event) ↔ engine.Qualifies alert evidence now count := by
  cases verdict with
  | blocked unmet =>
    obtain ⟨_, _, _, _, not⟩ := unmet
    refine ⟨?_, fun qualifies => absurd (qualifies.met _) not⟩
    rintro ⟨event, same⟩
    cases same
  | quiet _ not =>
    refine ⟨?_, fun qualifies => absurd qualifies not⟩
    rintro ⟨event, same⟩
    cases same
  | fired met judged triggered _ => exact ⟨fun _ => ⟨met, _, judged, triggered⟩, fun _ => ⟨_, rfl⟩⟩

/-- An alert is held up exactly by the first gate that it does not meet. -/
theorem Verdict.blocked_iff {outcome : EvaluationOutcome}
    (verdict : engine.Verdict alert evidence now count outcome) (gate : Gate) :
    (∃ reason, outcome = .blocked gate reason) ↔
      gate.IsFirstUnmet alert (engine.gateContext now count) := by
  have all_met (met : ∀ gate : Gate, gate.Met alert (engine.gateContext now count)) :
      ¬ gate.IsFirstUnmet alert (engine.gateContext now count) := by
    rintro ⟨_, _, _, _, not⟩
    exact not (met gate)
  cases verdict with
  | @blocked first reason unmet =>
    constructor
    · rintro ⟨text, same⟩
      cases same
      exact unmet
    · intro other
      cases unmet.unique other
      exact ⟨reason, rfl⟩
  | quiet met _ =>
    refine ⟨?_, fun unmet => absurd unmet (all_met met)⟩
    rintro ⟨reason, same⟩
    cases same
  | fired met _ _ _ =>
    refine ⟨?_, fun unmet => absurd unmet (all_met met)⟩
    rintro ⟨reason, same⟩
    cases same

theorem ok_of_evaluateListed {market : Market} {id : String} {outcome : EvaluationOutcome}
    {seen : Observation} (observed : market.observation alert.ticker = some seen)
    (evaluated : engine.evaluate alert
      ⟨some seen, market.news alert.ticker, market.prices alert.ticker⟩ now none id = .ok outcome) :
    (engine.evaluateListed alert market now id).outcome = outcome := by
  unfold evaluateListed
  simp only [observed, evaluated]

/-- Who is reported as held up was held up by the gates, on the count of the history. -/
theorem screened_of_evaluateListed {market : Market} {id : String} {gate : Gate} {reason : String}
    (blocked : (engine.evaluateListed alert market now id).outcome = .blocked gate reason) :
    ∃ count, engine.history.countToday alert.id now.aware = .ok count ∧
      Gate.screen alert (engine.gateContext now.aware count) = .ok (.blocked gate reason) := by
  unfold evaluateListed at blocked
  dsimp only at blocked
  split at blocked
  · cases blocked
  · split at blocked
    · next made =>
      rw [blocked] at made
      obtain ⟨decision, screened, rest⟩ := ok_of_bind made
      obtain ⟨count, counted, held⟩ := ok_of_bind screened
      cases decision with
      | blocked other text =>
        cases rest
        exact ⟨count, counted, held⟩
      | passed =>
        obtain ⟨finding, _, rest⟩ := ok_of_bind rest
        split at rest
        · obtain ⟨event, _, same⟩ := ok_of_bind rest
          cases same
        · cases rest
    · cases blocked

end Engine

/-- A report names the gate that holds an alert up. -/
theorem Evaluation.blockedBy_eq_some_iff {evaluation : Evaluation} {gate : Gate} :
    evaluation.record.blockedBy = some gate.name ↔
      ∃ reason, evaluation.outcome = .blocked gate reason := by
  unfold Evaluation.record
  cases evaluation.outcome with
  | blocked other reason =>
    cases gate <;> cases other <;> simp [Gate.name, Document.Coded.code]
  | unobserved => cases gate <;> simp [Gate.name, Document.Coded.code]
  | quiet finding => simp
  | fired event => simp
  | failed fault => simp

theorem Evaluation.triggered_record (evaluation : Evaluation) :
    evaluation.record.triggered = evaluation.event?.isSome := by
  unfold Evaluation.record Evaluation.event?
  cases evaluation.outcome <;> rfl

end MarketAlerts
