import MarketAlerts.Calendar.ZoneRule
import MarketAlerts.Proofs.Desk.Run
import MarketAlerts.Proofs.Engine.Verdict
import MarketAlerts.Proofs.Number.Written

/-!
Notifications line by line. What an evaluation gives as a reason is made of fixed words, names of
fields, signs of operators and written numbers, and of nothing that a user has named; so it has no
line break in it, and the text of a notification falls into the lines of its events.
-/
namespace MarketAlerts

open Calendar Number

/-- Whatever ends a line. -/
def lineBreaks : List Char :=
  ['\n', '\x0b', '\x0c', '\r', '\x1c', '\x1d', '\x1e', '\x85', '\u2028', '\u2029']

/-- A text without a line break. -/
def IsLine (text : String) : Prop :=
  ∀ c ∈ text.toList, c ∉ lineBreaks

section Lines

instance (text : String) : Decidable (IsLine text) := List.decidableBAll _ text.toList

variable {first second separator : String} {parts : List String}

theorem IsLine.append (left : IsLine first) (right : IsLine second) : IsLine (first ++ second) := by
  intro c within
  rw [String.toList_append] at within
  obtain here | there := List.mem_append.1 within
  · exact left c here
  · exact right c there

theorem IsLine.intercalate (between : IsLine separator) (each : ∀ part ∈ parts, IsLine part) :
    IsLine (String.intercalate separator parts) := by
  induction parts with
  | nil => exact (by decide : IsLine "")
  | cons part rest ih =>
    obtain ⟨here, others⟩ := List.forall_mem_cons.1 each
    cases rest with
    | nil => simpa using here
    | cons next rest =>
      rw [String.intercalate_cons_cons]
      exact (here.append between).append (ih others)

theorem not_mem_lineBreaks_of_isNumeral {c : Char} (numeral : IsNumeral c) : c ∉ lineBreaks := by
  have apart : ∀ c ∈ lineBreaks, ¬ IsNumeral c := by simp [lineBreaks, IsNumeral]
  exact fun ends => apart c ends numeral

theorem isLine_fixed (places : Nat) (x : Float) : IsLine (fixed places x) :=
  fun _ written => not_mem_lineBreaks_of_isNumeral (isNumeral_of_mem_fixed written)

theorem isLine_general (x : Float) : IsLine (general x) :=
  fun _ written => not_mem_lineBreaks_of_isNumeral (isNumeral_of_mem_general written)

end Lines

section Reasons

theorem isLine_name (field : Field) : IsLine field.name := by
  cases field <;> decide

theorem isLine_symbol (operator : Operator) : IsLine operator.symbol := by
  cases operator <;> decide

theorem Condition.isLine_describe (condition : Condition) (field : Field) (operator : Operator)
    (actual : Float) : IsLine (condition.describe field operator actual) :=
  ((((((isLine_name field).append (by decide)).append (isLine_symbol operator)).append
    (by decide)).append (isLine_general _)).append (by decide)).append
    (isLine_fixed 2 actual) |>.append (by decide)

variable {analyzer : Analyzer Float} {seen : Observation} {news : Option (Coverage Float)}

theorem Condition.isLine_of_judgeValue {condition : Condition} {field : Field} {operator : Operator}
    {value : Option Float} (holds : (condition.judgeValue field operator value).matched = true) :
    IsLine (condition.judgeValue field operator value).description := by
  cases value with
  | none => contradiction
  | some actual =>
    unfold judgeValue at holds ⊢
    dsimp only at holds ⊢
    split at holds
    · contradiction
    · next regular =>
      rw [if_neg regular]
      exact condition.isLine_describe field operator actual

/-- A condition that holds is described by what it compares, not by names that are unknown. -/
theorem Condition.isLine_of_matched {condition : Condition}
    (holds : (condition.judge analyzer seen news).matched = true) :
    IsLine (condition.judge analyzer seen news).description := by
  unfold judge at holds ⊢
  split at holds
  · contradiction
  · contradiction
  · exact isLine_of_judgeValue holds

theorem Group.isLine_reason (groups : List Group) :
    IsLine (evaluate analyzer groups seen news).reason := by
  unfold evaluate conclude
  dsimp only
  split
  · decide
  · refine IsLine.append (by decide) (IsLine.intercalate (by decide) fun description said => ?_)
    obtain ⟨⟨logic, verdicts⟩, met, said⟩ := List.mem_flatMap.1 said
    obtain ⟨verdict, matched, rfl⟩ := List.mem_map.1 said
    obtain ⟨given, holds⟩ := List.mem_filter.1 matched
    obtain ⟨group, -, same⟩ := List.mem_map.1 (List.mem_of_mem_filter met)
    obtain ⟨-, rfl⟩ := Prod.mk.inj same
    obtain ⟨condition, -, rfl⟩ := List.mem_map.1 given
    exact condition.isLine_of_matched holds

theorem Coverage.isLine_reason (threshold : Float) :
    IsLine (evaluate analyzer threshold news).reason := by
  unfold evaluate
  split
  · decide
  · split
    · exact IsLine.append (by decide) (isLine_fixed 2 _)
    · decide

namespace Anomaly

variable {config : AnomalyConfig} {history : Option (List PricePoint)} {now : Timestamp}

theorem isLine_of_priceShock? {text : String} (said : priceShock? config seen = some text) :
    IsLine text := by
  unfold priceShock? at said
  dsimp only at said
  split at said <;> cases said
  exact (((IsLine.append (by decide) (isLine_fixed 2 _)).append (by decide)).append
    (isLine_general _)).append (by decide)

theorem isLine_of_volumeShock? {text : String} (said : volumeShock? config seen = some text) :
    IsLine text := by
  unfold volumeShock? at said
  split at said
  · split at said <;> cases said
    exact (IsLine.append (by decide) (isLine_fixed 1 _)).append (by decide)
  · contradiction

theorem isLine_of_outlier? {text : String} (said : outlier? config seen history = some text) :
    IsLine text := by
  unfold outlier? at said
  split at said
  · split at said <;> cases said
    exact (IsLine.append (by decide) (isLine_fixed 2 _)).append (by decide)
  · contradiction

theorem isLine_of_mem_signals {text : String} (reported : text ∈ signals config seen history) :
    IsLine text := by
  obtain ⟨signal, listed, said⟩ := List.mem_filterMap.1 reported
  simp only [List.mem_cons, List.not_mem_nil, or_false] at listed
  obtain rfl | rfl | rfl := listed
  · exact isLine_of_priceShock? said
  · exact isLine_of_volumeShock? said
  · exact isLine_of_outlier? said

theorem isLine_reason {finding : AnomalyFinding}
    (found : evaluate config seen news history now = .ok finding) : IsLine finding.reason := by
  obtain ⟨silenced, -, rfl⟩ := ok_of_map found
  unfold conclude
  dsimp only
  split
  · decide
  · split
    · decide
    · exact IsLine.append (by decide)
        (IsLine.intercalate (by decide) fun _ => isLine_of_mem_signals)

end Anomaly

end Reasons

/-- The hour and the minute of a wall clock, with two digits each. -/
def Calendar.Timestamp.clock (t : Timestamp) : List Char :=
  let hour := t.minuteOfDay / 60
  let minute := t.minuteOfDay % 60
  [Nat.digitChar (hour / 10), Nat.digitChar (hour % 10), ':', Nat.digitChar (minute / 10),
    Nat.digitChar (minute % 10)]

theorem Calendar.Timestamp.toList_clockText (t : Timestamp) : t.clockText.toList = t.clock := by
  have day : t.minuteOfDay < 1440 := Nat.mod_lt _ (by decide)
  unfold clockText clock
  dsimp only
  rw [padLeft_two (by omega), padLeft_two (by omega)]
  simp only [String.toList_append, String.toList_ofList]
  rfl

theorem Calendar.Timestamp.isLine_clockText (t : Timestamp) : IsLine t.clockText := by
  have day : t.minuteOfDay < 1440 := Nat.mod_lt _ (by decide)
  have digit : ∀ value < 10, Nat.digitChar value ∉ lineBreaks := by decide
  intro c written
  rw [toList_clockText] at written
  simp only [clock, List.mem_cons, List.not_mem_nil, or_false] at written
  obtain rfl | rfl | rfl | rfl | rfl := written
  · exact digit _ (by omega)
  · exact digit _ (by omega)
  · decide
  · exact digit _ (by omega)
  · exact digit _ (by omega)

namespace Template

theorem isLine_line {event : Event} (single : IsLine event.reason) : IsLine (line event) :=
  ((IsLine.append (by decide) event.triggeredAt.isLine_clockText).append (by decide)).append single

end Template

section

variable [Installation]

namespace Engine

variable {engine : Engine} {alert : Alert} {evidence : Evidence} {now : Timestamp}

/-- What triggers on an observation gives a reason without a line break, whatever the kind of the
alert. -/
theorem isLine_of_dispatch {seen : Observation} (observed : evidence.seen = some seen)
    {finding : Finding} (found : engine.dispatch alert evidence now = .ok finding)
    (triggered : finding.triggered = true) : IsLine finding.reason := by
  have conditions : dispatchWith.conditions standardAnalyzer alert evidence = .ok finding →
      IsLine finding.reason := by
    unfold dispatchWith.conditions
    rw [observed]
    rintro ⟨⟩
    exact Group.isLine_reason alert.groups
  unfold dispatch dispatchWith at found
  split at found
  · exact conditions found
  · exact conditions found
  · cases found
    exact Coverage.isLine_reason _
  · obtain ⟨config, -, found⟩ := ok_of_bind found
    rw [observed] at found
    obtain ⟨anomaly, judged, found⟩ := ok_of_bind found
    cases found
    exact Anomaly.isLine_reason judged
  · cases found
    contradiction

end Engine

/-- An event that some engine made of an alert, whatever the alert, the observation and the news. -/
def Event.IsBuilt (event : Event) : Prop :=
  ∃ (engine : Engine) (alert : Alert) (evidence : Engine.Evidence) (now : Timestamp)
    (triggersToday : Option Nat)
    (id : String), engine.evaluate alert evidence now triggersToday id = .ok (.fired event)

theorem Event.IsBuilt.isLine_reason {event : Event} (built : event.IsBuilt) :
    IsLine event.reason := by
  obtain ⟨engine, alert, evidence, now, triggersToday, id, fired⟩ := built
  rw [Engine.evaluate_eq] at fired
  obtain ⟨decision, -, fired⟩ := ok_of_bind fired
  cases decision with
  | blocked gate reason => cases fired
  | passed =>
    obtain ⟨finding, found, fired⟩ := ok_of_bind fired
    split at fired
    · next triggered =>
      obtain ⟨made, fires, same⟩ := ok_of_bind fired
      cases same
      unfold Engine.fire Engine.fireWith at fires
      split at fires
      · cases fires
      · next seen observed =>
        cases fires
        exact Engine.isLine_of_dispatch observed found triggered
    · cases fired

namespace Template

/-- A notification of events that were made of alerts has one line for each, in their order: the
time of the event and its reason. -/
theorem splitOn_body (ticker : String) {events : List Event} (nonempty : events ≠ [])
    (built : ∀ event ∈ events, event.IsBuilt) :
    (∀ event ∈ events, IsLine event.reason) ∧
      ∃ template, compose ticker events = .ok template ∧
        template.body.toList.splitOn '\n' =
          (events.map fun event => "- ".toList ++ event.triggeredAt.clock
            ++ ' ' :: event.reason.toList) ∧
        template.eventIds = events.map (·.id) ∧
        (template.urgency = .warning ↔ 1 < events.length) := by
  have single : ∀ event ∈ events, IsLine event.reason :=
    fun event listed => (built event listed).isLine_reason
  obtain ⟨latest, last⟩ := Option.isSome_iff_exists.1 (List.getLast?_isSome.2 nonempty)
  refine ⟨single, _, by rw [compose, last], ?_, rfl, ?_⟩
  · have broken : '\n' ∈ lineBreaks := by decide
    have lines : (String.intercalate "\n" (events.map line)).toList =
        ['\n'].intercalate ((events.map line).map String.toList) := String.toList_intercalate
    dsimp only
    rw [lines, List.splitOn_intercalate, List.map_map]
    · refine List.map_congr_left fun event listed => ?_
      simp only [Function.comp_apply, line, String.toList_append, Timestamp.toList_clockText,
        List.append_assoc]
      rfl
    · intro text listed breaks
      obtain ⟨_, made, rfl⟩ := List.mem_map.1 listed
      obtain ⟨event, given, rfl⟩ := List.mem_map.1 made
      exact isLine_line (single event given) _ breaks broken
    · simpa using nonempty
  · dsimp only
    split <;> simp [*]

end Template

end

namespace Template

/-- What a full hour brings for an alert on a price above one. -/
def hourly (hours : Nat) : Event :=
  { id := "1-0"
    alertId := "first"
    ticker := "ACME"
    triggeredAt := (oClock hours).aware
    reason := "Conditions met: PRICE > 1 (actual: 2.00)"
    conditionsMet := ["PRICE > 1 (actual: 2.00)"]
    price := 2
    volume := some 100
    newsCount := none
    sentiment := none
    action := .pending
    actionAt := none
    snoozedUntil := none }

theorem splitOn_body_hourly : ∃ template, compose "ACME" [hourly 14, hourly 15] = .ok template ∧
    template.body.toList.splitOn '\n' = ["- 14:00 Conditions met: PRICE > 1 (actual: 2.00)".toList,
      "- 15:00 Conditions met: PRICE > 1 (actual: 2.00)".toList] := by
  have built : ∀ event ∈ [hourly 14, hourly 15], event.IsBuilt := by
    simp only [List.forall_mem_cons, List.not_mem_nil]
    refine ⟨⟨Desk.pair.engine, .eager "first" true, ⟨Market.steady.observation "ACME", none, none⟩,
      oClock 14, some 0,
      "1-0", ?_⟩,
      ⟨Desk.pair.engine, .eager "first" true, ⟨Market.steady.observation "ACME", none, none⟩,
        oClock 15,
      some 0, "1-0", ?_⟩, fun _ => False.elim⟩
    · rfl
    · rfl
  obtain ⟨-, template, composed, lines, -⟩ := splitOn_body "ACME" (List.cons_ne_nil _ _) built
  exact ⟨template, composed, lines.trans (by decide +kernel)⟩

end Template

end MarketAlerts
