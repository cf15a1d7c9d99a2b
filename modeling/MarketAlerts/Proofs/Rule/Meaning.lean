import Mathlib.Data.List.Forall2
import MarketAlerts.Rule.Group

/-!
What a rule means. A condition holds if the value of its field is there and stands to its target as
one of the comparisons says; a group is satisfied if it has conditions, and all or any of them hold.
Evaluating a list of groups says exactly this, and names exactly the conditions that hold in
satisfied groups.
-/
namespace MarketAlerts

/-- The operators that one observation is enough for. -/
def Operator.comparisons : List Operator :=
  [greaterThan, lessThan, greaterThanEqual, lessThanEqual, equal, notEqual, percentageChange]

theorem Operator.mem_comparisons_iff {operator : Operator} :
    operator ∈ comparisons ↔ operator.isCrossing = false := by
  cases operator <;> decide

/-- Filtering what is made of values is filtering the values by what is asked of it. -/
theorem filter_map_of_iff {α β : Type} {f : α → β} {p : β → Bool} {q : α → Prop} [DecidablePred q]
    (same : ∀ a, p (f a) = true ↔ q a) (values : List α) :
    (values.map f).filter p = (values.filter (q ·)).map f := by
  rw [List.filter_map]
  congr 1
  refine List.filter_congr fun a _ => ?_
  rw [Bool.eq_iff_iff, decide_eq_true_iff]
  exact same a

variable (analyzer : Analyzer Float) (seen : Observation) (news : Option (Coverage Float))

namespace Condition

/-- A condition holds by a field that it names, a comparison that it names and the value of the
field. -/
structure HoldsBy (condition : Condition) (field : Field) (operator : Operator) (actual : Float) :
    Prop where
  names_field : condition.field = .known field
  names_operator : condition.operator = .known operator
  comparison : operator ∈ Operator.comparisons
  available : field.value? analyzer seen news = some actual
  compares : operator.compare actual condition.value = true

def Holds (condition : Condition) : Prop :=
  ∃ field operator actual, condition.HoldsBy analyzer seen news field operator actual

/-- What is said about a condition that holds. -/
def SaidOf (condition : Condition) (description : String) : Prop :=
  ∃ field operator actual, condition.HoldsBy analyzer seen news field operator actual ∧
    description = condition.describe field operator actual

variable {analyzer seen news} {condition : Condition}

theorem HoldsBy.judge {field : Field} {operator : Operator} {actual : Float}
    (h : condition.HoldsBy analyzer seen news field operator actual) :
    condition.judge analyzer seen news = ⟨true, condition.describe field operator actual⟩ := by
  have comparison := Operator.mem_comparisons_iff.1 h.comparison
  unfold Condition.judge
  rw [h.names_field, h.names_operator]
  dsimp only
  rw [h.available, judgeValue, comparison, h.compares]
  rfl

theorem holds_of_matched (matched : (condition.judge analyzer seen news).matched = true) :
    condition.Holds analyzer seen news := by
  unfold judge at matched
  split at matched
  · contradiction
  · contradiction
  · next field operator names_field names_operator =>
    cases value : field.value? analyzer seen news with
    | none =>
      rw [value] at matched
      contradiction
    | some actual =>
      rw [value, judgeValue] at matched
      by_cases crossing : operator.isCrossing = true
      · rw [if_pos crossing] at matched
        contradiction
      · rw [if_neg crossing] at matched
        have comparison := Operator.mem_comparisons_iff.2 (Bool.not_eq_true _ ▸ crossing)
        exact ⟨field, operator, actual, names_field, names_operator, comparison, value, matched⟩

theorem matched_iff : (condition.judge analyzer seen news).matched = true ↔
    condition.Holds analyzer seen news :=
  ⟨holds_of_matched, fun ⟨_, _, _, h⟩ => congrArg Verdict.matched h.judge⟩

instance : Decidable (condition.Holds analyzer seen news) := decidable_of_iff _ matched_iff

/-- The verdict on a condition that holds says what is to be said. -/
theorem saidOf_judge (h : condition.Holds analyzer seen news) :
    condition.SaidOf analyzer seen news (condition.judge analyzer seen news).description := by
  obtain ⟨field, operator, actual, by_value⟩ := h
  exact ⟨field, operator, actual, by_value, congrArg Verdict.description by_value.judge⟩

end Condition

namespace Group

/-- A group has conditions, and all or any of them hold, as its logic asks. -/
def IsSatisfied (group : Group) : Prop :=
  group.conditions ≠ [] ∧ match group.logic with
    | .all => ∀ condition ∈ group.conditions, condition.Holds analyzer seen news
    | .any => ∃ condition ∈ group.conditions, condition.Holds analyzer seen news

variable {analyzer seen news}

theorem satisfied_iff {group : Group} :
    satisfied group.logic (group.verdicts analyzer seen news) = true ↔
    group.IsSatisfied analyzer seen news := by
  unfold satisfied verdicts IsSatisfied
  cases group.logic <;> simp [Condition.matched_iff]

instance (group : Group) : Decidable (group.IsSatisfied analyzer seen news) :=
  decidable_of_iff _ satisfied_iff

/-- Some condition of a satisfied group holds. -/
theorem IsSatisfied.exists_holds {group : Group} (h : group.IsSatisfied analyzer seen news) :
    ∃ condition ∈ group.conditions, condition.Holds analyzer seen news := by
  obtain ⟨filled, logic⟩ := h
  split at logic
  · obtain ⟨first, member⟩ := List.exists_mem_of_ne_nil _ filled
    exact ⟨first, member, logic first member⟩
  · exact logic

variable (analyzer seen news)

/-- The conditions that hold in satisfied groups, in the order written. -/
def holding (groups : List Group) : List Condition :=
  (groups.filter (·.IsSatisfied analyzer seen news)).flatMap fun group =>
    group.conditions.filter (·.Holds analyzer seen news)

theorem mem_holding_iff {groups : List Group} {condition : Condition} :
    condition ∈ holding analyzer seen news groups ↔ ∃ group ∈ groups,
    group.IsSatisfied analyzer seen news ∧
      condition ∈ group.conditions ∧ condition.Holds analyzer seen news := by
  simp [holding, and_assoc]

theorem holding_ne_nil_iff {groups : List Group} :
    holding analyzer seen news groups ≠ [] ↔ ∃ group ∈ groups,
    group.IsSatisfied analyzer seen news := by
  constructor
  · intro nonempty
    obtain ⟨condition, member⟩ := List.exists_mem_of_ne_nil _ nonempty
    obtain ⟨group, listed, satisfied, -⟩ := (mem_holding_iff analyzer seen news).1 member
    exact ⟨group, listed, satisfied⟩
  · rintro ⟨group, listed, satisfied⟩
    obtain ⟨condition, own, holds⟩ := satisfied.exists_holds
    exact List.ne_nil_of_mem
      ((mem_holding_iff analyzer seen news).2 ⟨group, listed, satisfied, own, holds⟩)

/-- The groups that are summed up as met are the satisfied ones. -/
theorem filter_satisfied (groups : List Group) :
    ((groups.map fun group => (group.logic, group.verdicts analyzer seen news)).filter
        fun (logic, verdicts) => satisfied logic verdicts) =
      (groups.filter (·.IsSatisfied analyzer seen news)).map
        fun group => (group.logic, group.verdicts analyzer seen news) := by
  refine filter_map_of_iff ?_ groups
  exact fun _ => satisfied_iff

theorem filter_matched (group : Group) :
    ((group.verdicts analyzer seen news).filter (·.matched)).map (·.description) =
      (group.conditions.filter (·.Holds analyzer seen news)).map
        fun condition => (condition.judge analyzer seen news).description := by
  rw [verdicts, filter_map_of_iff fun _ => Condition.matched_iff, List.map_map]
  rfl

theorem conditionsMet_evaluate (groups : List Group) :
    (evaluate analyzer groups seen news).conditionsMet =
      (holding analyzer seen news groups).map fun condition =>
      (condition.judge analyzer seen news).description := by
  unfold evaluate conclude holding
  dsimp only
  rw [filter_satisfied, List.flatMap_map, List.map_flatMap]
  simp only [filter_matched]

theorem triggered_evaluate_iff (groups : List Group) :
    (evaluate analyzer groups seen news).triggered = true ↔
      ∃ group ∈ groups, group.IsSatisfied analyzer seen news := by
  unfold evaluate conclude
  dsimp only
  rw [filter_satisfied]
  simp

theorem reason_evaluate (groups : List Group) :
    (evaluate analyzer groups seen news).reason =
      if (evaluate analyzer groups seen news).triggered then
        "Conditions met: "
          ++ String.intercalate ", " (evaluate analyzer groups seen news).conditionsMet
      else "No conditions met" := by
  unfold evaluate conclude
  dsimp only
  split <;> simp_all

/-- Evaluating a rule says what the rule means. It fires if and only if some group is satisfied. It
names the conditions that hold in satisfied groups and no others, one after the other as they are
written, each by its comparison and the value found; it names some if and only if it fires, and they
are its reason. -/
theorem evaluate_means (groups : List Group) :
    let finding := evaluate analyzer groups seen news
    let named := holding analyzer seen news groups
    (finding.triggered = true ↔ ∃ group ∈ groups, group.IsSatisfied analyzer seen news) ∧
    finding.conditionsMet =
    named.map (fun condition => (condition.judge analyzer seen news).description) ∧
    List.Forall₂ (Condition.SaidOf analyzer seen news) named finding.conditionsMet ∧
    (finding.triggered = true ↔ finding.conditionsMet ≠ []) ∧
    finding.reason = if finding.triggered
      then "Conditions met: " ++ String.intercalate ", " finding.conditionsMet
      else "No conditions met" := by
  intro finding named
  have met : finding.conditionsMet = named.map _ := conditionsMet_evaluate analyzer seen news groups
  have fires := triggered_evaluate_iff analyzer seen news groups
  refine ⟨fires, met, ?_, ?_, reason_evaluate analyzer seen news groups⟩
  · rw [met, List.forall₂_map_right_iff, List.forall₂_same]
    intro condition member
    obtain ⟨_, _, _, _, holds⟩ := (mem_holding_iff analyzer seen news).1 member
    exact Condition.saidOf_judge holds
  · rw [met, ne_eq, List.map_eq_nil_iff]
    exact fires.trans (holding_ne_nil_iff analyzer seen news).symm

/-- At a price of two: no conditions, one that fails beside one that holds, one that holds beside a
crossing. -/
example :
    let above (target : Float) : Condition :=
      ⟨"above", .known .price, .known .greaterThan, target, none⟩
    let crossing : Condition := ⟨"crossing", .known .price, .known .crossesAbove, 1, none⟩
    let groups : List Group :=
      [⟨"empty", .all, []⟩, ⟨"failing", .all, [above 1, above 3]⟩,
        ⟨"met", .any, [crossing, above 1.5, above 3]⟩]
    let seen : Observation :=
      ⟨"ACME", 2, 2, 100, none, none, none, none, none, none, ⟨0, none, by decide⟩⟩
    (evaluate (.ofKeywords none none 0.2) groups seen none).reason =
      "Conditions met: PRICE > 1.5 (actual: 2.00)" := by decide +kernel

end Group

end MarketAlerts
