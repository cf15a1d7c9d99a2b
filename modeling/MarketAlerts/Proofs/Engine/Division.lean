import MarketAlerts.Proofs.Engine.Verdict
import MarketAlerts.Proofs.News.Sentiment

/-!
The divisions of an evaluation. Whatever an evaluation divides by it has looked at before, so that
it never divides by zero: it comes out the same with a division that fails there.
-/
namespace MarketAlerts

open Document Calendar

/-- A double that is above zero is not equal to it. -/
theorem Number.beq_zero_of_pos {x : Float} (h : 0 < x) : (x == 0) = false := by
  have zero : (0 : Float).toModel.unpack = .zero .positive := rfl
  have above : (0 : Float).toModel.unpack.lt x.toModel.unpack = true := of_decide_eq_true h
  have apart : x.toModel.unpack.beq (0 : Float).toModel.unpack = false := by
    rw [zero] at above ⊢
    cases unpacked : x.toModel.unpack with
    | zero sign => rw [unpacked] at above; contradiction
    | notANumber => rfl
    | infinity sign => cases sign <;> rfl
    | finite sign mantissa exponent positive => cases sign <;> rfl
  exact apart

/-- A division of doubles by one another and by counts. It is the usual one away from zero, and by
zero it may do anything. -/
structure Division where
  quotient : Float → Float → Except Fault Float
  share : Float → Nat → Except Fault Float
  quotient_eq : ∀ a b, (b == 0) = false → quotient a b = .ok (a / b)
  share_eq : ∀ sum count, count ≠ 0 → share sum count = .ok (sum / Float.ofNat count)

namespace Division

/-- The division that fails by zero. -/
def failing : Division where
  quotient a b := if b == 0 then .error .divisionByZero else .ok (a / b)
  share sum count := if count = 0 then .error .divisionByZero else .ok (sum / Float.ofNat count)
  quotient_eq _ _ apart := by rw [apart]; rfl
  share_eq _ _ filled := if_neg filled

variable (division : Division)

section Figures

variable (seen : Observation)

def priceChange? : Except Fault (Option Float) :=
  if seen.previousClose == 0 then .ok none
  else do
    return some ((← division.quotient (seen.price - seen.previousClose) seen.previousClose) * 100)

theorem priceChange?_eq : division.priceChange? seen = .ok seen.priceChange? := by
  unfold priceChange? Observation.priceChange?
  split
  · rfl
  · next apart =>
    rw [division.quotient_eq _ _ (Bool.eq_false_iff.2 apart)]
    rfl

theorem quotient_usualVolume {usual : Float} (known : seen.usualVolume? = some usual) :
    division.quotient seen.volume usual = .ok (seen.volume / usual) := by
  obtain ⟨-, apart⟩ := Option.filter_eq_some_iff.1 known
  exact division.quotient_eq _ _ (by simpa [bne] using apart)

def volumeRatio? : Except Fault (Option Float) :=
  match seen.usualVolume? with
  | none => .ok none
  | some usual => do return some (← division.quotient seen.volume usual)

theorem volumeRatio?_eq : division.volumeRatio? seen = .ok seen.volumeRatio? := by
  unfold volumeRatio? Observation.volumeRatio?
  split
  · next unknown => rw [unknown]; rfl
  · next usual known =>
    rw [known, division.quotient_usualVolume seen known]
    rfl

end Figures

section News

variable (analyzer : Analyzer Float)

def average (scores : List Float) : Except Fault Float :=
  if scores.isEmpty then .ok 0 else division.share (scores.foldl (· + ·) 0) scores.length

theorem average_eq (scores : List Float) :
    division.average scores = .ok (Analyzer.average scores) := by
  unfold average Analyzer.average
  split
  · rfl
  · next filled =>
    exact division.share_eq _ _ fun empty => filled (List.isEmpty_iff_length_eq_zero.2 empty)

def sentiment? (news : Coverage Float) : Except Fault (Option Float) :=
  match news.average with
  | some average => .ok (some average)
  | none =>
    if news.articles.isEmpty then .ok none
    else do return some (← division.average (Coverage.scores analyzer news.articles))

theorem sentiment?_eq (news : Coverage Float) :
    division.sentiment? analyzer news = .ok (news.sentiment? analyzer) := by
  unfold sentiment? Coverage.sentiment?
  cases news.average with
  | some average => rfl
  | none =>
    dsimp only
    split
    · rfl
    · rw [average_eq]
      rfl

/-- The news with its average sentiment written down. -/
def scored : Option (Coverage Float) → Except Fault (Option (Coverage Float))
  | none => .ok none
  | some news => do return some { news with average := ← division.sentiment? analyzer news }

theorem scored_eq (news : Option (Coverage Float)) :
    division.scored analyzer news = .ok (news.map (·.resolve analyzer)) := by
  cases news with
  | none => rfl
  | some news =>
    rw [scored, sentiment?_eq]
    rfl

end News

section Rules

variable (analyzer : Analyzer Float) (seen : Observation) (news : Option (Coverage Float))

def value? : Field → Except Fault (Option Float)
  | .priceChange => division.priceChange? seen
  | .volumeRatio => division.volumeRatio? seen
  | .newsSentiment => do return (← division.scored analyzer news).bind (·.average)
  | field => .ok (field.value? analyzer seen news)

theorem value?_eq (field : Field) :
    division.value? analyzer seen news field = .ok (field.value? analyzer seen news) := by
  cases field with
  | priceChange => exact division.priceChange?_eq seen
  | volumeRatio => exact division.volumeRatio?_eq seen
  | newsSentiment =>
    rw [value?, scored_eq, ok_bind, Option.bind_map]
    rfl
  | _ => rfl

/-- A name that is unknown calls for no division. -/
def judge (condition : Condition) : Except Fault Verdict :=
  match condition.field, condition.operator with
  | .known field, .known operator => do
    return condition.judgeValue field operator (← division.value? analyzer seen news field)
  | _, _ => .ok (condition.judge analyzer seen news)

theorem judge_eq (condition : Condition) :
    division.judge analyzer seen news condition = .ok (condition.judge analyzer seen news) := by
  unfold judge
  split
  · next field operator knownField knownOperator =>
    rw [value?_eq, ok_bind, Condition.judge, knownField, knownOperator]
    rfl
  · rfl

def conditions (groups : List Group) : Except Fault Finding := do
  let judged ← groups.mapM fun group => do
    return (group.logic, ← group.conditions.mapM (division.judge analyzer seen news))
  return Group.conclude judged

theorem conditions_eq (groups : List Group) :
    division.conditions analyzer seen news groups =
    .ok (Group.evaluate analyzer groups seen news) := by
  have judged (group : Group) : group.conditions.mapM (division.judge analyzer seen news) =
      .ok (group.verdicts analyzer seen news) :=
    mapM_ok fun condition _ => division.judge_eq analyzer seen news condition
  have all : (groups.mapM fun group => do
      return (group.logic, ← group.conditions.mapM (division.judge analyzer seen news))) =
        Except.ok (groups.map fun group => (group.logic, group.verdicts analyzer seen news)) :=
    mapM_ok fun group _ => by rw [judged, ok_bind]; rfl
  rw [conditions, all, ok_bind]
  rfl

end Rules

section Anomalies

variable (config : AnomalyConfig) (seen : Observation)

def priceShock? : Except Fault (Option String) := do
  let move := (← division.priceChange? seen).getD 0
  return if config.priceChange.val ≤ move.abs then
    some ("Price change: " ++ Number.fixed 2 move ++ "% (threshold: "
      ++ Number.general config.priceChange ++ "%)")
  else none

theorem priceShock?_eq :
    division.priceShock? config seen = .ok (Anomaly.priceShock? config seen) := by
  rw [priceShock?, priceChange?_eq, ok_bind]
  rfl

def volumeShock? : Except Fault (Option String) :=
  match seen.usualVolume? with
  | none => .ok none
  | some usual =>
    if usual * config.volumeSpike.val ≤ seen.volume then do
      let ratio ← division.quotient seen.volume usual
      return some ("Volume spike: " ++ Number.fixed 1 ratio ++ "x average")
    else .ok none

theorem volumeShock?_eq :
    division.volumeShock? config seen = .ok (Anomaly.volumeShock? config seen) := by
  unfold volumeShock? Anomaly.volumeShock?
  cases known : seen.usualVolume? with
  | none => rfl
  | some usual =>
    dsimp only
    split
    · rw [division.quotient_usualVolume seen known]
      rfl
    · rfl

/-- A history that is long enough is not without prices, and a deviation above zero is not zero. -/
def outlier? : Option (List PricePoint) → Except Fault (Option String)
  | none => .ok none
  | some points =>
    if Anomaly.leastHistory ≤ points.length then do
      let spread ← PriceHistory.statistics points
      if 0 < spread.deviation then do
        let score ← division.quotient (seen.price - spread.mean).abs spread.deviation
        return if config.sigma.val ≤ score then
          some ("Statistical outlier: " ++ Number.fixed 2 score ++ "σ from mean")
        else none
      else return none
    else .ok none

theorem outlier?_eq (history : Option (List PricePoint)) :
    division.outlier? config seen history = .ok (Anomaly.outlier? config seen history) := by
  cases history with
  | none => rfl
  | some points =>
    unfold outlier? Anomaly.outlier? Anomaly.spread?
    dsimp only
    by_cases long : Anomaly.leastHistory ≤ points.length
    · obtain ⟨spread, found⟩ : ∃ spread, PriceHistory.statistics points = .ok spread := by
        cases points with
        | nil => exact absurd long (by decide)
        | cons => exact ⟨_, rfl⟩
      rw [if_pos long, if_pos long, found, ok_bind]
      simp only [Except.toOption]
      by_cases above : 0 < spread.deviation
      · rw [if_pos above, division.quotient_eq _ _ (Number.beq_zero_of_pos above), ok_bind]
        simp only [above, true_and]
        rfl
      · rw [if_neg above]
        simp only [above, false_and]
        rfl
    · rw [if_neg long, if_neg long]

def anomaly (news : Option (Coverage Float)) (history : Option (List PricePoint))
    (now : Timestamp) : Except Fault AnomalyFinding := do
  let price ← division.priceShock? config seen
  let volume ← division.volumeShock? config seen
  let outlier ← division.outlier? config seen history
  let silenced ← Anomaly.isSilenced config news now
  return Anomaly.conclude ([price, volume, outlier].filterMap id) silenced

theorem anomaly_eq (news : Option (Coverage Float)) (history : Option (List PricePoint))
    (now : Timestamp) :
    division.anomaly config seen news history now =
    Anomaly.evaluate config seen news history now := by
  rw [anomaly, priceShock?_eq, ok_bind, volumeShock?_eq, ok_bind, outlier?_eq, ok_bind,
    Anomaly.evaluate]
  cases Anomaly.isSilenced config news now <;> rfl

end Anomalies

section Evaluation

variable [Installation] (engine : Engine) (alert : Alert) (seen : Observation)

def dispatch (news : Option (Coverage Float)) (prices : Option (List PricePoint))
    (now : Timestamp) : Except Fault Finding :=
  match alert.kind with
  | .known .threshold => division.conditions standardAnalyzer seen news alert.groups
  | .known .multiCondition => division.conditions standardAnalyzer seen news alert.groups
  | .known .newsTriggered => do
    let news ← division.scored standardAnalyzer news
    return Coverage.evaluate standardAnalyzer engine.settings.sentiment.negativeThreshold news
  | .known .anomaly => do
    let config ← alert.anomaly.elim engine.defaultAnomaly .ok
    return (← division.anomaly config seen news prices now).toFinding
  | .other _ => engine.dispatch alert ⟨some seen, news, prices⟩ now

theorem dispatch_eq (news : Option (Coverage Float)) (prices : Option (List PricePoint))
    (now : Timestamp) : division.dispatch engine alert seen news prices now =
      engine.dispatch alert ⟨some seen, news, prices⟩ now := by
  unfold dispatch Engine.dispatch Engine.dispatchWith
  cases alert.kind with
  | other name => rfl
  | known kind =>
    cases kind with
    | newsTriggered =>
      dsimp only
      rw [scored_eq, ok_bind, Coverage.evaluate_resolve]
      rfl
    | anomaly => simp only [anomaly_eq]
    | _ => exact division.conditions_eq standardAnalyzer seen news alert.groups

/-- An event bears the sentiment of the news whether or not it is written down already. -/
theorem fire_resolve (news : Option (Coverage Float)) (prices : Option (List PricePoint))
    (finding : Finding) (now : Timestamp) (id : String) :
    Engine.fire alert ⟨some seen, news.map (·.resolve standardAnalyzer), prices⟩ finding now id =
      Engine.fire alert ⟨some seen, news, prices⟩ finding now id := by
  cases news with
  | none => rfl
  | some news =>
    have count : (news.resolve standardAnalyzer).count = news.count := rfl
    simp only [Engine.fire, Engine.fireWith, Option.map_some, Option.bind_some, count,
      Coverage.sentiment?_resolve]

/-- An evaluation on an observation, with this division. -/
def evaluate (news : Option (Coverage Float)) (prices : Option (List PricePoint)) (now : Timestamp)
    (triggersToday : Option Nat) (id : String) : Except Fault EvaluationOutcome := do
  let now := now.aware
  let news ← division.scored engine.analyzer news
  match ← engine.screen alert now triggersToday with
  | .blocked gate reason => return .blocked gate reason
  | .passed =>
    let finding ← division.dispatch engine alert seen news prices now
    if finding.triggered then
      let scored ← division.scored standardAnalyzer news
      return .fired (← Engine.fire alert ⟨some seen, scored, prices⟩ finding now id)
    else return .quiet finding

/-- No evaluation divides by zero. -/
theorem evaluate_eq (news : Option (Coverage Float)) (prices : Option (List PricePoint))
    (now : Timestamp) (triggersToday : Option Nat) (id : String) :
    division.evaluate engine alert seen news prices now triggersToday id =
      engine.evaluate alert ⟨some seen, news, prices⟩ now triggersToday id := by
  rw [Engine.evaluate_eq, evaluate, scored_eq, ok_bind]
  refine bind_congr fun decision => ?_
  cases decision with
  | blocked gate reason => rfl
  | passed =>
    dsimp only
    rw [dispatch_eq]
    refine bind_congr fun finding => ?_
    split
    · rw [scored_eq, ok_bind, fire_resolve]
      rfl
    · rfl

end Evaluation

end Division

end MarketAlerts
