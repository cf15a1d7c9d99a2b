import MarketAlerts.Calendar.ZoneRule
import MarketAlerts.Proofs.Desk.Run
import MarketAlerts.Proofs.Engine.Verdict
import MarketAlerts.Proofs.News.Sentiment

/-!
The one sentiment of an evaluation. Rules, the news threshold and the event read the news only
through its count, its dates and its sentiment. An engine writes the sentiment down before it
evaluates, so that its own analyzer decides what all of them see, and the analyzer that they would
fall back to decides nothing.
-/
namespace MarketAlerts

open Calendar

section Rules

variable (analyzer : Analyzer Float) (seen : Observation) (news : Option (Coverage Float))
    (sentiment : Option Float)

/-- The value of a field where the sentiment is known. -/
def Field.valueOn : Field → Option Float
  | .price => some seen.price
  | .priceChange => seen.priceChange?
  | .volume => some seen.volume
  | .volumeRatio => seen.volumeRatio?
  | .peRatio => seen.peRatio
  | .rsi => seen.rsi
  | .movingAverage50 => seen.movingAverage50
  | .movingAverage200 => seen.movingAverage200
  | .newsSentiment => sentiment
  | .marketCap => seen.marketCap

theorem Field.value?_eq (field : Field) :
    field.value? analyzer seen news = field.valueOn seen (news.bind (·.sentiment? analyzer)) := by
  cases field <;> rfl

def Condition.judgeOn (condition : Condition) : Verdict :=
  match condition.field, condition.operator with
  | .other name, _ => ⟨false, "unknown field " ++ name⟩
  | .known _, .other name => ⟨false, "unknown operator " ++ name⟩
  | .known field, .known operator =>
    condition.judgeValue field operator (field.valueOn seen sentiment)

theorem Condition.judge_eq (condition : Condition) :
    condition.judge analyzer seen news =
      condition.judgeOn seen (news.bind (·.sentiment? analyzer)) := by
  simp only [judge, Field.value?_eq]
  rfl

def Group.evaluateOn (groups : List Group) : Finding :=
  conclude (groups.map fun group =>
    (group.logic, group.conditions.map fun condition => condition.judgeOn seen sentiment))

theorem Group.evaluate_eq (groups : List Group) :
    evaluate analyzer groups seen news =
      evaluateOn seen (news.bind (·.sentiment? analyzer)) groups := by
  unfold evaluate evaluateOn verdicts
  simp only [Condition.judge_eq]

/-- Without an observation there is no other value than the sentiment. -/
def Field.blindValueOn (field : Field) : Except Fault (Option Float) :=
  match field.firstItem? with
  | some item => .error (.noObservation item)
  | none => .ok sentiment

def Condition.judgeBlindOn (condition : Condition) : Except Fault Verdict :=
  match condition.field, condition.operator with
  | .other name, _ => .ok ⟨false, "unknown field " ++ name⟩
  | .known _, .other name => .ok ⟨false, "unknown operator " ++ name⟩
  | .known field, .known operator => do
    match ← field.blindValueOn sentiment with
    | some actual => return condition.judgeValue field operator (some actual)
    | none => .error (.noObservation "ticker")

def Group.evaluateBlindOn (groups : List Group) : Except Fault Finding := do
  let judged ← groups.mapM fun group => do
    return (group.logic, ← group.conditions.mapM fun condition => condition.judgeBlindOn sentiment)
  return conclude judged

theorem Group.evaluateBlind_eq (groups : List Group) :
    evaluateBlind analyzer groups news =
      evaluateBlindOn (news.bind (·.sentiment? analyzer)) groups := rfl

/-- Bad news where the sentiment is known, and how many articles there are. -/
def Coverage.evaluateOn (count : Option Nat) (threshold : Float) : Finding :=
  match count.filter (0 < ·) with
  | none => ⟨false, "No news data available", []⟩
  | some count =>
    match sentiment.filter (· < threshold) with
    | some sentiment =>
      ⟨true, "Negative news sentiment detected: " ++ Number.fixed 2 sentiment,
        [toString count ++ " news articles with negative sentiment"]⟩
    | none => ⟨false, "No negative news sentiment", []⟩

theorem Coverage.evaluate_eq (threshold : Float) : evaluate analyzer threshold news =
    evaluateOn (news.bind (·.sentiment? analyzer)) (news.map (·.count)) threshold := by
  unfold evaluate evaluateOn
  cases news with
  | none => rfl
  | some news =>
    rw [Option.map_some]
    by_cases counted : 0 < news.count
    · rw [Option.filter_some_pos (by simpa using counted),
        Option.filter_some_pos (by simpa using counted)]
      rfl
    · rw [Option.filter_some_neg (by simpa using counted),
        Option.filter_some_neg (by simpa using counted)]

end Rules

namespace Engine

section

variable [Installation] (engine : Engine)

/-- The sentiment of news in an engine: the supplied one, or that of the engine's own analyzer if
there are articles. -/
def sentiment? : Option (Coverage Float) → Option Float
  | none => none
  | some news =>
    match news.average, news.articles with
    | some average, _ => some average
    | none, [] => none
    | none, articles => some (Analyzer.average (Coverage.scores engine.analyzer articles))

/-- The evaluation of an alert by its kind where the sentiment is known. -/
def dispatchOn (sentiment : Option Float) (alert : Alert) (evidence : Evidence) (now : Timestamp) :
    Except Fault Finding :=
  match alert.kind with
  | .known .threshold => conditions
  | .known .multiCondition => conditions
  | .known .newsTriggered =>
    .ok (Coverage.evaluateOn sentiment
      (evidence.news.map (·.count)) engine.settings.sentiment.negativeThreshold)
  | .known .anomaly => do
    let config ← alert.anomaly.elim engine.defaultAnomaly .ok
    match evidence.seen with
    | none => .error (.noObservation "previous_close")
    | some seen =>
      return (← Anomaly.evaluate config seen evidence.news evidence.prices now).toFinding
  | .other name => .ok ⟨false, "Unknown alert type: " ++ name, []⟩
where
  conditions : Except Fault Finding :=
    match evidence.seen with
    | some seen => .ok (Group.evaluateOn seen sentiment alert.groups)
    | none => Group.evaluateBlindOn sentiment alert.groups

/-- The event of an alert that fires where the sentiment is known. -/
def fireOn (sentiment : Option Float) (alert : Alert) (evidence : Evidence) (finding : Finding)
    (now : Timestamp) (id : String) : Except Fault Event :=
  match evidence.seen with
  | none => .error (.noObservation "price")
  | some seen => .ok {
      id
      alertId := alert.id
      ticker := alert.ticker
      triggeredAt := now
      reason := finding.reason
      conditionsMet := finding.conditionsMet
      price := seen.price
      volume := some seen.volume
      newsCount := evidence.news.map (·.count)
      sentiment
      action := .pending
      actionAt := none
      snoozedUntil := none }

/-- An evaluation to which one sentiment is given, and no analyzer. -/
def evaluateOn (sentiment : Option Float) (alert : Alert) (evidence : Evidence) (now : Timestamp)
    (triggersToday : Option Nat) (id : String) : Except Fault EvaluationOutcome := do
  match ← engine.screen alert now.aware triggersToday with
  | .blocked gate reason => return .blocked gate reason
  | .passed =>
    let finding ← engine.dispatchOn sentiment alert evidence now.aware
    if finding.triggered then return .fired (← fireOn sentiment alert evidence finding now.aware id)
    else return .quiet finding

theorem sentiment?_eq (news : Option (Coverage Float)) :
    engine.sentiment? news = news.bind (·.sentiment? engine.analyzer) := by
  cases news with
  | none => rfl
  | some news =>
    obtain ⟨ticker, articles, count, average⟩ := news
    cases average <;> cases articles <;> simp [sentiment?, Coverage.sentiment?]

/-- Whoever reads the news that an engine has resolved finds the engine's sentiment in it. -/
theorem sentiment?_resolveNews (standard : Analyzer Float) (news : Option (Coverage Float)) :
    (engine.resolveNews news).bind (·.sentiment? standard) = engine.sentiment? news := by
  rw [sentiment?_eq, resolveNews, Option.bind_map]
  exact congrArg news.bind (funext fun told => told.sentiment?_resolve engine.analyzer standard)

theorem resolveNews_eq (news : Option (Coverage Float)) :
    engine.resolveNews news = news.map fun told =>
      { told with average := engine.sentiment? news } := by
  rw [sentiment?_eq]
  cases news with
  | none => rfl
  | some news => simp only [resolveNews, Option.map_some, Option.bind_some, Coverage.resolve]

theorem resolveNews_idem (news : Option (Coverage Float)) :
    engine.resolveNews (engine.resolveNews news) = engine.resolveNews news := by
  rw [resolveNews_eq, sentiment?_eq, sentiment?_resolveNews, resolveNews_eq, Option.map_map]
  rfl

theorem count_resolveNews (news : Option (Coverage Float)) :
    (engine.resolveNews news).map (·.count) = news.map (·.count) := Option.map_map ..

theorem isRecent_resolveNews (news : Option (Coverage Float)) (lookback : Except Fault Int)
    (now : Timestamp) :
    Coverage.isRecent (engine.resolveNews news) lookback now =
      Coverage.isRecent news lookback now := by
  cases news <;> rfl

theorem dispatchWith_informed (standard : Analyzer Float) (alert : Alert) (evidence : Evidence)
    (now : Timestamp) : engine.dispatchWith standard alert (engine.informed evidence) now =
      engine.dispatchOn (engine.sentiment? evidence.news) alert evidence now := by
  have told := engine.sentiment?_resolveNews standard evidence.news
  have rules : dispatchWith.conditions standard alert (engine.informed evidence) =
      dispatchOn.conditions (engine.sentiment? evidence.news) alert evidence := by
    unfold dispatchWith.conditions dispatchOn.conditions
    rw [← told]
    cases observed : evidence.seen with
    | none => simp only [informed, observed, Group.evaluateBlind_eq]
    | some seen => simp only [informed, observed, Group.evaluate_eq]
  unfold dispatchWith dispatchOn
  cases alert.kind with
  | other name => rfl
  | known kind =>
    cases kind with
    | newsTriggered =>
      dsimp only [informed]
      rw [Coverage.evaluate_eq, told, count_resolveNews]
    | anomaly =>
      cases observed : evidence.seen with
      | none => simp only [informed, observed]
      | some seen =>
        have anomaly (config : AnomalyConfig) :
            Anomaly.evaluate config seen (engine.resolveNews evidence.news)
            evidence.prices now =
            Anomaly.evaluate config seen evidence.news evidence.prices now := by
          unfold Anomaly.evaluate Anomaly.isSilenced
          rw [isRecent_resolveNews]
        simp only [informed, observed, anomaly]
    | _ => exact rules

theorem fireWith_informed (standard : Analyzer Float) (alert : Alert) (evidence : Evidence)
    (finding : Finding) (now : Timestamp) (id : String) :
    fireWith standard alert (engine.informed evidence) finding now id =
      fireOn (engine.sentiment? evidence.news) alert evidence finding now id := by
  have counted : (engine.resolveNews evidence.news).map (fun told => (told.count : Int)) =
      evidence.news.map fun told => (told.count : Int) := Option.map_map ..
  unfold fireWith fireOn
  cases observed : evidence.seen with
  | none => simp only [informed, observed]
  | some seen => simp only [informed, observed, counted, sentiment?_resolveNews]

/-- An evaluation is one on the engine's sentiment, whatever the analyzer that would score
unresolved news. -/
theorem evaluateWith_eq_evaluateOn (standard : Analyzer Float) (alert : Alert) (evidence : Evidence)
    (now : Timestamp) (triggersToday : Option Nat) (id : String) :
    engine.evaluateWith standard alert evidence now triggersToday id =
      engine.evaluateOn (engine.sentiment? evidence.news) alert evidence now triggersToday id := by
  rw [evaluateWith_eq]
  unfold evaluateOn
  refine bind_congr fun decision => ?_
  cases decision with
  | blocked gate reason => rfl
  | passed =>
    dsimp only
    rw [dispatchWith_informed]
    refine bind_congr fun finding => ?_
    rw [fireWith_informed]
    rfl

theorem sentiment_of_evaluateOn {sentiment : Option Float} {alert : Alert} {evidence : Evidence}
    {now : Timestamp} {triggersToday : Option Nat} {id : String} {event : Event}
    (fired : engine.evaluateOn sentiment alert evidence now triggersToday id = .ok (.fired event)) :
    event.sentiment = sentiment := by
  obtain ⟨decision, -, rest⟩ := ok_of_bind fired
  cases decision with
  | blocked gate reason => cases rest
  | passed =>
    obtain ⟨finding, -, rest⟩ := ok_of_bind rest
    split at rest
    · obtain ⟨made, built, same⟩ := ok_of_bind rest
      cases same
      unfold fireOn at built
      split at built <;> cases built
      rfl
    · cases rest

theorem analyzer_of_build {settings : Settings} {history : Option History}
    {loop : Option DeliveryLoop} {notifiers : Option (List Notifier)}
    {nameEvent : Nat → Nat → String} {engine : Engine}
    (built : build settings history loop notifiers nameEvent = .ok engine) :
    engine.analyzer = .ofKeywords none none settings.sentiment.keywordWeight := by
  unfold build at built
  split at built
  · cases built
    rfl
  · obtain ⟨history, -, rest⟩ := ok_of_bind built
    cases rest
    rfl

/-- The sentiment that a rule compares, that bad news is told by and that the event bears is one:
the engine's. The analyzer of rules outside an engine has no part in the outcome, and to resolve the
news writes nothing else down. -/
theorem one_sentiment (engine : Engine) :
    (∀ (standard : Analyzer Float) (alert : Alert) (evidence : Evidence) (now : Timestamp)
    (triggersToday : Option Nat)
      (id : String), engine.evaluateWith standard alert evidence now triggersToday id =
        engine.evaluateOn (engine.sentiment? evidence.news) alert evidence now triggersToday id) ∧
    (∀ (standard : Analyzer Float) (alert : Alert) (evidence : Evidence) (now : Timestamp)
    (triggersToday : Option Nat)
      (id : String) (event : Event),
        engine.evaluateWith standard alert evidence now triggersToday id = .ok (.fired event) →
          event.sentiment = engine.sentiment? evidence.news) ∧
    (∀ (settings : Settings) (history : Option History) (loop : Option DeliveryLoop)
      (notifiers : Option (List Notifier)) (nameEvent : Nat → Nat → String),
        build settings history loop notifiers nameEvent = .ok engine →
          engine.analyzer = .ofKeywords none none settings.sentiment.keywordWeight) ∧
    ∀ news, engine.resolveNews (engine.resolveNews news) = engine.resolveNews news ∧
      engine.resolveNews news = news.map fun told =>
      { told with average := engine.sentiment? news } := by
  refine ⟨engine.evaluateWith_eq_evaluateOn,
    fun standard alert evidence now triggersToday id event fired => ?_, fun _ _ _ _ _ =>
    analyzer_of_build, fun news => ⟨engine.resolveNews_idem news, engine.resolveNews_eq news⟩⟩
  rw [evaluateWith_eq_evaluateOn] at fired
  exact sentiment_of_evaluateOn engine fired

end

/-- An engine whose keywords weigh a half. -/
def half : Engine :=
  { settings := { Settings.default with sentiment := ⟨-0.3, 0.5⟩ }
    history := ⟨"UTC", 1000, []⟩
    analyzer := .ofKeywords none none 0.5
    notifiers := [.logging]
    loop := .start
    tallies := {}
    nameEvent := fun tick position => toString tick ++ "-" ++ toString position }

/-- An article with one negative keyword, and an observation to go with it. -/
def lossReported : Evidence :=
  { seen := Market.steady.observation "ACME"
    news := some (.build "ACME" [Coverage.titled "Company reports loss"] 0 none)
    prices := none }

theorem one_sentiment_half :
    half.analyzer = .ofKeywords none none 0.5 ∧
      ∃ event, half.evaluate { Alert.eager "first" true with kind := .known .newsTriggered }
        lossReported (oClock 14)
          (some 0) "1-0" = .ok (.fired event) ∧ event.sentiment = some (-0.5) := by
  obtain ⟨same, stored, weight, -⟩ := one_sentiment half
  have sentiment : half.sentiment? lossReported.news = some (-0.5) := by
    show some (Analyzer.average (Coverage.scores (.ofKeywords none none 0.5) _)) = _
    rw [Analyzer.ofKeywords_none]
    decide +kernel
  have outcome := same standardAnalyzer
    { Alert.eager "first" true with kind := .known .newsTriggered } lossReported
    (oClock 14) (some 0) "1-0"
  rw [sentiment] at outcome
  exact ⟨weight half.settings none none none half.nameEvent rfl, _, outcome.trans rfl,
    (stored standardAnalyzer _ _ _ _ _ _ (outcome.trans rfl)).trans sentiment⟩

end Engine

end MarketAlerts
