import MarketAlerts.Alert.Lifecycle
import MarketAlerts.Anomaly.Detection
import MarketAlerts.Engine.Evaluation
import MarketAlerts.History
import MarketAlerts.News.Trigger
import MarketAlerts.Notification.Notifier
import MarketAlerts.Rule.Blind

/-!
The engine: settings, history, channels and the loop on which deliveries run. This module builds an
engine and evaluates single alerts, which changes nothing.
-/
namespace MarketAlerts

open Document Calendar Delivery

variable [Installation]

abbrev DeliveryLoop := Loop String Event Float Dispatch

/-- Counts since the engine was built. -/
structure Tallies where
  ticks : Nat := 0
  evaluations : Nat := 0
  triggers : Nat := 0
  blocked : Nat := 0
  errors : Nat := 0

structure Engine where
  settings : Settings
  history : History
  analyzer : Analyzer Float
  notifiers : List Notifier
  loop : DeliveryLoop
  tallies : Tallies
  /-- The identifier of an event fired in a tick at a position of its list of alerts. -/
  nameEvent : (tick position : Nat) → String

/-- The analyzer of rules that are evaluated without an engine. -/
def standardAnalyzer : Analyzer Float :=
  .ofKeywords none none SentimentSettings.default.keywordWeight

namespace Engine

/-- A history or a batcher that is supplied but holds nothing is replaced by a new one. -/
def build (settings : Settings) (history : Option History) (loop : Option DeliveryLoop)
    (notifiers : Option (List Notifier)) (nameEvent : (tick position : Nat) → String) :
    Except Fault Engine := do
  let history ← match history.filter (0 < ·.size) with
    | some history => .ok history
    | none => History.build settings.history.maxEvents settings.engine.zone.name
  let loop := loop.getD .start
  let batcher := if loop.batcher.size = 0 then .empty else loop.batcher
  return {
    settings
    history
    analyzer := .ofKeywords none none settings.sentiment.keywordWeight
    notifiers := notifiers.getD [.logging]
    loop := { loop with batcher }
    tallies := {}
    nameEvent }

/-- Thresholds for alerts of the anomaly kind that carry none. -/
def defaultAnomaly (engine : Engine) : Except Fault AnomalyConfig :=
  engine.settings.anomaly.config.orRefuse "AnomalyConfig" Installation.helpAddress

def resolveNews (engine : Engine) (news : Option (Coverage Float)) : Option (Coverage Float) :=
  news.map (·.resolve engine.analyzer)

/-- What a rule has to go by: the observation, the news with its sentiment, the past prices. -/
structure Evidence where
  seen : Option Observation
  news : Option (Coverage Float)
  prices : Option (List PricePoint)

/-- Evaluates an alert by its kind. News whose sentiment is not written down is scored by the given
analyzer. -/
def dispatchWith (engine : Engine) (standard : Analyzer Float) (alert : Alert) (evidence : Evidence)
    (now : Timestamp) : Except Fault Finding :=
  match alert.kind with
  | .known .threshold => conditions
  | .known .multiCondition => conditions
  | .known .newsTriggered =>
    .ok (Coverage.evaluate standard engine.settings.sentiment.negativeThreshold evidence.news)
  | .known .anomaly => do
    let config ← alert.anomaly.elim engine.defaultAnomaly .ok
    match evidence.seen with
    | none => .error (.noObservation "previous_close")
    | some seen =>
      return (← Anomaly.evaluate config seen evidence.news evidence.prices now).toFinding
  | .other name => .ok ⟨false, "Unknown alert type: " ++ name, []⟩
where
  conditions : Except Fault Finding :=
    match evidence.seen with
    | some seen => .ok (Group.evaluate standard alert.groups seen evidence.news)
    | none => Group.evaluateBlind standard alert.groups evidence.news

def dispatch (engine : Engine) (alert : Alert) (evidence : Evidence) (now : Timestamp) :
    Except Fault Finding :=
  engine.dispatchWith standardAnalyzer alert evidence now

/-- What evaluating by kind writes. -/
def dispatchLog (engine : Engine) (alert : Alert) (evidence : Evidence) : List LogLine :=
  match alert.kind with
  | .known .threshold => conditions
  | .known .multiCondition => conditions
  | .known .newsTriggered => []
  | .known .anomaly =>
    match alert.anomaly.elim engine.defaultAnomaly .ok, evidence.seen with
    | .ok _, some seen => Anomaly.log seen evidence.prices
    | _, _ => []
  | .other name => [⟨.warning, "Unknown alert type for " ++ alert.id ++ ": " ++ name⟩]
where
  conditions : List LogLine :=
    match evidence.seen with
    | some seen => Group.log standardAnalyzer alert.groups seen evidence.news
    | none => Group.logBlind standardAnalyzer alert.groups evidence.news

/-- The event of an alert that fires. -/
def fireWith (standard : Analyzer Float) (alert : Alert) (evidence : Evidence) (finding : Finding)
    (now : Timestamp) (id : String) : Except Fault Event :=
  match evidence.seen with
  | none => .error (.noObservation "price")
  | some seen => .ok {
      id
      alertId := alert.id
      ticker := alert.ticker
      triggeredAt := now
      reason := finding.reason
      conditionsMet := finding.conditionsMet
      price := seen.price
      volume := some seen.volume
      newsCount := evidence.news.map (·.count)
      sentiment := evidence.news.bind (·.sentiment? standard)
      action := .pending
      actionAt := none
      snoozedUntil := none }

def fire (alert : Alert) (evidence : Evidence) (finding : Finding) (now : Timestamp) (id : String) :
    Except Fault Event :=
  fireWith standardAnalyzer alert evidence finding now id

/-- The decision of the gates; the count of the day comes from the history unless it is given. -/
def screen (engine : Engine) (alert : Alert) (now : Timestamp) (triggersToday : Option Nat) :
    Except Fault Decision := do
  let count ← triggersToday.elim (engine.history.countToday alert.id now) .ok
  Gate.screen alert ⟨now, count, some engine.settings.engine.zone.name⟩

/-- Gates first, then the evaluation by kind, then the event where the alert fires. -/
def evaluateWith (engine : Engine) (standard : Analyzer Float) (alert : Alert) (evidence : Evidence)
    (now : Timestamp) (triggersToday : Option Nat) (id : String) :
    Except Fault EvaluationOutcome := do
  let now := now.aware
  let evidence := { evidence with news := engine.resolveNews evidence.news }
  match ← engine.screen alert now triggersToday with
  | .blocked gate reason => return .blocked gate reason
  | .passed =>
    let finding ← engine.dispatchWith standard alert evidence now
    if finding.triggered then return .fired (← fireWith standard alert evidence finding now id)
    else return .quiet finding

def evaluate (engine : Engine) (alert : Alert) (evidence : Evidence) (now : Timestamp)
    (triggersToday : Option Nat) (id : String) : Except Fault EvaluationOutcome :=
  engine.evaluateWith standardAnalyzer alert evidence now triggersToday id

/-- What an evaluation writes. -/
def evaluateLog (engine : Engine) (alert : Alert) (evidence : Evidence) (now : Timestamp)
    (triggersToday : Option Nat) : List LogLine :=
  match engine.screen alert now.aware triggersToday with
  | .error _ => []
  | .ok .passed =>
    engine.dispatchLog alert { evidence with news := engine.resolveNews evidence.news }
  | .ok decision => decision.log alert

end Engine

end MarketAlerts
