import MarketAlerts.Document.Reader
import MarketAlerts.Document.Writer
import MarketAlerts.News.Sentiment
import MarketAlerts.Number.Quantity

/-!
Articles about one ticker. A coverage may speak of more articles than it carries, never of fewer,
and its average sentiment is either supplied or scored from the articles.
-/
namespace MarketAlerts

open Document Calendar

structure Article where
  title : String
  summary : Option String
  source : Option String
  url : Option String
  publishedAt : Option Timestamp

namespace Article

def read : Datum → Checked Article :=
  Datum.asRecord fun fields =>
    Article.mk
      <$> fields.required "title" Datum.asText
      <*> fields.nullable "summary" Datum.asText
      <*> fields.nullable "source" Datum.asText
      <*> fields.nullable "url" Datum.asText
      <*> fields.nullable "published_at" Datum.asTime

def write (a : Article) : Datum := .record [
  ("title", .text a.title), ("summary", .ofOption .text a.summary),
  ("source", .ofOption .text a.source),
  ("url", .ofOption .text a.url), ("published_at", .ofOption .ofTime a.publishedAt)]

/-- The text that is scored. -/
def text (article : Article) : String :=
  article.title ++ " " ++ article.summary.getD ""

end Article

structure Coverage (α : Type) where
  ticker : String
  articles : List Article
  count : Nat
  average : Option α

namespace Coverage

variable {α : Type}

/-- Never fewer articles than are carried. -/
def build (ticker : String) (articles : List Article) (count : Nat) (average : Option α) :
    Coverage α :=
  ⟨ticker, articles, max count articles.length, average⟩

def read : Datum → Checked (Coverage Float) :=
  Datum.asRecord fun fields =>
    build
      <$> fields.required "ticker" Datum.asText
      <*> fields.optional "articles" [] (Datum.asList Article.read)
      <*> fields.optional "news_count" 0 (fun d => d.asInteger.andThen asCount)
      <*> fields.nullable "average_sentiment" fun d =>
            d.asNumber.andThen fun x => (within (-1) 1 x).map (·.val)

def write (n : Coverage Float) : Datum := .record [
  ("ticker", .text n.ticker), ("articles", .ofList Article.write n.articles),
  ("news_count", .ofNat n.count), ("average_sentiment", .ofOption .number n.average)]

variable [OfNat α 0] [OfNat α 1] [Neg α] [Add α] [Sub α] [Div α] [LT α] [DecidableLT α] [Counts α]

def scores (analyzer : Analyzer α) (articles : List Article) : List α :=
  articles.map fun article => analyzer.score article.text

/-- Scores by a weight as it is given. One that is too large for a double is not looked at before a
keyword is found. -/
def scoresGiven (negative positive : Option (List String)) (weight : Number.Quantity)
    (articles : List Article) : Except Fault (List Float) :=
  let unweighted := Analyzer.ofKeywords negative positive (0 : Float)
  match weight.asDouble with
  | .ok weight => .ok (scores (.ofKeywords negative positive weight) articles)
  | .error fault =>
    if articles.any (unweighted.finds ·.text) then .error fault
      else .ok (scores unweighted articles)

/-- The supplied average, else the average score of the articles when there are any. -/
def sentiment? (analyzer : Analyzer α) (news : Coverage α) : Option α :=
  match news.average with
  | some average => some average
  | none =>
    if news.articles.isEmpty then none else some (Analyzer.average (scores analyzer news.articles))

/-- Writes the scored average down where none is supplied. -/
def resolve (analyzer : Analyzer α) (news : Coverage α) : Coverage α :=
  { news with average := news.sentiment? analyzer }

/-- A coverage of the given articles with their average score. -/
def ofArticles [LE α] [DecidableLE α] [Shown α] (analyzer : Analyzer α) (ticker : String)
    (articles : List Article) : Checked (Coverage α) :=
  let news := (build ticker articles articles.length none).resolve analyzer
  match news.average with
  | none => .valid news
  | some average =>
    if average ≤ 1 then
      if -1 ≤ average then .valid news
      else (Checked.flaw (.outOfBounds (.of .atLeast (-1) average))).under "average_sentiment"
    else (Checked.flaw (.outOfBounds (.of .atMost 1 average))).under "average_sentiment"

/-- Whether there is news inside the lookback. Articles without a date count, dated ones from the
cutoff on; where no articles are carried, the count is trusted. -/
def isRecent (news : Option (Coverage α)) (lookback : Except Fault Int) (now : Timestamp) :
    Except Fault Bool :=
  match news with
  | none => .ok false
  | some news =>
    if news.articles.isEmpty then .ok (decide (0 < news.count))
    else do
      let cutoff ← now.aware.shift (-(← lookback))
      .ok (news.articles.any fun article =>
        article.publishedAt.elim true fun published => decide (cutoff.instant ≤ published.instant))

end Coverage

end MarketAlerts
