import MarketAlerts.Finding
import MarketAlerts.News.Coverage
import MarketAlerts.Number.Decimal

/-!
Firing on bad news: the average sentiment must lie below a threshold, and there must be news at all.
-/
namespace MarketAlerts

namespace Coverage

def evaluate (analyzer : Analyzer Float) (threshold : Float) (news : Option (Coverage Float)) :
    Finding :=
  match news.filter (0 < ·.count) with
  | none => ⟨false, "No news data available", []⟩
  | some news =>
    match (news.sentiment? analyzer).filter (· < threshold) with
    | some sentiment =>
      ⟨true, "Negative news sentiment detected: " ++ Number.fixed 2 sentiment,
        [toString news.count ++ " news articles with negative sentiment"]⟩
    | none => ⟨false, "No negative news sentiment", []⟩

end Coverage

end MarketAlerts
