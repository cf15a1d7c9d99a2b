/-!
Lines of the log. Operations are pure; what they would write is said beside them.
-/
namespace MarketAlerts

inductive LogLevel
  | debug | info | success | warning | error
  deriving DecidableEq

structure LogLine where
  level : LogLevel
  text : String
  deriving DecidableEq

end MarketAlerts
