import MarketAlerts.Alert.Gate
import MarketAlerts.Alert.Lifecycle
import MarketAlerts.Engine.Tick
import MarketAlerts.News.Trigger
import MarketAlerts.Proofs.Alert.QuietHours
import MarketAlerts.Proofs.Alert.Snoozes
import MarketAlerts.Proofs.Alert.TimeReading
import MarketAlerts.Proofs.Anomaly.FlatHistory
import MarketAlerts.Proofs.Anomaly.Shocks
import MarketAlerts.Proofs.Delivery.Books
import MarketAlerts.Proofs.Delivery.Conservation
import MarketAlerts.Proofs.Delivery.Outputs
import MarketAlerts.Proofs.Delivery.Representation
import MarketAlerts.Proofs.Delivery.Segmentation
import MarketAlerts.Proofs.Desk.Cooldown
import MarketAlerts.Proofs.Desk.DailyCap
import MarketAlerts.Proofs.Desk.Defaults
import MarketAlerts.Proofs.Desk.ExactlyOnce
import MarketAlerts.Proofs.Desk.Firing
import MarketAlerts.Proofs.Desk.Independence
import MarketAlerts.Proofs.Desk.Ledger
import MarketAlerts.Proofs.Desk.Ordinary
import MarketAlerts.Proofs.Desk.Retention
import MarketAlerts.Proofs.Desk.Silence
import MarketAlerts.Proofs.Desk.Supplied
import MarketAlerts.Proofs.Engine.Instants
import MarketAlerts.Proofs.Engine.Sentiment
import MarketAlerts.Proofs.History.Average
import MarketAlerts.Proofs.History.Statistics
import MarketAlerts.Proofs.News.Range
import MarketAlerts.Proofs.News.Threshold
import MarketAlerts.Proofs.Notification.Lines
import MarketAlerts.Proofs.Rule.Meaning
