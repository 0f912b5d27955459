import BrokerConnector.Text.Blank
import BrokerConnector.Json.Reader
import BrokerConnector.Json.Printer
import BrokerConnector.Json.Mark
import BrokerConnector.Json.Settings
import BrokerConnector.Mark.Codec
import BrokerConnector.World.Reading
import BrokerConnector.Main
import BrokerConnector.Proofs.Broker.Circulation
import BrokerConnector.Proofs.Broker.Handovers
import BrokerConnector.Proofs.Broker.Conservation
import BrokerConnector.Proofs.Action
import BrokerConnector.Proofs.Shared
import BrokerConnector.Proofs.Ledger
import BrokerConnector.Proofs.Broker.Grants
import BrokerConnector.Proofs.Calls
import BrokerConnector.Proofs.Mirror
import BrokerConnector.Proofs.Codec
import BrokerConnector.Proofs.Memory
import BrokerConnector.Proofs.Chain
import BrokerConnector.Proofs.Deduplication
import BrokerConnector.Proofs.Order
import BrokerConnector.Proofs.Restart
import BrokerConnector.Proofs.Agreement
import BrokerConnector.Proofs.Recording
import BrokerConnector.Proofs.Receipts
import BrokerConnector.Proofs.Accounting
import BrokerConnector.Proofs.Bounded
import BrokerConnector.Proofs.World
import BrokerConnector.Proofs.Broker.Producers
import BrokerConnector.Proofs.Equipment
import BrokerConnector.Proofs.Writing
import BrokerConnector.Proofs.Trace
import BrokerConnector.Proofs.Holding
import BrokerConnector.Proofs.Lifecycle
import BrokerConnector.Proofs.Upkeep
import BrokerConnector.Proofs.Resumption
import BrokerConnector.Proofs.Decoding
import BrokerConnector.Proofs.Damage
import BrokerConnector.Proofs.Payment
import BrokerConnector.Proofs.Interruption
import BrokerConnector.Proofs.Keeper
import BrokerConnector.Proofs.Broker.Redelivery
import BrokerConnector.Proofs.Carriage
import BrokerConnector.Proofs.Pool
import BrokerConnector.Proofs.Seats
import BrokerConnector.Proofs.Sharing
import BrokerConnector.Proofs.Broker.Turns
import BrokerConnector.Proofs.Broker.Subscriptions
import BrokerConnector.Proofs.Broker.Refusals
import BrokerConnector.Proofs.Gauge
import BrokerConnector.Proofs.Process
import BrokerConnector.Proofs.Replies
import BrokerConnector.Proofs.Broker.Register
import BrokerConnector.Proofs.Broker.Returns
import BrokerConnector.Proofs.FailedStart
import BrokerConnector.Proofs.Promptness
import BrokerConnector.Proofs.Pacing
import BrokerConnector.Proofs.Broker.Visit
import BrokerConnector.Proofs.Visiting
import BrokerConnector.Proofs.Taking
import BrokerConnector.Proofs.Loopback.Roster
import BrokerConnector.Proofs.Loopback.Parts
import BrokerConnector.Proofs.Loopback.Course
import BrokerConnector.Proofs.Loopback.Run
import BrokerConnector.Proofs.Loopback.Report
import BrokerConnector.Proofs.Recognition
import BrokerConnector.Proofs.Broker.Forgetting
import BrokerConnector.Proofs.Showing
import BrokerConnector.Proofs.Estimation
import BrokerConnector.Proofs.Broker.Numbering
import BrokerConnector.Proofs.Presenting
import BrokerConnector.Proofs.Admission
import BrokerConnector.Proofs.Secrecy
