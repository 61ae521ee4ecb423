import MeteredBilling.Catalog.Document
import MeteredBilling.Engine.Administration
import MeteredBilling.Engine.Delivery
import MeteredBilling.Json.Integer
import MeteredBilling.Json.Writer
import MeteredBilling.Memory.Storage
import MeteredBilling.Proofs.Acknowledgement
import MeteredBilling.Proofs.Chunking
import MeteredBilling.Proofs.CountedUsage
import MeteredBilling.Proofs.Coverage
import MeteredBilling.Proofs.Defaults
import MeteredBilling.Proofs.Delays
import MeteredBilling.Proofs.Deliveries
import MeteredBilling.Proofs.Endpoint
import MeteredBilling.Proofs.EventCodec
import MeteredBilling.Proofs.Grouping
import MeteredBilling.Proofs.Identifiers
import MeteredBilling.Proofs.Identity
import MeteredBilling.Proofs.Isolation
import MeteredBilling.Proofs.LedgerTransactions
import MeteredBilling.Proofs.Lookups
import MeteredBilling.Proofs.NoLoss
import MeteredBilling.Proofs.Outbox
import MeteredBilling.Proofs.Periods
import MeteredBilling.Proofs.Quantities
import MeteredBilling.Proofs.Redelivery
import MeteredBilling.Proofs.Redrive
import MeteredBilling.Proofs.RepeatedCounts
import MeteredBilling.Proofs.RepeatedSummaries
import MeteredBilling.Proofs.Retention
import MeteredBilling.Proofs.RoundTrip
import MeteredBilling.Proofs.Settlements
import MeteredBilling.Proofs.Stuck
import MeteredBilling.Proofs.Timestamps
import MeteredBilling.Proofs.UsableFactors
import MeteredBilling.Settings
import MeteredBilling.Sql.Script
import MeteredBilling.Sql.Storage
