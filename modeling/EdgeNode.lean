import EdgeNode.Lib.Tx
import EdgeNode.Lib.Table
import EdgeNode.Lib.Float64
import EdgeNode.Lib.Int64
import EdgeNode.Lib.Json
import EdgeNode.Lib.Machine
import EdgeNode.Lib.Sim
import EdgeNode.Lib.Keyed
import EdgeNode.Lib.TokenBucket
import EdgeNode.Lib.Hex
import EdgeNode.Lib.LittleEndian
import EdgeNode.Lib.Reader
import EdgeNode.Lib.History
import EdgeNode.Pipeline.Definition
import EdgeNode.Pipeline.Evaluator
import EdgeNode.Pipeline.Wire
import EdgeNode.Pipeline.Store
import EdgeNode.Pipeline.Engine
import EdgeNode.Pipeline.Run
import EdgeNode.Pipeline.Boots
import EdgeNode.Output.Status
import EdgeNode.Output.Faults
import EdgeNode.Output.Session
import EdgeNode.Output.Loop
import EdgeNode.Ledger.Store
import EdgeNode.Ledger.SeriesKey
import EdgeNode.Ops.Authority
import EdgeNode.Collector.Contract
import EdgeNode.Collector.Dedup
import EdgeNode.Collector.Staging
import EdgeNode.Collector.Database
import EdgeNode.Collector.Principal
import EdgeNode.Registry.Catalog
import EdgeNode.Registry.Store
import EdgeNode.Registry.Policy
import EdgeNode.Registry.Define
import EdgeNode.Collector.Item
import EdgeNode.Collector.Envelope
import EdgeNode.Collector.Requests
import EdgeNode.Collector.Faults
import EdgeNode.Ops.Clock
import EdgeNode.Ops.Auth
import EdgeNode.Ops.Catalog
import EdgeNode.Ops.TokenOps
import EdgeNode.Ops.ClockRun
import EdgeNode.Ops.ApiRun
import EdgeNode.Ops.RegistryOps
import EdgeNode.Ops.RegistryRun
import EdgeNode.Ingest.Client
import EdgeNode.Ingest.Run
import EdgeNode.Ingest.Usage
import EdgeNode.Ingest.Admission
import EdgeNode.Publish.Retention
import EdgeNode.Ledger.Devices
import EdgeNode.BravePi.Codec
import EdgeNode.Adapters.Supervisor
import EdgeNode.Proofs.Evaluator
import EdgeNode.Proofs.EngineSpec
import EdgeNode.Proofs.Calls
import EdgeNode.Proofs.Series
import EdgeNode.Proofs.Sequences
import EdgeNode.Proofs.Retained
import EdgeNode.Proofs.DeliveryRecord
import EdgeNode.Proofs.DeliveryWork
import EdgeNode.Proofs.Delivery
import EdgeNode.Proofs.OutputLoop
import EdgeNode.Proofs.Dedup
import EdgeNode.Proofs.Staging
import EdgeNode.Proofs.Envelope
import EdgeNode.Proofs.ExactlyOnce
import EdgeNode.Proofs.ClaimHistory
import EdgeNode.Proofs.StagingRun
import EdgeNode.Proofs.Local
import EdgeNode.Proofs.Beside
import EdgeNode.Proofs.Validation
import EdgeNode.Proofs.SeriesKeys
import EdgeNode.Proofs.Cache
import EdgeNode.Proofs.Registry
import EdgeNode.Proofs.Placement
import EdgeNode.Proofs.Stored
import EdgeNode.Proofs.Clock
import EdgeNode.Proofs.Confirmation
import EdgeNode.Proofs.Tokens
import EdgeNode.Proofs.TrustedTime
import EdgeNode.Proofs.Dispatch
import EdgeNode.Proofs.Audit
import EdgeNode.Proofs.Api
import EdgeNode.Proofs.SeriesRun
import EdgeNode.Proofs.Quarantine
import EdgeNode.Proofs.Spool
import EdgeNode.Proofs.Admission
import EdgeNode.Proofs.Codec
import EdgeNode.Proofs.Uplink
import EdgeNode.Proofs.Provenance
import EdgeNode.Proofs.SequenceRange
import EdgeNode.Proofs.Debounce
import EdgeNode.Proofs.Retention
import EdgeNode.Proofs.Devices
import EdgeNode.Proofs.StorageFault
import EdgeNode.Proofs.Discards
import EdgeNode.Proofs.Supervision
import EdgeNode.Proofs.Interfaces
import EdgeNode.Proofs.Episodes
import EdgeNode.Proofs.Reference
import EdgeNode.Proofs.Definitions
import EdgeNode.Proofs.Settled
import EdgeNode.Proofs.Structure
import EdgeNode.Proofs.Isolation
import EdgeNode.Proofs.Farewell
import EdgeNode.Proofs.Notify
import EdgeNode.Proofs.Exit
import EdgeNode.Proofs.Refunds
import EdgeNode.Proofs.Purge
import EdgeNode.Proofs.Maintenance
import EdgeNode.Proofs.Sightings
import EdgeNode.Proofs.Polling
import EdgeNode.Proofs.Migrations
import EdgeNode.Proofs.Listener
import EdgeNode.Proofs.ModelId
import EdgeNode.Proofs.AuthCache
import EdgeNode.Proofs.Throttle
import EdgeNode.Proofs.EventTime
import EdgeNode.Proofs.Revision
import EdgeNode.Proofs.Undo
import EdgeNode.Publish.Outlet
import EdgeNode.Proofs.Outlet
import EdgeNode.Proofs.Activation
