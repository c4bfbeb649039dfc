import AtlasConnectors.Binary64
import AtlasConnectors.StatementFile
import AtlasConnectors.ConnectIngestion
import AtlasConnectors.FinhubConsolidation
import AtlasConnectors.FinhubReconciliation
import AtlasConnectors.FinhubCircuitBreaker
import AtlasConnectors.FinhubForecasting
import AtlasConnectors.ConnectFirewall
import AtlasConnectors.FinhubAnomaly
import AtlasConnectors.Emitter
import AtlasConnectors.Registry
import AtlasConnectors.Dispatch
import AtlasConnectors.CheckedDispatch
import AtlasConnectors.BatchIdentity
import AtlasConnectors.AnomalyBatch
import AtlasConnectors.FirewallBatch
import AtlasConnectors.PoisonStream
import AtlasConnectors.PublishedMoney
import AtlasConnectors.PushedDispatch
import AtlasConnectors.JsonText
import AtlasConnectors.Wire
import AtlasConnectors.GroundTruth
import AtlasConnectors.Ledger
import AtlasConnectors.ConsistentBatch
import AtlasConnectors.IsoText
import AtlasConnectors.Replay
import AtlasConnectors.PresetManifest
import AtlasConnectors.EmittedManifest
import AtlasConnectors.DryRun
import AtlasConnectors.Determinism
import AtlasConnectors.Retry
import AtlasConnectors.ConsolidationBatch
import AtlasConnectors.ReconciliationBatch
import AtlasConnectors.AnomalyLabels
import AtlasConnectors.ForecastHistory
import AtlasConnectors.Backoff
import AtlasConnectors.StatementContents
import AtlasConnectors.PrefilledParams
import AtlasConnectors.JsonPath
import AtlasConnectors.DryRunIsolation
import AtlasConnectors.EnrichedTree
import AtlasConnectors.AdapterReruns
import AtlasConnectors.BatchSize
import AtlasConnectors.BreakerTriggers
import AtlasConnectors.Broker
import AtlasConnectors.ConcurrentDispatch
import AtlasConnectors.FirewallDispatch
import AtlasConnectors.Frames
import AtlasConnectors.Simulator
import AtlasConnectors.StdoutStream
import AtlasConnectors.TraceHeader
