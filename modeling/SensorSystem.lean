import SensorSystem.Node.Runtime.IngressPipeline
import SensorSystem.Host.Telemetry.TelemetryWal
import SensorSystem.System.ExactlyOnce
import SensorSystem.Host.Capture.CaptureSegmentRuns
import SensorSystem.Host.Channel.AgentProgress
import SensorSystem.Host.Persistence.GroupedWriterRuns
import SensorSystem.System.CaptureBoundary
import SensorSystem.Node.Measurement.JournalDelivery
import SensorSystem.Node.Runtime.OperationMailbox
import SensorSystem.Node.Runtime.SpscRuns
import SensorSystem.Node.Protocol.EndpointLedger
import SensorSystem.Host.Retention.CoverageProof
import SensorSystem.Node.Boot.BootRuns
import SensorSystem.Node.Boot.MetadataStore
import SensorSystem.System.CommissioningSlots
import SensorSystem.Host.Service.SafeStateRuns
import SensorSystem.Host.Service.OperationRuns
import SensorSystem.Host.Service.TimeExactness
import SensorSystem.Host.Service.StorageShutdown
import SensorSystem.Host.Service.AuditRuns
import SensorSystem.Node.Timing.TimestampBinding
import SensorSystem.Host.Service.ServiceDeadlines
import SensorSystem.Host.Service.ConfigurationAtomicity
import SensorSystem.Host.Retention.CheckpointReading
import SensorSystem.Node.Runtime.ConfigurationBoundary
import SensorSystem.Host.Channel.SchedulerChoice
import SensorSystem.Host.Channel.OverflowEstimate
import SensorSystem.Host.Service.ChannelPlanning
import SensorSystem.System.ReportedConfiguration
import SensorSystem.Host.Retention.CoverageIndexRoundTrip
import SensorSystem.Host.Capture.CaptureCsvChain
import SensorSystem.Node.Acquisition.FilterRuns
import SensorSystem.System.DeliveryReadiness
import SensorSystem.Node.Boot.UpdateEngine
import SensorSystem.Node.Runtime.ConfigurationApply
import SensorSystem.Host.Time.AnalysisTime
import SensorSystem.System.ResponseWire
import SensorSystem.System.TelemetryPath
