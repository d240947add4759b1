import TtDal.Platform.Thread
import TtDal.Dev.Session
import TtDal.Dev.Power
import TtDal.Dev.Smc
import TtDal.Dev.Tlb
import TtDal.Dev.Telemetry
import TtDal.Platform.Text
import TtDal.Dev.Discovery
import TtDal.Dev.Reset
import TtDal.Binding.Perform
import TtDal.Driver.Pool
import TtDal.Binding.Tlb
import TtDal.Safety.WindowOwnership
import TtDal.Driver.Mailbox
import TtDal.Safety.MessageExchange
import TtDal.Binding.Queued
import TtDal.Driver.Channel
import TtDal.Effect.Residual
import TtDal.Safety.QueuedOwnership
import TtDal.Driver.Space
import TtDal.Safety.WindowMapping
import TtDal.Driver.Descriptors
import TtDal.Driver.Arbitration
import TtDal.Safety.ResetExclusion
import TtDal.Safety.DescriptorOwnership
import TtDal.Safety.RetryPolicy
import TtDal.Safety.TagTable
import TtDal.Driver.Firmware
import TtDal.Safety.SnapshotCoherence
import TtDal.Safety.SnapshotDecoding
import TtDal.Platform.Trace
import TtDal.Safety.GuardedReads
import TtDal.Safety.SessionReopen
import TtDal.Safety.FailedBind
import TtDal.Safety.ErrorReports
import TtDal.Safety.ResetCourse
import TtDal.Driver.Watch
import TtDal.Safety.ResetDeadline
import TtDal.Driver.Severance
import TtDal.Safety.TelemetryCleanup
import TtDal.Safety.TelemetryTable
import TtDal.Driver.Aperture
import TtDal.Safety.TelemetryReads
import TtDal.Safety.QueuedBorrow
import TtDal.Driver.Hold
import TtDal.Safety.SessionRelease
import TtDal.Binding.Window
import TtDal.Driver.Routes
import TtDal.Safety.WindowAccess
import TtDal.Platform.Instant
import TtDal.Safety.ElapsedTime
import TtDal.Driver.Clock
import TtDal.Safety.WaitOutcome
import TtDal.Effect.Relation
import TtDal.Safety.CallAliasing
import TtDal.Safety.WaitBudget
import TtDal.Platform.Scan
import TtDal.Binding.Address
import TtDal.Safety.AddressText
import TtDal.Driver.Listing
import TtDal.Binding.Scan
import TtDal.Safety.DeviceScan
import TtDal.Safety.DeviceNames
import TtDal.Safety.AddressLookup
import TtDal.Safety.FirmwareVersion
import TtDal.Driver.Signals
import TtDal.Safety.SignalChain
import TtDal.Safety.DriverVersion
import TtDal.Safety.PollBound
import TtDal.Effect.Clients
import TtDal.Driver.Power
import TtDal.Safety.PowerAggregation
import TtDal.Binding.Power
import TtDal.Safety.PowerRequests
import TtDal.Safety.MessageSessions
import TtDal.Driver.Presence
import TtDal.Safety.PersistentSessions
import TtDal.Safety.TelemetryDelivery
import TtDal.Effect.Ledger
import TtDal.Effect.Handler
import TtDal.Dev.Api
import TtDal.Driver.Holdings
import TtDal.Safety.Confinement
import TtDal.Effect.Silence
import TtDal.Safety.Statelessness
import TtDal.Binding.Session
import TtDal.Safety.SessionObjects
import TtDal.Binding.Lookup
import TtDal.Safety.DeviceAddresses
