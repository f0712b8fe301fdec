import MeltemVentilation.CarriedValues
import MeltemVentilation.ControlRange
import MeltemVentilation.CumulativeDiagnostics
import MeltemVentilation.DataHealth
import MeltemVentilation.Device.LinkAdmission
import MeltemVentilation.Device.LinkRecycling
import MeltemVentilation.DeviceSync
import MeltemVentilation.ExactTarget
import MeltemVentilation.FalseMismatch
import MeltemVentilation.FanEntity
import MeltemVentilation.GatewayReads
import MeltemVentilation.IssueCount
import MeltemVentilation.LimitedUpdates
import MeltemVentilation.MockGateway.Bridge
import MeltemVentilation.ModbusClient.RoomReadFrame
import MeltemVentilation.ModbusClient.RoomReadHealth
import MeltemVentilation.ModbusClient.StagedRegisters
import MeltemVentilation.MigratedEntries
import MeltemVentilation.OppositeLevel
import MeltemVentilation.OverlayTimers
import MeltemVentilation.PollBackoff
import MeltemVentilation.PollFairness
import MeltemVentilation.PreviewMigration
import MeltemVentilation.Redaction
import MeltemVentilation.RegisterMapRoundTrip
import MeltemVentilation.Rematching
import MeltemVentilation.RepairIssues
import MeltemVentilation.DiagnosticsSaves
import MeltemVentilation.Discovery
import MeltemVentilation.RetryDelays
import MeltemVentilation.RoomAvailability
import MeltemVentilation.SetupProbe
import MeltemVentilation.StoredUnits
import MeltemVentilation.SwitchOff
import MeltemVentilation.WallClock
