import Redline.Lib.Prog
import Redline.Lib.Flash
import Redline.Lib.Trace
import Redline.Lib.Script
import Redline.Lib.Driver
import Redline.Lib.Preferences
import Redline.Lib.Run
import Redline.Lib.Codec
import Redline.Lib.Delimited
import Redline.Wire.Bytes
import Redline.Wire.Slices
import Redline.Wire.Packet
import Redline.Wire.Event
import Redline.Records.EventStore
import Redline.Records.EventRecords
import Redline.Records.Codec
import Redline.Records.Storage
import Redline.Lib.Log
import Redline.Records.Evidence
import Redline.Node.Identity
import Redline.Node.Store
import Redline.Node.Delivery
import Redline.Hub.Ledger
import Redline.Hub.Radio
import Redline.Node.Evidence
import Redline.Hub.Evidence
import Redline.Network.Evidence
import Redline.Node.Commit
import Redline.Node.Index
import Redline.Node.Reserve
import Redline.Node.Operations
import Redline.Node.Recovery
import Redline.Node.Startup
import Redline.Node.CrashConsistency
import Redline.Node.IdentityLineage
import Redline.Node.FirstBoot
import Redline.Hub.Commit
import Redline.Hub.Operations
import Redline.Hub.Recovery
import Redline.Hub.Startup
import Redline.Hub.FirstBoot
import Redline.Hub.CrashConsistency
import Redline.Node.Aging
import Redline.Node.Controller
import Redline.Node.Lifecycle
import Redline.Node.Machine
import Redline.Node.Fifo
import Redline.Node.Clocked
import Redline.Node.LifetimeTurns
import Redline.Node.Lifetime
import Redline.Hub.Machine
import Redline.Hub.Custody
import Redline.Network.Machine
import Redline.Network.Custody
import Redline.Network.AtMostOnce
import Redline.DeviceSettings.Record
import Redline.Records.Canonical
import Redline.DeviceSettings.Manager
import Redline.DeviceSettings.Selection
import Redline.DeviceSettings.Calls
import Redline.DeviceSettings.Durability
import Redline.DeviceSettings.Atomicity
import Redline.DeviceSettings.Reset
import Redline.DeviceSettings.Preservation
import Redline.Host.Frame
import Redline.Host.FrameCodec
import Redline.Host.Capabilities
import Redline.Host.Messages
import Redline.Host.Responses
import Redline.Host.Services
import Redline.Host.Bridge
import Redline.Host.Requests
import Redline.Host.Lifecycle
import Redline.Host.Turns
import Redline.Host.Deadline
import Redline.Host.ExactlyOnce
import Redline.Host.RecordValues
import Redline.Host.Answers
import Redline.Host.Sendable
import Redline.Host.Transport
import Redline.Host.Stream
import Redline.Host.Link
import Redline.Host.Hello
import Redline.Host.Stack
import Redline.Host.StackRuns
import Redline.Host.Answered
import Redline.Network.Validators
import Redline.Network.Availability
import Redline.Network.AdmissionOrder
import Redline.Network.LedgerTurns
import Redline.Host.Processor
import Redline.Host.Remote
import Redline.Host.ProcessorRuns
import Redline.Host.Exchange
import Redline.Host.Minors
import Redline.Host.RemoteDelivery
import Redline.Host.Transactions
import Redline.Host.TestLink
import Redline.Host.Freshness
import Redline.Node.MainLoop
import Redline.Node.Commands
import Redline.Node.OnAir
import Redline.Hub.MainLoop
import Redline.Hub.Transport
import Redline.Hub.Ownership
import Redline.Node.AnyStorage
import Redline.Node.InStep
import Redline.Node.Headway
import Redline.Node.Waiting
import Redline.Host.Reference
import Redline.Lib.ShiftRegister
import Redline.Records.Corruption
import Redline.Host.Corruption
import Redline.Wire.Canonical
import Redline.Host.RadioCodecs
import Redline.Host.MessageCodecs
import Redline.Host.Dispatch
import Redline.Lib.Paging
import Redline.Host.Paging
import Redline.Input.Button
import Redline.Input.Creation
import Redline.Input.ButtonProducer
import Redline.Input.Suppression
import Redline.Input.Threshold
import Redline.DeviceUi.Controller
import Redline.DeviceUi.Modes
import Redline.DeviceUi.Panel
import Redline.DeviceUi.FactoryReset
import Redline.Host.Buffers
import Redline.DeviceSettings.Integration
import Redline.DeviceUi.Draft
import Redline.DeviceSettings.Shown
import Redline.DeviceSettings.Restart
import Redline.Esp32.EventStorage
import Redline.Esp32.Committing
import Redline.Esp32.Chips
import Redline.Esp32.SettingsStorage
