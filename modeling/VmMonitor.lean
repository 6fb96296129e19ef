import VmMonitor.Bench.Devices
import VmMonitor.Board
import VmMonitor.Bus.Access
import VmMonitor.Bus.Basic
import VmMonitor.Bus.Device
import VmMonitor.Checked
import VmMonitor.Cpu.Error
import VmMonitor.Cpu.Exit
import VmMonitor.Cpu.Psci
import VmMonitor.Device.Distributor
import VmMonitor.Device.Sink
import VmMonitor.Device.Uart
import VmMonitor.Gic.Controller
import VmMonitor.Gic.Line
import VmMonitor.Gic.PendingList
import VmMonitor.HostError
import VmMonitor.Json.Reader
import VmMonitor.Json.Shape
import VmMonitor.Json.Value
import VmMonitor.Log.Filter
import VmMonitor.Log.Logger
import VmMonitor.Log.Record
import VmMonitor.Machine.Basic
import VmMonitor.Machine.Config
import VmMonitor.Machine.Config.Printer
import VmMonitor.Machine.Config.Reader
import VmMonitor.Machine.Device
import VmMonitor.Machine.Mac
import VmMonitor.Machine.Run
import VmMonitor.Memory.Address
import VmMonitor.Memory.Bytes
import VmMonitor.Memory.Guest
import VmMonitor.Memory.Mapping
import VmMonitor.Proofs.Bits
import VmMonitor.Proofs.Bus.Asked
import VmMonitor.Proofs.Bus.Edge
import VmMonitor.Proofs.Bus.Owner
import VmMonitor.Proofs.Cpu.Abort
import VmMonitor.Proofs.Cpu.Exit
import VmMonitor.Proofs.Cpu.Identity
import VmMonitor.Proofs.Cpu.Lookup
import VmMonitor.Proofs.Cpu.Packing
import VmMonitor.Proofs.Cpu.Power
import VmMonitor.Proofs.Cpu.Refused
import VmMonitor.Proofs.Cpu.SystemRegisters
import VmMonitor.Proofs.Cpu.Trap
import VmMonitor.Proofs.Device.Banks
import VmMonitor.Proofs.Device.Clearing
import VmMonitor.Proofs.Device.Distributor
import VmMonitor.Proofs.Device.PowerOn
import VmMonitor.Proofs.Device.Priorities
import VmMonitor.Proofs.Device.Reception
import VmMonitor.Proofs.Device.Signal
import VmMonitor.Proofs.Device.Uart
import VmMonitor.Proofs.Gic.Arbitration
import VmMonitor.Proofs.Gic.Arrivals
import VmMonitor.Proofs.Gic.Engaged
import VmMonitor.Proofs.Gic.Levels
import VmMonitor.Proofs.Gic.Lines
import VmMonitor.Proofs.Gic.PendingList
import VmMonitor.Proofs.Gic.Queued
import VmMonitor.Proofs.Gic.Reached
import VmMonitor.Proofs.Gic.Served
import VmMonitor.Proofs.Json.Written
import VmMonitor.Proofs.Machine.Account
import VmMonitor.Proofs.Machine.Built
import VmMonitor.Proofs.Machine.Delivery
import VmMonitor.Proofs.Machine.Devices
import VmMonitor.Proofs.Machine.Expiry
import VmMonitor.Proofs.Machine.Guarded
import VmMonitor.Proofs.Machine.History
import VmMonitor.Proofs.Machine.Identity
import VmMonitor.Proofs.Machine.Layout
import VmMonitor.Proofs.Machine.MacField
import VmMonitor.Proofs.Machine.MacText
import VmMonitor.Proofs.Machine.Reset
import VmMonitor.Proofs.Machine.Restored
import VmMonitor.Proofs.Machine.Screened
import VmMonitor.Proofs.Machine.Settled
import VmMonitor.Proofs.Machine.Substitution
import VmMonitor.Proofs.Machine.Terminal
import VmMonitor.Proofs.Machine.Wiring
import VmMonitor.Proofs.Memory.Admission
import VmMonitor.Proofs.Memory.Handles
import VmMonitor.Proofs.Memory.Store
import VmMonitor.Proofs.Memory.Transfers
import VmMonitor.Proofs.Memory.Validity
import VmMonitor.Proofs.Register.Blocks
import VmMonitor.Proofs.Register.Laid
import VmMonitor.Proofs.Register.Lanes
import VmMonitor.Proofs.Register.Space
import VmMonitor.Proofs.Strict.Bus
import VmMonitor.Proofs.Strict.Chain
import VmMonitor.Proofs.Strict.Console
import VmMonitor.Proofs.Strict.Controller
import VmMonitor.Proofs.Strict.Distributor
import VmMonitor.Proofs.Strict.Machine
import VmMonitor.Proofs.Strict.Net
import VmMonitor.Proofs.Strict.Registers
import VmMonitor.Proofs.Strict.Ring
import VmMonitor.Proofs.Strict.Service
import VmMonitor.Proofs.Strict.Transport
import VmMonitor.Proofs.Strict.Uart
import VmMonitor.Proofs.Timer.Armings
import VmMonitor.Proofs.Timer.Deadlines
import VmMonitor.Proofs.Timer.Ledger
import VmMonitor.Proofs.Timer.Observed
import VmMonitor.Proofs.Timer.Raised
import VmMonitor.Proofs.Timer.Shared
import VmMonitor.Proofs.Virtio.Backlog
import VmMonitor.Proofs.Virtio.Confined
import VmMonitor.Proofs.Virtio.Drain
import VmMonitor.Proofs.Virtio.Entries
import VmMonitor.Proofs.Virtio.Features
import VmMonitor.Proofs.Virtio.Forgotten
import VmMonitor.Proofs.Virtio.Lanes
import VmMonitor.Proofs.Virtio.Logged
import VmMonitor.Proofs.Virtio.Outward
import VmMonitor.Proofs.Virtio.Programmed
import VmMonitor.Proofs.Virtio.Returns
import VmMonitor.Proofs.Virtio.Session
import VmMonitor.Proofs.Virtio.Sizing
import VmMonitor.Proofs.Virtio.Stream
import VmMonitor.Proofs.Virtio.Transmit
import VmMonitor.Proofs.Virtio.Transport
import VmMonitor.Proofs.Virtio.Turns
import VmMonitor.Proofs.Virtqueue.Available
import VmMonitor.Proofs.Virtqueue.Chain
import VmMonitor.Proofs.Virtqueue.Contents
import VmMonitor.Proofs.Virtqueue.Ring
import VmMonitor.Proofs.Virtqueue.Slots
import VmMonitor.Proofs.Virtqueue.Walk
import VmMonitor.Register.Basic
import VmMonitor.Register.Space
import VmMonitor.Report.Basic
import VmMonitor.Report.Errors
import VmMonitor.Report.Parts
import VmMonitor.SysReg.Id
import VmMonitor.SysReg.Table
import VmMonitor.Text.Blank
import VmMonitor.Text.Hex
import VmMonitor.Text.Printable
import VmMonitor.Text.Quoted
import VmMonitor.Text.Shortest
import VmMonitor.Text.Split
import VmMonitor.Timer.Clock
import VmMonitor.Timer.Host
import VmMonitor.Timer.Virtual
import VmMonitor.Vcpu.Named
import VmMonitor.Vcpu.Session
import VmMonitor.Vcpu.State
import VmMonitor.Vcpu.Syndrome
import VmMonitor.Virtio.Console
import VmMonitor.Virtio.Device
import VmMonitor.Virtio.Net
import VmMonitor.Virtio.Service
import VmMonitor.Virtio.Transport
import VmMonitor.Virtqueue.Chain
import VmMonitor.Virtqueue.Ring
