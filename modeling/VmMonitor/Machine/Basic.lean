import VmMonitor.Cpu.Exit
import VmMonitor.Machine.Config
import VmMonitor.Machine.Device
import VmMonitor.Vcpu.Session

/-!
A machine with one vCPU, and how it is put together from its layout. Its parts are generic where
the host supplies them: the vCPU, the host timer and the hypercall handler.
-/

namespace VmMonitor

inductive ExitReason where
  | powerOff
  -- The devices are back in their power-on state.
  | reset
  | shutdown
  deriving DecidableEq, Repr

def ExitReason.ofPower : PowerEvent → ExitReason
  | .off => powerOff
  | .reset => reset

def ExitReason.name : ExitReason → String
  | powerOff => "PowerOff"
  | reset => "Reset"
  | shutdown => "Shutdown"

-- Work that the host side hands to the machine.
inductive MachineEvent where
  -- The vCPU stopped, and its state says why.
  | exited
  | timerExpired
  | terminalInput (base : UInt64) (data : List UInt8)
  | frameReceived (base : UInt64) (data : List UInt8)
  | shutdown
  deriving DecidableEq, Repr

inductive MachineError where
  | cpu (cause : CpuError)
  | halted
  | pause (cause : HostError)
  | run (cause : HostError)
  deriving DecidableEq, Repr

def MachineError.kind : MachineError → String
  | cpu cause => s!"Cpu/{cause.kind}"
  | halted => "Halted"
  | pause _ => "PauseVcpu"
  | run _ => "RunVcpu"

def MachineError.message : MachineError → String
  | cpu cause => cause.message
  | halted => "the vm is halted after a fatal error"
  | pause cause => s!"failed to pause the vcpu: {cause.message}"
  | run cause => s!"failed to resume the vcpu: {cause.message}"

structure Machine (ν τ η : Type) where
  vcpu : ν
  platform : Platform MachineDevice τ η
  -- Events that wait to be handled, oldest first.
  events : List MachineEvent
  -- The guest waits, and no interrupt was presented since.
  idle : Bool
  -- A fatal error stopped the machine for good.
  halted : Bool
  exit : Option ExitReason

-- What the host supplies for the devices.
structure Backends (η : Type) where
  uart : Sink
  console : Option Sink
  net : Option Sink
  hypercalls : η

inductive BuildError where
  | config (cause : ConfigError)
  | memory (cause : MemoryError)
  | hostTimer (cause : HostError)
  | virtualTimer (cause : TimerError)
  | cpu (cause : CpuError)
  | device (name : String) (cause : BusError)
  | noOutput
  | noBackend
  deriving DecidableEq, Repr

def BuildError.message : BuildError → String
  | config cause => s!"invalid vm config: {cause.message}"
  | memory cause => s!"failed to create guest memory: {cause.trace}"
  | hostTimer cause => s!"failed to create the host timer: {cause.message}"
  | virtualTimer cause => s!"failed to create the virtual timer: {cause.message}"
  | cpu cause => s!"failed to set up the cpu: {cause.message}"
  | device name cause => s!"failed to add the {name}: {cause.message}"
  | noOutput => "the virtio console is configured without an output"
  | noBackend => "the virtio net device is configured without a backend"

namespace Machine

-- A device to put on the bus, with the interrupt line it listens to, if it has one.
structure Placement where
  name : String
  device : MachineDevice
  window : Window
  line : Option Nat

def distributorPlacement (c : MachineConfig) : Placement where
  name := "gic distributor"
  device := MachineDevice.distributor .new
  window := ⟨c.distributorBase, Distributor.windowSize⟩
  line := none

def uartPlacement (c : UartConfig) (sink : Sink) : Placement where
  name := "uart"
  device := MachineDevice.uart (.new c.irq.toNat sink)
  window := ⟨c.base, Uart.windowSize⟩
  line := some c.irq.toNat

def consolePlacement (c : ConsoleConfig) (sink : Sink) : Placement where
  name := "virtio console"
  device := MachineDevice.console (.new ((Console.new sink).withQueueSize c.queueSize) c.irq.toNat)
  window := ⟨c.base, Transport.windowSize⟩
  line := some c.irq.toNat

def netPlacement (c : NetConfig) (sink : Sink) : Placement where
  name := "virtio net device"
  device := MachineDevice.net
    (.new ((Net.new sink c.mac.bytes).withQueueSize c.queueSize) c.irq.toNat)
  window := ⟨c.base, Transport.windowSize⟩
  line := some c.irq.toNat

def place (p : Placement) (bus : Bus MachineDevice) (gic : Gic) :
    Except BuildError (Bus MachineDevice × Gic) :=
  match bus.insert p.device p.window with
  | .error e => .error (.device p.name e)
  | .ok bus =>
      .ok (bus, match p.line with
        | some n => gic.apply (.setHandler n (.device p.window.base))
        | none => gic)

def placeConsole (config : Option ConsoleConfig) (sink : Option Sink) (bus : Bus MachineDevice)
    (gic : Gic) : Except BuildError (Bus MachineDevice × Gic) :=
  match config, sink with
  | none, _ => .ok (bus, gic)
  | some _, none => .error .noOutput
  | some c, some sink => place (consolePlacement c sink) bus gic

def placeNet (config : Option NetConfig) (sink : Option Sink) (bus : Bus MachineDevice)
    (gic : Gic) : Except BuildError (Bus MachineDevice × Gic) :=
  match config, sink with
  | none, _ => .ok (bus, gic)
  | some _, none => .error .noBackend
  | some c, some sink => place (netPlacement c sink) bus gic

variable {ν τ η : Type} [VcpuSession ν]

-- The machine of a layout around a vCPU. The host may have failed to supply the timer.
def new [Host] (c : MachineConfig) (vcpu : ν) (hostTimer : Except HostError τ)
    (backends : Backends η) : Except BuildError (Machine ν τ η) := do
  c.validate.mapError .config
  let memory ← (GuestMemory.new [(c.memoryBase, c.memorySize)]).mapError .memory
  let hostTimer ← hostTimer.mapError .hostTimer
  let (timer, gic) ← (VirtualTimer.new hostTimer c.timerFrequency .initial).mapError .virtualTimer
  let state ← (SysReg.setUp c.overrides.toList (VcpuSession.state vcpu)).mapError
    fun name => .cpu (.unknownRegisterName name)
  let state := { state with timer := { state.timer with frequency := c.timerFrequency } }
  let (bus, gic) ← place (distributorPlacement c) .empty gic
  let (bus, gic) ← place (uartPlacement c.uart backends.uart) bus gic
  let (bus, gic) ← placeConsole c.console backends.console bus gic
  let (bus, gic) ← placeNet c.net backends.net bus gic
  return {
    vcpu := VcpuSession.setState vcpu state
    platform := ⟨⟨⟨memory, #[]⟩, gic⟩, bus, timer, backends.hypercalls⟩
    events := []
    idle := false
    halted := false
    exit := none }

end Machine

end VmMonitor
