import Std.Data.TreeMap
import VmMonitor.Bus.Basic
import VmMonitor.Device.Distributor
import VmMonitor.Device.Uart
import VmMonitor.Machine.Mac
import VmMonitor.Virtio.Transport

/-!
The layout of a machine, and what makes a layout one that can be built: memory and devices claim
disjoint windows of the address space, and every device has an interrupt line of its own.
-/

namespace VmMonitor

structure UartConfig where
  base : UInt64
  irq : UInt32
  deriving DecidableEq, Repr

structure ConsoleConfig where
  base : UInt64
  irq : UInt32
  queueSize : UInt16
  deriving DecidableEq, Repr

structure NetConfig where
  base : UInt64
  irq : UInt32
  queueSize : UInt16
  mac : MacAddress
  deriving DecidableEq, Repr

structure MachineConfig where
  memoryBase : UInt64
  memorySize : UInt64
  distributorBase : UInt64
  -- In hertz, as the guest reads it.
  timerFrequency : UInt64
  uart : UartConfig
  console : Option ConsoleConfig
  net : Option NetConfig
  -- Values that replace the initial ones of system registers, by name.
  overrides : Std.TreeMap String UInt64
  -- Log filter.
  log : String

-- A window and the part of the machine that claims it.
structure Claim where
  owner : String
  window : Window
  deriving DecidableEq, Repr

namespace Claim

-- One past the last address.
def last (c : Claim) : Nat := c.window.base.toNat + c.window.len.toNat

def meets (c d : Claim) : Bool :=
  c.window.base.toNat < d.last && d.window.base.toNat < c.last

def display (c : Claim) : String :=
  s!"{c.owner} window {Text.hex c.window.base}..{Text.hexNat c.last}"

end Claim

inductive ConfigError where
  | noMemory
  | timerFrequency (hertz : UInt64)
  | wraps (claim : Claim)
  | overlap (claim other : Claim)
  | queueSize (owner : String) (size : UInt16)
  | notShared (owner : String) (irq : UInt32)
  | sameInterrupt (owner other : String) (irq : UInt32)
  deriving DecidableEq, Repr

namespace MachineConfig

def standardQueueSize : UInt16 := 256

-- The largest queue that the ring layout allows.
def maxQueueSize : UInt16 := 32768

def minFrequency : UInt64 := 1000

def standard : MachineConfig where
  memoryBase := 0x40000000
  memorySize := 0x8000000
  distributorBase := 0x08000000
  timerFrequency := 62500000
  uart := ⟨0x09000000, 33⟩
  console := none
  net := none
  overrides := {}
  log := "info"

end MachineConfig

def ConfigError.message : ConfigError → String
  | noMemory => "guest memory size must not be zero"
  | timerFrequency hertz =>
      s!"timer frequency of {hertz} Hz is too low, at least 1 kHz is needed"
  | wraps claim =>
      s!"{claim.owner} window at {Text.hex claim.window.base} wraps the address space"
  | overlap claim other => s!"{claim.display} overlaps {other.display}"
  | queueSize owner size =>
      s!"{owner} queue size {size} must be a power of two between 1 and " ++
        s!"{MachineConfig.maxQueueSize}"
  | notShared owner irq =>
      s!"{owner} interrupt {irq} is outside the SPI range {Gic.numPrivate}..{Gic.numLines}"
  | sameInterrupt owner other irq => s!"{owner} and {other} share interrupt {irq}"

namespace MachineConfig

def consoleClaim (c : ConsoleConfig) : Claim :=
  ⟨"virtio console", c.base, Transport.windowSize⟩

def netClaim (c : NetConfig) : Claim := ⟨"virtio net", c.base, Transport.windowSize⟩

-- Every window that is claimed.
def claims (c : MachineConfig) : List Claim :=
  [⟨"memory", c.memoryBase, c.memorySize⟩,
    ⟨"gic distributor", c.distributorBase, Distributor.windowSize⟩,
    ⟨"uart", c.uart.base, Uart.windowSize⟩] ++
  c.console.toList.map consoleClaim ++ c.net.toList.map netClaim

-- The interrupt line of every device that has one.
def interrupts (c : MachineConfig) : List (String × UInt32) :=
  ("uart", c.uart.irq) :: c.console.toList.map (fun d => ("virtio console", d.irq)) ++
    c.net.toList.map fun d => ("virtio net", d.irq)

def queueSizes (c : MachineConfig) : List (String × UInt16) :=
  c.console.toList.map (fun d => ("virtio console", d.queueSize)) ++
    c.net.toList.map fun d => ("virtio net", d.queueSize)

def checkBounds : List Claim → Except ConfigError Unit
  | [] => .ok ()
  | c :: rest => if c.last < UInt64.size then checkBounds rest else .error (.wraps c)

def checkDisjoint : List Claim → Except ConfigError Unit
  | [] => .ok ()
  | c :: rest =>
      match rest.find? c.meets with
      | some other => .error (.overlap c other)
      | none => checkDisjoint rest

def checkQueueSizes : List (String × UInt16) → Except ConfigError Unit
  | [] => .ok ()
  | (owner, size) :: rest =>
      if isPowerOfTwo size && size ≤ maxQueueSize then checkQueueSizes rest
      else .error (.queueSize owner size)

def checkInterrupts : List (String × UInt32) → Except ConfigError Unit
  | [] => .ok ()
  | (owner, irq) :: rest =>
      if irq.toNat < Gic.numPrivate ∨ Gic.numLines ≤ irq.toNat then
        .error (.notShared owner irq)
      else match rest.find? (·.2 = irq) with
        | some (other, _) => .error (.sameInterrupt owner other irq)
        | none => checkInterrupts rest

-- The first conflict of the layout, if there is one.
def validate (c : MachineConfig) : Except ConfigError Unit := do
  if c.memorySize = 0 then throw .noMemory
  if c.timerFrequency < minFrequency then throw (.timerFrequency c.timerFrequency)
  checkBounds c.claims
  checkDisjoint c.claims
  checkQueueSizes c.queueSizes
  checkInterrupts c.interrupts

end MachineConfig

end VmMonitor
