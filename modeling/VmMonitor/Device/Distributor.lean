import VmMonitor.Bus.Device
import VmMonitor.Register.Space

/-!
The distributor register block, the guest's view of the interrupt controller. All state of the
interrupts is the controller's; the block itself keeps the control register and the fixed
identification registers.
-/

namespace VmMonitor

namespace Distributor

def windowSize : UInt64 := 0x1000

-- Register banks by the offset of their first register.
def ctlr : UInt64 := 0x0
def typer : UInt64 := 0x4
def iidr : UInt64 := 0x8
def idFirst : UInt64 := 0xfd0

-- 32 lines for each of the 32 words of a bit map, one CPU.
def typerValue : UInt64 := 31

-- The implementer is Arm.
def iidrValue : UInt64 := 0x0200043b

def idValues : List UInt64 :=
  [0x04, 0x00, 0x00, 0x00, 0x90, 0xb4, 0x2b, 0x00, 0x0d, 0xf0, 0x05, 0xb1]

def ctlrEnable : UInt64 := 1

-- All sixteen software interrupts are edge triggered.
def softwareTriggers : UInt64 := 0xaaaaaaaa

-- What an offset names. A bank carries the first line that the register at the offset covers.
inductive Bank where
  | plain
  | group
  | setEnable (first : Nat)
  | clearEnable (first : Nat)
  | setPending (first : Nat)
  | clearPending (first : Nat)
  | setActive (first : Nat)
  | clearActive (first : Nat)
  | priority (first : Nat)
  | target (first : Nat)
  | trigger (first : Nat)
  | software
  | unknown
  deriving DecidableEq, Repr

-- Bit maps hold a bit per line, byte maps a byte and the trigger bank two bits.
def Bank.of (offset : Nat) : Bank :=
  if offset = 0x0 ∨ offset = 0x4 ∨ offset = 0x8 then .plain
  else if 0xfd0 ≤ offset ∧ offset ≤ 0xfff then .plain
  else if 0x80 ≤ offset ∧ offset < 0x100 then .group
  else if 0x100 ≤ offset ∧ offset < 0x180 then .setEnable ((offset - 0x100) * 8)
  else if 0x180 ≤ offset ∧ offset < 0x200 then .clearEnable ((offset - 0x180) * 8)
  else if 0x200 ≤ offset ∧ offset < 0x280 then .setPending ((offset - 0x200) * 8)
  else if 0x280 ≤ offset ∧ offset < 0x300 then .clearPending ((offset - 0x280) * 8)
  else if 0x300 ≤ offset ∧ offset < 0x380 then .setActive ((offset - 0x300) * 8)
  else if 0x380 ≤ offset ∧ offset < 0x400 then .clearActive ((offset - 0x380) * 8)
  else if 0x400 ≤ offset ∧ offset < 0x800 then .priority (offset - 0x400)
  else if 0x800 ≤ offset ∧ offset < 0xc00 then .target (offset - 0x800)
  else if 0xc00 ≤ offset ∧ offset < 0xd00 then .trigger ((offset - 0xc00) * 8 / 2)
  else if offset = 0xf00 then .software
  else if 0xf10 ≤ offset ∧ offset < 0xf30 then .software
  else .unknown

-- Byte maps take single bytes too, offsets without a register take anything, and all else is a
-- word at a time.
def Bank.allows : Bank → Width → Bool
  | .unknown, _ => true
  | .priority _, w | .target _, w | .software, w => w = .word || w = .byte
  | _, w => w = .word

end Distributor

structure Distributor where
  registers : RegisterSpace
  deriving DecidableEq, Repr

namespace Distributor

def new : Distributor where
  registers := .ofSpecs <|
    [.word "GICD_CTLR" .readWrite ctlr 0 ctlrEnable,
      .fixed "GICD_TYPER" typer typerValue,
      .fixed "GICD_IIDR" iidr iidrValue] ++
    idValues.zipIdx.map fun (value, i) =>
      .fixed "GICD_ID" (idFirst + UInt64.ofNat (4 * i)) value

def bit (set : Bool) (i : Nat) : UInt64 := if set then (1 : UInt64) <<< UInt64.ofNat i else 0

-- Lines past the last one read as zero.
def readBits (g : Gic) (first : Nat) (p : Gic.Line → Bool) : UInt64 :=
  (List.range 32).foldl (fun acc i => acc ||| bit ((g.line? (first + i)).any p) i) 0

def readBytes (g : Gic) (first count : Nat) (f : Gic.Line → UInt8) : UInt64 :=
  (List.range count).foldl (fun acc i =>
    acc ||| ((g.line? (first + i)).elim 0 f).toUInt64 <<< UInt64.ofNat (8 * i)) 0

def readTriggers (g : Gic) (first : Nat) : UInt64 :=
  if Gic.Kind.of first = .software then softwareTriggers
  else (List.range 16).foldl (fun acc i =>
    acc ||| bit ((g.line? (first + i)).any (·.trigger = .edge)) (2 * i + 1)) 0

def lineTarget (l : Gic.Line) : UInt8 := if l.kind = .spi then l.target else 1

-- The requests of a bit map write: one for every existing line whose bit is set.
def bitRequests (first : Nat) (value : UInt64) (r : Nat → Gic.Request) : List Gic.Request :=
  ((List.range 32).filter fun i =>
    value &&& bit true i != 0 && first + i < Gic.numLines).map fun i => r (first + i)

def byteOf (value : UInt64) (i : Nat) : UInt8 := (value >>> UInt64.ofNat (8 * i)).toUInt8

def priorityRequests (first count : Nat) (value : UInt64) : List Gic.Request :=
  ((List.range count).filter fun i => first + i < Gic.numLines).map fun i =>
    .setPriority (first + i) (byteOf value i)

-- The targets of private lines are read only.
def targetRequests (first count : Nat) (value : UInt64) : List Gic.Request :=
  ((List.range count).filter fun i =>
    Gic.numPrivate ≤ first + i && first + i < Gic.numLines).map fun i =>
      .setTarget (first + i) (byteOf value i)

def triggerRequests (first : Nat) (value : UInt64) : List Gic.Request :=
  if Gic.Kind.of first = .software then []
  else ((List.range 16).filter fun i => first + i < Gic.numLines).map fun i =>
    .setTrigger (first + i) (if value &&& bit true (2 * i + 1) != 0 then .edge else .level)

-- What a write to a bank other than the plain registers asks of the controller.
def Bank.requests (bank : Bank) (width : Width) (value : UInt64) : List Gic.Request :=
  match bank with
  | .setEnable first => bitRequests first value .enable
  | .clearEnable first => bitRequests first value .disable
  | .setPending first => bitRequests first value .assert
  | .clearPending first => bitRequests first value .clearPending
  | .setActive first => bitRequests first value .acknowledge
  | .clearActive first => bitRequests first value .deactivate
  | .priority first => priorityRequests first width.bytes value
  | .target first => targetRequests first width.bytes value
  | .trigger first => triggerRequests first value
  | .plain | .group | .software | .unknown => []

-- The registers that read the lines alone.
def Bank.lineValue (bank : Bank) (g : Gic) (width : Width) : UInt64 :=
  match bank with
  | .setEnable first | .clearEnable first => readBits g first (·.enabled)
  | .setPending first | .clearPending first => readBits g first (·.state.isPending)
  | .setActive first | .clearActive first => readBits g first (·.state.isActive)
  | .priority first => readBytes g first width.bytes (·.priority)
  | .target first => readBytes g first width.bytes lineTarget
  | .trigger first => readTriggers g first
  | .plain | .group | .software | .unknown => 0

def read (d : Distributor) (b : Board) (a : Access) : Checked (Answered Distributor UInt64) := do
  let bank := Bank.of a.offset.toNat
  if !bank.allows a.width then return ⟨.error (a.unsupported .read), d, b⟩
  match bank with
  | .plain =>
      match ← d.registers.read a.offset a.width with
      | .ok value => return ⟨.ok value, d, b⟩
      | .error e => return ⟨.ok 0, d, b.warn s!"gicd: {e.message}"⟩
  | .software =>
      return ⟨.ok 0, d, b.warn s!"gicd: SGI register {Text.hex a.offset} read as zero"⟩
  | .unknown =>
      return ⟨.ok 0, d, b.warn s!"gicd: read of unknown offset {Text.hex a.offset}"⟩
  | bank => return ⟨.ok (bank.lineValue b.gic a.width), d, b⟩

def writePlain (d : Distributor) (b : Board) (a : Access) (value : UInt64) :
    Checked (Distributor × Board) := do
  match ← d.registers.write a.offset a.width value with
  | .error e => return (d, b.warn s!"gicd: {e.message}")
  | .ok (written, registers) =>
      let d := { d with registers := registers }
      if written = ctlr then
        if registers.value ctlr &&& ctlrEnable != 0 then
          return (d, b.request .enableDistributor)
        else return (d, b.request .disableDistributor)
      else return (d, b)

def write (d : Distributor) (b : Board) (a : Access) (value : UInt64) :
    Checked (Answered Distributor Unit) := do
  let bank := Bank.of a.offset.toNat
  if !bank.allows a.width then return ⟨.error (a.unsupported .write), d, b⟩
  match bank with
  | .plain =>
      let (d, b) ← d.writePlain b a value
      return ⟨.ok (), d, b⟩
  | .software =>
      return ⟨.ok (), d, b.warn <|
        s!"gicd: ignoring SGI register write {Text.hex a.offset} <- {Text.hex value}"⟩
  | .unknown =>
      return ⟨.ok (), d, b.warn <|
        s!"gicd: write of unknown offset {Text.hex a.offset} <- {Text.hex value}"⟩
  | bank => return ⟨.ok (), d, (bank.requests a.width value).foldl Board.request b⟩

instance : BusDevice Distributor where
  label _ := "gic distributor"
  read := read
  write := write
  reset d := { d with registers := d.registers.reset }

end Distributor

end VmMonitor
