import VmMonitor.Bus.Device
import VmMonitor.Virtio.Device

/-!
The register window through which a driver finds a paravirtual device, negotiates features, lays
its queues out and is interrupted. Registers are words; the configuration space of the device
behind them takes any width up to a word.
-/

namespace VmMonitor

structure Transport (ν : Type) where
  device : ν
  line : Nat
  queues : List QueueConfig
  rings : Virtio.Rings
  queueSelect : UInt32
  deviceFeatureSelect : UInt32
  driverFeatureSelect : UInt32
  acked : UInt64
  interruptStatus : UInt32
  status : UInt32
  configGeneration : UInt32

namespace Transport

def windowSize : UInt64 := 0x200

-- "virt", read as a little endian word.
def magic : UInt32 := 0x74726976
def version : UInt32 := 2
def vendor : UInt32 := 0x4d565243

-- Offset of the configuration space.
def configStart : UInt64 := 0x100

def usedRingInterrupt : UInt32 := 1
def statusFailed : UInt32 := 0x80

inductive Register where
  | magicValue
  | version
  | deviceId
  | vendorId
  | deviceFeatures
  | deviceFeaturesSel
  | driverFeatures
  | driverFeaturesSel
  | queueSel
  | queueNumMax
  | queueNum
  | queueReady
  | queueNotify
  | interruptStatus
  | interruptAck
  | status
  | queueDescLow
  | queueDescHigh
  | queueAvailLow
  | queueAvailHigh
  | queueUsedLow
  | queueUsedHigh
  | configGeneration
  | unknown
  deriving DecidableEq, Repr

def Register.of (offset : Nat) : Register :=
  match offset with
  | 0x000 => .magicValue
  | 0x004 => .version
  | 0x008 => .deviceId
  | 0x00c => .vendorId
  | 0x010 => .deviceFeatures
  | 0x014 => .deviceFeaturesSel
  | 0x020 => .driverFeatures
  | 0x024 => .driverFeaturesSel
  | 0x030 => .queueSel
  | 0x034 => .queueNumMax
  | 0x038 => .queueNum
  | 0x044 => .queueReady
  | 0x050 => .queueNotify
  | 0x060 => .interruptStatus
  | 0x064 => .interruptAck
  | 0x070 => .status
  | 0x080 => .queueDescLow
  | 0x084 => .queueDescHigh
  | 0x090 => .queueAvailLow
  | 0x094 => .queueAvailHigh
  | 0x0a0 => .queueUsedLow
  | 0x0a4 => .queueUsedHigh
  | 0x0fc => .configGeneration
  | _ => .unknown

variable {ν : Type} [VirtioDevice ν]

def new (device : ν) (line : Nat) : Transport ν :=
  let queues := (VirtioDevice.queueMaxSizes device).map QueueConfig.new
  ⟨device, line, queues, queues.map fun _ => none, 0, 0, 0, 0, 0, 0, 0⟩

def label (t : Transport ν) : String := VirtioDevice.label t.device

def selected? (t : Transport ν) : Option QueueConfig := t.queues[t.queueSelect.toNat]?

def setQueue (t : Transport ν) (i : Nat) (q : QueueConfig) : Transport ν :=
  { t with queues := t.queues.set i q }

def setRing (t : Transport ν) (i : Nat) (ring : Option SplitQueue) : Checked (Transport ν) :=
  if i < t.rings.length then .ok { t with rings := t.rings.set i ring }
  else .error .outOfRange

-- Changes a setting of the selected queue, if there is such a queue.
def configure (t : Transport ν) (b : Board) (f : QueueConfig → QueueConfig.Setting) :
    Transport ν × Board :=
  match t.selected? with
  | none => (t, b.warn s!"{t.label}: queue {t.queueSelect} does not exist")
  | some q =>
      (t.setQueue t.queueSelect.toNat (q.set (f q)), b.logAll (q.complaints (f q)))

def withLow (address : GuestAddress) (value : UInt32) : GuestAddress :=
  (address &&& (0xffffffff00000000 : UInt64)) ||| value.toUInt64

def withHigh (address : GuestAddress) (value : UInt32) : GuestAddress :=
  (address &&& (0xffffffff : UInt64)) ||| (value.toUInt64 <<< 32)

def setQueueReady (t : Transport ν) (b : Board) (ready : Bool) :
    Checked (Transport ν × Board) := do
  let i := t.queueSelect.toNat
  match t.selected? with
  | none => return (t, b.warn s!"{t.label}: QueueReady for missing queue {i}")
  | some q =>
      if !ready then return (← (t.setQueue i q.deactivate).setRing i none, b)
      if q.ready then return (t, b)
      match q.activate with
      | .ok (ring, q) => return (← (t.setQueue i q).setRing i (some ring), b)
      | .error e =>
          return (t, b.warn s!"{t.label}: refusing to make queue {i} ready: {e.message}")

-- Takes over what the device left behind and interrupts the driver if data moved.
def finish (t : Transport ν) (b : Board) (s : Served ν) : Transport ν × Board :=
  let t := { t with device := s.device, rings := s.rings }
  let b := { b with toMedium := s.medium }
  if s.moved then
    ({ t with interruptStatus := t.interruptStatus ||| usedRingInterrupt },
      b.request (.assert t.line))
  else (t, b)

def notifyQueue (t : Transport ν) (b : Board) (i : Nat) : Checked (Transport ν × Board) := do
  match Virtio.ring? t.rings i with
  | none => return (t, b.warn s!"{t.label}: notify of queue {i} that is not ready")
  | some _ => return t.finish b (← VirtioDevice.notify t.device b.toMedium t.rings i)

-- Only the configuration generation outlives the session of a driver.
def reset (t : Transport ν) : Transport ν :=
  { t with
    device := VirtioDevice.reset t.device
    queues := t.queues.map .reset
    rings := t.rings.map fun _ => none
    queueSelect := 0
    deviceFeatureSelect := 0
    driverFeatureSelect := 0
    acked := 0
    interruptStatus := 0
    status := 0 }

-- Features come and go in two pages of 32 bits.
def featurePage (features : UInt64) (page : UInt32) : UInt32 :=
  if page < 2 then (features >>> (page.toUInt64 * 32)).toUInt32 else 0

theorem page_cases {page : UInt32} (known : page < 2) : page = 0 ∨ page = 1 := by
  have below : page.toNat < 2 := UInt32.lt_iff_toNat_lt.mp known
  rcases Nat.lt_succ_iff_lt_or_eq.mp below with first | second
  · exact .inl (UInt32.toNat_inj.mp (Nat.lt_one_iff.mp first))
  · exact .inr (UInt32.toNat_inj.mp second)

def ackFeatures (t : Transport ν) (b : Board) (value : UInt32) : Transport ν × Board :=
  if t.driverFeatureSelect < 2 then
    let shift := t.driverFeatureSelect.toUInt64 * 32
    let page : UInt64 := 0xffffffff <<< shift
    let offered := VirtioDevice.features t.device
    let requested := value.toUInt64 <<< shift
    let b := if requested &&& ~~~offered != 0 then
        b.warn s!"{t.label}: driver acked unoffered features {Text.hex (requested &&& ~~~offered)}"
      else b
    let acked := (t.acked &&& ~~~page) ||| (requested &&& offered)
    ({ t with acked := acked, device := VirtioDevice.ackFeatures t.device acked }, b)
  else
    (t, b.warn <| s!"invalid ack_features (page {t.driverFeatureSelect}, " ++
      s!"value {Text.hexNat value.toNat})")

def setStatus (t : Transport ν) (b : Board) (value : UInt32) : Transport ν × Board :=
  if value = 0 then (t.reset, b)
  else
    ({ t with status := value },
      if value &&& statusFailed != 0 then b.warn s!"{t.label}: driver reported failure" else b)

def readRegister (t : Transport ν) (b : Board) (a : Access) : UInt32 × Board :=
  match Register.of a.offset.toNat with
  | .magicValue => (magic, b)
  | .version => (version, b)
  | .deviceId => ((VirtioDevice.deviceType t.device).id, b)
  | .vendorId => (vendor, b)
  | .deviceFeatures => (featurePage (VirtioDevice.features t.device) t.deviceFeatureSelect, b)
  | .queueNumMax => ((t.selected?.elim 0 (·.maxSize)).toUInt32, b)
  | .queueReady => (if t.selected?.any (·.ready) then 1 else 0, b)
  | .interruptStatus => (t.interruptStatus, b)
  | .status => (t.status, b)
  | .configGeneration => (t.configGeneration, b)
  | _ => (0, b.warn s!"{t.label}: unsupported read address {a.display}")

def writeRegister (t : Transport ν) (b : Board) (a : Access) (value : UInt32) :
    Checked (Transport ν × Board) :=
  match Register.of a.offset.toNat with
  | .deviceFeaturesSel => .ok ({ t with deviceFeatureSelect := value }, b)
  | .driverFeaturesSel => .ok ({ t with driverFeatureSelect := value }, b)
  | .driverFeatures => .ok (t.ackFeatures b value)
  | .queueSel => .ok ({ t with queueSelect := value }, b)
  | .queueNum => .ok (t.configure b fun _ => .size value.toUInt16)
  | .queueReady => t.setQueueReady b (value = 1)
  | .queueNotify => t.notifyQueue b value.toNat
  | .interruptAck => .ok ({ t with interruptStatus := t.interruptStatus &&& ~~~value }, b)
  | .status => .ok (t.setStatus b value)
  | .queueDescLow => .ok (t.configure b fun q => .descTable (withLow q.descTable value))
  | .queueDescHigh => .ok (t.configure b fun q => .descTable (withHigh q.descTable value))
  | .queueAvailLow => .ok (t.configure b fun q => .availRing (withLow q.availRing value))
  | .queueAvailHigh => .ok (t.configure b fun q => .availRing (withHigh q.availRing value))
  | .queueUsedLow => .ok (t.configure b fun q => .usedRing (withLow q.usedRing value))
  | .queueUsedHigh => .ok (t.configure b fun q => .usedRing (withHigh q.usedRing value))
  | _ => .ok (t, b.warn s!"{t.label}: unsupported write address {a.display}")

def read (t : Transport ν) (b : Board) (a : Access) : Checked (Answered (Transport ν) UInt64) :=
  if configStart ≤ a.offset then
    if a.width = .double then .ok ⟨.error (a.unsupported .read), t, b⟩
    else
      let bytes := VirtioDevice.readConfig t.device (a.offset - configStart)
        (List.replicate a.width.bytes 0)
      .ok ⟨.ok (UInt64.ofNat (Bytes.toNat bytes)), t, b⟩
  else if a.width ≠ .word then .ok ⟨.error (a.unsupported .read), t, b⟩
  else
    let (value, b) := t.readRegister b a
    .ok ⟨.ok value.toUInt64, t, b⟩

def write (t : Transport ν) (b : Board) (a : Access) (value : UInt64) :
    Checked (Answered (Transport ν) Unit) := do
  if configStart ≤ a.offset then
    if a.width = .double then return ⟨.error (a.unsupported .write), t, b⟩
    let device := VirtioDevice.writeConfig t.device (a.offset - configStart)
      (Bytes.ofNat value.toNat a.width.bytes)
    return ⟨.ok (), { t with device := device, configGeneration := t.configGeneration + 1 }, b⟩
  if a.width ≠ .word then return ⟨.error (a.unsupported .write), t, b⟩
  let (t, b) ← t.writeRegister b a value.toUInt32
  return ⟨.ok (), t, b⟩

-- The driver may not have acknowledged everything yet.
def endOfInterrupt (t : Transport ν) (b : Board) : Transport ν × Board :=
  if t.interruptStatus != 0 then (t, b.request (.assert t.line)) else (t, b)

def input (t : Transport ν) (b : Board) (data : List UInt8) :
    Checked (Answered (Transport ν) Unit) := do
  let (t, b) := t.finish b (← VirtioDevice.input t.device b.toMedium t.rings data)
  return ⟨.ok (), t, b⟩

instance : BusDevice (Transport ν) where
  label t := s!"virtio-mmio ({t.label})"
  read := read
  write := write
  endOfInterrupt t b _ := t.endOfInterrupt b
  input := input
  reset := reset

end Transport

end VmMonitor
