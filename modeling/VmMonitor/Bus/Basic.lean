import VmMonitor.Bus.Device

/-!
The address space of the machine: windows with a device behind each, kept by ascending base. An
access reaches a device only if it is aligned and lies wholly inside one window.
-/

namespace VmMonitor

structure Window where
  base : UInt64
  len : UInt64
  deriving DecidableEq, Repr

namespace Window

-- One past the window, or the last address of all when the window reaches beyond it.
def last (w : Window) : Nat := min (w.base.toNat + w.len.toNat) (UInt64.size - 1)

def contains (w : Window) (address : UInt64) : Bool :=
  w.base ≤ address && address.toNat < w.last

def overlaps (w other : Window) : Bool :=
  w.base.toNat < other.last && other.base.toNat < w.last

def display (w : Window) : String := s!"{Text.hex w.base}..+{Text.hex w.len}"

end Window

structure Slot (δ : Type) where
  window : Window
  device : δ

structure Bus (δ : Type) where
  slots : List (Slot δ)

namespace Bus

variable {δ : Type}

def empty : Bus δ := ⟨[]⟩

-- Windows are told apart by their base alone: a second device at the same base takes over the
-- window that is there.
def place (window : Window) (device : δ) : List (Slot δ) → List (Slot δ)
  | [] => [⟨window, device⟩]
  | s :: rest =>
      if window.base < s.window.base then ⟨window, device⟩ :: s :: rest
      else if window.base = s.window.base then { s with device := device } :: rest
      else s :: place window device rest

def insert (bus : Bus δ) (device : δ) (window : Window) : Except BusError (Bus δ) :=
  if window.len = 0 then .error (.overlap window.base window.len 0 0)
  else match bus.slots.find? (·.window.overlaps window) with
    | some s => .error (.overlap window.base window.len s.window.base s.window.len)
    | none => .ok ⟨place window device bus.slots⟩

-- The last window that begins at or below the address is the only one that may hold it.
def slotFor? (bus : Bus δ) (address : UInt64) : Option (Slot δ) :=
  (bus.slots.filter (·.window.base ≤ address)).getLast?.filter (·.window.contains address)

def find? (bus : Bus δ) (address : UInt64) : Option Window :=
  (bus.slotFor? address).map (·.window)

def at? (bus : Bus δ) (base : UInt64) : Option (Slot δ) :=
  bus.slots.find? (·.window.base = base)

def setDevice (bus : Bus δ) (base : UInt64) (device : δ) : Bus δ :=
  ⟨bus.slots.map fun s => if s.window.base = base then { s with device := device } else s⟩

-- The slot and the access to hand to its device.
def route (bus : Bus δ) (address : UInt64) (width : Width) (direction : Direction) :
    Checked (Except BusError (Slot δ × Access)) := do
  if address.toNat % width.bytes ≠ 0 then
    return .error (.misaligned address width direction)
  match bus.slotFor? address with
  | none => return .error (.unsupported address width direction)
  | some s =>
      let offset ← Checked.sub address s.window.base
      let reach ← Checked.add offset (UInt64.ofNat width.bytes)
      if s.window.len < reach then return .error (.unsupported address width direction)
      return .ok (s, ⟨offset, address, width⟩)

variable [BusDevice δ]

def read (bus : Bus δ) (board : Board) (address : UInt64) (width : Width) :
    Checked (Answered (Bus δ) UInt64) := do
  match ← bus.route address width .read with
  | .error e => return ⟨.error e, bus, board⟩
  | .ok (s, access) =>
      let r ← BusDevice.read s.device board access
      return ⟨r.answer.map (· &&& width.mask), bus.setDevice s.window.base r.device, r.board⟩

def write (bus : Bus δ) (board : Board) (address : UInt64) (width : Width) (value : UInt64) :
    Checked (Answered (Bus δ) Unit) := do
  match ← bus.route address width .write with
  | .error e => return ⟨.error e, bus, board⟩
  | .ok (s, access) =>
      let r ← BusDevice.write s.device board access (value &&& width.mask)
      return ⟨r.answer, bus.setDevice s.window.base r.device, r.board⟩

-- Whether there is a device at `base` to tell.
def endOfInterrupt (bus : Bus δ) (board : Board) (base : UInt64) (n : Nat) :
    Bool × Bus δ × Board :=
  match bus.at? base with
  | none => (false, bus, board)
  | some s =>
      let (device, board) := BusDevice.endOfInterrupt s.device board n
      (true, bus.setDevice base device, board)

def levelChanged (bus : Bus δ) (board : Board) (base : UInt64) (n : Nat) (level : Bool) :
    Bool × Bus δ × Board :=
  match bus.at? base with
  | none => (false, bus, board)
  | some s =>
      let (device, board) := BusDevice.levelChanged s.device board n level
      (true, bus.setDevice base device, board)

def input (bus : Bus δ) (board : Board) (base : UInt64) (data : List UInt8) :
    Checked (Answered (Bus δ) Unit) :=
  match bus.at? base with
  | none => .ok ⟨.error (.unsupported base .byte .write), bus, board⟩
  | some s => do
      let r ← BusDevice.input s.device board data
      return ⟨r.answer, bus.setDevice base r.device, r.board⟩

def reset (bus : Bus δ) : Bus δ :=
  ⟨bus.slots.map fun s => { s with device := BusDevice.reset s.device }⟩

end Bus

end VmMonitor
