import VmMonitor.Bus.Access
import VmMonitor.Checked

/-!
A device register: one stored word that the guest sees through byte, halfword, word and doubleword
lanes. The guest is held to the direction and the writeable bits of the register, the device is
not.
-/

namespace VmMonitor

inductive RegisterError where
  | noRegister (offset : UInt64)
  | partialAccess (name : String) (offset : UInt64) (width : Width)
  | readFromWriteOnly (name : String) (offset : UInt64)
  | writeToReadOnly (name : String) (offset : UInt64)
  deriving DecidableEq, Repr

def RegisterError.kind : RegisterError → String
  | noRegister _ => "NoRegister"
  | partialAccess .. => "PartialAccess"
  | readFromWriteOnly .. => "ReadFromWriteOnly"
  | writeToReadOnly .. => "WriteToReadOnly"

def RegisterError.message : RegisterError → String
  | noRegister offset => s!"no register at offset {Text.hex offset}"
  | partialAccess name offset width =>
      s!"{width.display} access at {Text.hex offset} does not fit in register {name}"
  | readFromWriteOnly name offset =>
      s!"read of write-only register {name} at {Text.hex offset}"
  | writeToReadOnly name offset => s!"write of read-only register {name} at {Text.hex offset}"

-- Offsets from `first` to `final`, both included.
structure RegisterRange where
  first : UInt64
  final : UInt64
  deriving DecidableEq, Repr

namespace RegisterRange

def overlaps (r other : RegisterRange) : Bool :=
  !(other.final < r.first || r.final < other.first)

def overlap? (r other : RegisterRange) : Option RegisterRange :=
  if r.overlaps other then some ⟨max r.first other.first, min r.final other.final⟩ else none

def covers (r other : RegisterRange) : Bool :=
  r.first ≤ other.first && other.final ≤ r.final

-- Ranges go by where they start; how far they reach plays no part.
def order (r other : RegisterRange) : Ordering := compare r.first other.first

-- The `count` offsets from `start` on. The sum has to fit before the last offset is taken.
def of (start count : UInt64) : Checked RegisterRange := do
  return ⟨start, ← Checked.sub (← Checked.add start count) 1⟩

end RegisterRange

inductive RegisterAccess where
  | readOnly
  | writeOnly
  | readWrite
  deriving DecidableEq, Repr

namespace RegisterAccess

def readable : RegisterAccess → Bool
  | writeOnly => false
  | readOnly | readWrite => true

def writeable : RegisterAccess → Bool
  | readOnly => false
  | writeOnly | readWrite => true

def name : RegisterAccess → String
  | readOnly => "ReadOnly"
  | writeOnly => "WriteOnly"
  | readWrite => "ReadWrite"

end RegisterAccess

structure RegisterSpec where
  name : String
  access : RegisterAccess
  offset : UInt64
  -- In bytes: 1, 2, 4 or 8.
  size : UInt64
  resetValue : UInt64
  -- Only these bits can be changed by the guest.
  writeable : UInt64
  deriving DecidableEq, Repr

namespace RegisterSpec

def range (s : RegisterSpec) : Checked RegisterRange := RegisterRange.of s.offset s.size

-- The same offsets for a register that is known to fit the address range.
def span (s : RegisterSpec) : RegisterRange := ⟨s.offset, s.offset + s.size - 1⟩

-- The bits of a value of this size.
def sizeMask (s : RegisterSpec) : UInt64 :=
  if 8 ≤ s.size then 0xffffffffffffffff else ((1 : UInt64) <<< (s.size * 8)) - 1

-- A word register that never changes.
def fixed (name : String) (offset value : UInt64) : RegisterSpec :=
  ⟨name, .readOnly, offset, 4, value, 0⟩

def word (name : String) (access : RegisterAccess) (offset resetValue writeable : UInt64) :
    RegisterSpec :=
  ⟨name, access, offset, 4, resetValue, writeable⟩

end RegisterSpec

structure Register where
  spec : RegisterSpec
  value : UInt64
  deriving DecidableEq, Repr

namespace Register

def new (spec : RegisterSpec) : Register := ⟨spec, spec.resetValue &&& spec.sizeMask⟩

-- The bit position of an access inside the register.
def shiftFor (r : Register) (offset : UInt64) (width : Width) :
    Checked (Except RegisterError UInt64) := do
  let access ← RegisterRange.of offset (UInt64.ofNat width.bytes)
  let range ← r.spec.range
  if !range.covers access then
    return .error (.partialAccess r.spec.name offset width)
  let shift ← Checked.mul (← Checked.sub offset r.spec.offset) 8
  if shift < 64 then return .ok shift else throw .overflow

def read (r : Register) (offset : UInt64) (width : Width) :
    Checked (Except RegisterError UInt64) := do
  if !r.spec.access.readable then
    return .error (.readFromWriteOnly r.spec.name offset)
  match ← r.shiftFor offset width with
  | .error e => return .error e
  | .ok shift => return .ok ((r.value >>> shift) &&& width.mask)

-- Bits outside the lane or outside the writeable bits keep their value.
def write (r : Register) (offset : UInt64) (width : Width) (value : UInt64) :
    Checked (Except RegisterError Register) := do
  if !r.spec.access.writeable then
    return .error (.writeToReadOnly r.spec.name offset)
  match ← r.shiftFor offset width with
  | .error e => return .error e
  | .ok shift =>
      let lane := (width.mask <<< shift) &&& r.spec.writeable
      return .ok { r with value := (r.value &&& ~~~lane) ||| ((value <<< shift) &&& lane) }

-- The device side is not held to any mask but the size.
def setValue (r : Register) (value : UInt64) : Register :=
  { r with value := value &&& r.spec.sizeMask }

def setBits (r : Register) (mask : UInt64) : Register := r.setValue (r.value ||| mask)

def clearBits (r : Register) (mask : UInt64) : Register :=
  { r with value := r.value &&& ~~~mask }

def reset (r : Register) : Register := new r.spec

end Register

end VmMonitor
