import VmMonitor.Text.Hex

/-!
Single loads and stores as they travel to a device, and the ways one can be refused.
-/

namespace VmMonitor

-- Size of one load or store.
inductive Width where
  | byte
  | half
  | word
  | double
  deriving DecidableEq, Repr

namespace Width

def bytes : Width → Nat
  | byte => 1
  | half => 2
  | word => 4
  | double => 8

def ofBytes? : Nat → Option Width
  | 1 => some byte
  | 2 => some half
  | 4 => some word
  | 8 => some double
  | _ => none

-- The bits of a value of this width.
def mask : Width → UInt64
  | byte => 0xff
  | half => 0xffff
  | word => 0xffffffff
  | double => 0xffffffffffffffff

def name : Width → String
  | byte => "Byte"
  | half => "HalfWord"
  | word => "Word"
  | double => "DoubleWord"

def display (w : Width) : String := s!"{w.bytes * 8}-bit"

end Width

inductive Direction where
  | read
  | write
  deriving DecidableEq, Repr

def Direction.display : Direction → String
  | read => "read"
  | write => "write"

-- Where an access lands, relative to the device and in the whole address space.
structure Access where
  offset : UInt64
  address : UInt64
  width : Width
  deriving DecidableEq, Repr

-- How an access is named in log records.
def Access.display (a : Access) : String :=
  s!"BusAccessInfo \x7b offset: {a.offset}, address: {a.address} \x7d"

inductive BusError where
  | misaligned (address : UInt64) (width : Width) (direction : Direction)
  | overlap (base len otherBase otherLen : UInt64)
  | unsupported (address : UInt64) (width : Width) (direction : Direction)
  deriving DecidableEq, Repr

def BusError.kind : BusError → String
  | misaligned .. => "MisalignedAccess"
  | overlap .. => "Overlap"
  | unsupported .. => "UnsupportedAccess"

def BusError.message : BusError → String
  | misaligned address width direction =>
      s!"{direction.display} of {width.display} at {Text.hex address} " ++
        "is not aligned to its width"
  | overlap base len otherBase otherLen =>
      s!"new device {Text.hex base},{Text.hex len} overlaps with " ++
        s!"an old device {Text.hex otherBase},{Text.hex otherLen}"
  | unsupported address width direction =>
      s!"unsupported {direction.display} of {width.display} at {Text.hex address}"

-- What a device answers to an access it does not implement.
def Access.unsupported (a : Access) (direction : Direction) : BusError :=
  .unsupported a.address a.width direction

end VmMonitor
