import VmMonitor.Memory.Address
import VmMonitor.Memory.Bytes
import VmMonitor.Memory.Mapping

/-!
Guest physical memory: disjoint regions in ascending order, each backed by a mapping. An access
stays inside the region that holds its first byte.
-/

namespace VmMonitor

inductive MemoryError where
  | invalidAddress (address : GuestAddress)
  | access (address : GuestAddress) (cause : MappingError)
  | mappingFailed (cause : MappingError)
  | notAligned
  | regionOverlap
  | regionTooLarge (last : Nat)
  | shortRead (expected completed : Nat)
  | shortWrite (expected completed : Nat)
  deriving DecidableEq, Repr

def MemoryError.kind : MemoryError → String
  | invalidAddress _ => "InvalidGuestAddress"
  | access .. => "MemoryAccess"
  | mappingFailed _ => "MemoryMappingFailed"
  | notAligned => "MemoryNotAligned"
  | regionOverlap => "MemoryRegionOverlap"
  | regionTooLarge _ => "MemoryRegionTooLarge"
  | shortRead .. => "ShortRead"
  | shortWrite .. => "ShortWrite"

def MemoryError.message : MemoryError → String
  | invalidAddress address => s!"invalid guest address {address.display}"
  | access address cause =>
      s!"invalid guest memory access at addr={address.display}: {cause.message}"
  | mappingFailed cause => s!"failed to map guest memory: {cause.message}"
  | notAligned => "memory regions must be page aligned"
  | regionOverlap => "memory regions overlap"
  | regionTooLarge last => s!"memory region size {last} is too large"
  | shortRead expected completed =>
      s!"incomplete read of {completed} instead of {expected} bytes"
  | shortWrite expected completed =>
      s!"incomplete write of {completed} instead of {expected} bytes"

-- The error with its causes, as `MappingError.trace`.
def MemoryError.trace (e : MemoryError) : String :=
  match e with
  | access _ cause | mappingFailed cause => s!"{e.message}: {cause.trace}"
  | _ => e.message

structure Region where
  base : GuestAddress
  mapping : Mapping

namespace Region

def new [Host] (base : GuestAddress) (size : UInt64) : Except MemoryError Region :=
  if size.toNat % Host.pageSize ≠ 0 then .error .notAligned
  else if (base.checkedAdd size).isNone then .error (.regionTooLarge (base.toNat + size.toNat))
  else match Mapping.new size.toNat with
    | .ok mapping => .ok ⟨base, mapping⟩
    | .error cause => .error (.mappingFailed cause)

-- One past the last address. `new` has seen to it that this is below 2 ^ 64.
def last (r : Region) : Nat := r.base.toNat + r.mapping.size

def contains (r : Region) (a : GuestAddress) : Bool :=
  r.base.toNat ≤ a.toNat && a.toNat < r.last

end Region

structure GuestMemory where
  regions : List Region

namespace GuestMemory

def extend [Host] (regions : List Region) (range : GuestAddress × UInt64) :
    Except MemoryError (List Region) :=
  if regions.getLast?.any fun r => range.1.toNat < r.last then .error .regionOverlap
  else do return regions ++ [← Region.new range.1 range.2]

-- Regions have to come sorted, page aligned and disjoint.
def new [Host] (ranges : List (GuestAddress × UInt64)) : Except MemoryError GuestMemory := do
  return ⟨← ranges.foldlM extend []⟩

def size (m : GuestMemory) : Nat := m.regions.foldr (fun r total => r.mapping.size + total) 0

-- Whether one region holds the whole range. An empty range is always valid.
def validRange (m : GuestMemory) (a : GuestAddress) (len : UInt64) : Bool :=
  if len = 0 then true
  else match a.checkedAdd (len - 1) with
    | none => false
    | some final => m.regions.any fun r => r.contains a && r.contains final

-- The region that holds `a`, split off from those before and after it.
def locate (a : GuestAddress) : List Region → Option (List Region × Region × List Region)
  | [] => none
  | r :: rest =>
      if r.contains a then some ([], r, rest)
      else (locate a rest).map fun (before, found, after) => (r :: before, found, after)

def region? (m : GuestMemory) (a : GuestAddress) : Option Region :=
  m.regions.find? (·.contains a)

-- The byte stored at `a`, if `a` is mapped.
def byte? (m : GuestMemory) (a : GuestAddress) : Option UInt8 :=
  (m.region? a).map fun r => r.mapping.byte (a.toNat - r.base.toNat)

def read (m : GuestMemory) (a : GuestAddress) (count : Nat) : Except MemoryError (List UInt8) :=
  match m.region? a with
  | none => .error (.invalidAddress a)
  | some r =>
      match r.mapping.readSlice (a.toNat - r.base.toNat) count with
      | .ok data => .ok data
      | .error cause => .error (.access a cause)

def readExact (m : GuestMemory) (a : GuestAddress) (count : Nat) :
    Except MemoryError (List UInt8) := do
  let data ← m.read a count
  if data.length = count then return data else throw (.shortRead count data.length)

def readObject (m : GuestMemory) (a : GuestAddress) (count : Nat) :
    Except MemoryError (List UInt8) :=
  match m.region? a with
  | none => .error (.invalidAddress a)
  | some r =>
      match r.mapping.readObject (a.toNat - r.base.toNat) count with
      | .ok data => .ok data
      | .error cause => .error (.access a cause)

def readNat (m : GuestMemory) (a : GuestAddress) (count : Nat) : Except MemoryError Nat := do
  return Bytes.toNat (← m.readObject a count)

-- Stores what fits and says how much that was.
def write (m : GuestMemory) (a : GuestAddress) (data : List UInt8) :
    Except MemoryError (Nat × GuestMemory) :=
  match locate a m.regions with
  | none => .error (.invalidAddress a)
  | some (before, r, after) =>
      match r.mapping.writeSlice (a.toNat - r.base.toNat) data with
      | .ok (count, mapping) => .ok (count, ⟨before ++ { r with mapping := mapping } :: after⟩)
      | .error cause => .error (.access a cause)

-- A write that runs off its region is an error, and yet what fitted has been stored.
def writeAll (m : GuestMemory) (a : GuestAddress) (data : List UInt8) :
    Except MemoryError Unit × GuestMemory :=
  match m.write a data with
  | .error e => (.error e, m)
  | .ok (count, m') =>
      if count = data.length then (.ok (), m')
      else (.error (.shortWrite data.length count), m')

def writeObject (m : GuestMemory) (a : GuestAddress) (data : List UInt8) :
    Except MemoryError GuestMemory :=
  match locate a m.regions with
  | none => .error (.invalidAddress a)
  | some (before, r, after) =>
      match r.mapping.writeObject (a.toNat - r.base.toNat) data with
      | .ok mapping => .ok ⟨before ++ { r with mapping := mapping } :: after⟩
      | .error cause => .error (.access a cause)

def writeNat (m : GuestMemory) (a : GuestAddress) (count n : Nat) :
    Except MemoryError GuestMemory :=
  m.writeObject a (Bytes.ofNat n count)

end GuestMemory

end VmMonitor
