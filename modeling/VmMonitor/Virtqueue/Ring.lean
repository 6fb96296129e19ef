import VmMonitor.Virtqueue.Chain
import VmMonitor.Log.Record

/-!
Split virtqueues. The driver programs a configuration and makes it ready, which freezes it and
yields the ring object the device works with. Ring positions are 16-bit counters that run freely;
a slot is a position modulo the size, which is a power of two.
-/

namespace VmMonitor

inductive QueueError where
  | invalidSize (size maxSize : UInt16)
  | notPowerOfTwo (size : UInt16)
  | areaOutOfBounds (area : String) (start : GuestAddress) (size : Nat)
  | availIndex (cause : MemoryError)
  | availEntry (cause : MemoryError)
  | usedEntry (cause : MemoryError)
  | usedIndex (cause : MemoryError)
  | chain (cause : ChainError)
  deriving DecidableEq, Repr

def QueueError.message : QueueError → String
  | invalidSize size maxSize =>
      s!"invalid queue size {size} (max {maxSize}), must be a power of 2"
  | notPowerOfTwo size => s!"split queue size {size} is not a power of 2"
  | areaOutOfBounds area start size =>
      s!"virtio queue {area} goes out of bounds: " ++
        s!"start:0x{Text.hexPadded 8 start.toNat} size:0x{Text.hexPadded 8 size}"
  | availIndex cause => s!"failed to read avail ring index: {cause.trace}"
  | availEntry cause => s!"failed to read avail ring entry: {cause.trace}"
  | usedEntry cause => s!"failed to write used ring entry: {cause.trace}"
  | usedIndex cause => s!"failed to write used ring index: {cause.trace}"
  | chain cause => cause.message

structure QueueConfig where
  ready : Bool
  maxSize : UInt16
  size : UInt16
  descTable : GuestAddress
  availRing : GuestAddress
  usedRing : GuestAddress
  deriving DecidableEq, Repr

-- What the device works with while a queue is ready.
structure SplitQueue where
  size : UInt16
  descTable : GuestAddress
  availRing : GuestAddress
  usedRing : GuestAddress
  nextAvail : UInt16
  nextUsed : UInt16
  deriving DecidableEq, Repr

def isPowerOfTwo (n : UInt16) : Bool := n != 0 && n &&& (n - 1) == 0

namespace SplitQueue

-- The areas of a queue with the bytes each takes.
def areas (size : UInt16) (desc avail used : GuestAddress) :
    List (String × GuestAddress × Nat) :=
  [("descriptor table", desc, 16 * size.toNat),
    ("available ring", avail, 6 + 2 * size.toNat),
    ("used ring", used, 6 + 8 * size.toNat)]

def new (c : QueueConfig) : Except QueueError SplitQueue :=
  if !isPowerOfTwo c.size then .error (.notPowerOfTwo c.size)
  else
    let outside := (areas c.size c.descTable c.availRing c.usedRing).find? fun (_, start, size) =>
      (start.checkedAdd (UInt64.ofNat size)).isNone
    match outside with
    | some (area, start, size) => .error (.areaOutOfBounds area start size)
    | none => .ok ⟨c.size, c.descTable, c.availRing, c.usedRing, 0, 0⟩

-- The slot of a position.
def slot (q : SplitQueue) (position : UInt16) : UInt16 := position &&& (q.size - 1)

def readAvailIndex (q : SplitQueue) (m : GuestMemory) : Except QueueError UInt16 :=
  match m.readNat (q.availRing.wrappingAdd 2) 2 with
  | .ok n => .ok (UInt16.ofNat n)
  | .error cause => .error (.availIndex cause)

-- Whether the driver has made chains available that were not taken yet.
def hasAvailable (q : SplitQueue) (m : GuestMemory) : Except QueueError Bool := do
  return (← q.readAvailIndex m) != q.nextAvail

def availSlotAddress (q : SplitQueue) (position : UInt16) : GuestAddress :=
  q.availRing.wrappingAdd (UInt64.ofNat (4 + 2 * (q.slot position).toNat))

def usedSlotAddress (q : SplitQueue) (position : UInt16) : GuestAddress :=
  q.usedRing.wrappingAdd (UInt64.ofNat (4 + 8 * (q.slot position).toNat))

-- Takes the next chain, if there is one. A chain that turns out to be malformed has been taken
-- all the same.
def pop (q : SplitQueue) (m : GuestMemory) :
    Except QueueError (Option DescriptorChain) × SplitQueue :=
  match q.hasAvailable m with
  | .error e => (.error e, q)
  | .ok false => (.ok none, q)
  | .ok true =>
      match m.readNat (q.availSlotAddress q.nextAvail) 2 with
      | .error cause => (.error (.availEntry cause), q)
      | .ok head =>
          let q := { q with nextAvail := q.nextAvail + 1 }
          match DescriptorChain.new m q.descTable q.size (UInt16.ofNat head) with
          | .error cause => (.error (.chain cause), q)
          | .ok chain => (.ok (some chain), q)

-- A used ring element: the head of a chain and the bytes written into it.
def usedElement (head : UInt16) (len : UInt32) : List UInt8 :=
  Bytes.ofNat head.toNat 4 ++ Bytes.ofNat len.toNat 4

-- Gives a chain back to the driver.
def addUsed (q : SplitQueue) (m : GuestMemory) (head : UInt16) (len : UInt32) :
    Except QueueError Unit × SplitQueue × GuestMemory :=
  match m.writeObject (q.usedSlotAddress q.nextUsed) (usedElement head len) with
  | .error cause => (.error (.usedEntry cause), q, m)
  | .ok m =>
      let q := { q with nextUsed := q.nextUsed + 1 }
      match m.writeNat (q.usedRing.wrappingAdd 2) 2 q.nextUsed.toNat with
      | .error cause => (.error (.usedIndex cause), q, m)
      | .ok m => (.ok (), q, m)

-- The other half of a ring: the driver makes a chain available. Memory that is not there takes
-- nothing.
def offer (q : SplitQueue) (m : GuestMemory) (head : UInt16) : GuestMemory :=
  let position := match q.readAvailIndex m with
    | .ok i => i
    | .error _ => 0
  let put (m : GuestMemory) (a : GuestAddress) (n : UInt16) : GuestMemory :=
    match m.writeNat a 2 n.toNat with
    | .ok m => m
    | .error _ => m
  put (put m (q.availSlotAddress position) head) (q.availRing.wrappingAdd 2) (position + 1)

end SplitQueue

namespace QueueConfig

-- A maximal size of zero stands for a queue that can never be made ready.
def new (maxSize : UInt16) : QueueConfig := ⟨false, maxSize, maxSize, 0, 0, 0⟩

inductive Setting where
  | size (value : UInt16)
  | descTable (address : GuestAddress)
  | availRing (address : GuestAddress)
  | usedRing (address : GuestAddress)
  deriving DecidableEq, Repr

def Setting.register : Setting → String
  | size _ => "size"
  | descTable _ => "desc_table"
  | availRing _ => "avail_ring"
  | usedRing _ => "used_ring"

-- Settings are frozen while the queue is ready.
def set (c : QueueConfig) (s : Setting) : QueueConfig :=
  if c.ready then c
  else match s with
    | .size value => { c with size := value }
    | .descTable address => { c with descTable := address }
    | .availRing address => { c with availRing := address }
    | .usedRing address => { c with usedRing := address }

def complaints (c : QueueConfig) (s : Setting) : List Log.Record :=
  if c.ready then [Log.warning s!"ignoring write to {s.register} on ready queue"] else []

def activate (c : QueueConfig) : Except QueueError (SplitQueue × QueueConfig) :=
  if c.size = 0 || !isPowerOfTwo c.size || c.maxSize < c.size then
    .error (.invalidSize c.size c.maxSize)
  else do return (← SplitQueue.new c, { c with ready := true })

def deactivate (c : QueueConfig) : QueueConfig := { c with ready := false }

def reset (c : QueueConfig) : QueueConfig := new c.maxSize

end QueueConfig

end VmMonitor
