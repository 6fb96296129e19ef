import VmMonitor.Memory.Guest

/-!
Descriptor chains: the buffers of one request, linked through a table in guest memory. A chain is
walked once, when it is taken; what comes out names guest addresses only, and its buffers are read
and written through the memory of the moment.
-/

namespace VmMonitor

inductive BufferAccess where
  -- Filled by the driver, read by the device.
  | readable
  -- Filled by the device.
  | writable
  deriving DecidableEq, Repr

def BufferAccess.name : BufferAccess → String
  | readable => "DeviceRead"
  | writable => "DeviceWrite"

structure Descriptor where
  address : GuestAddress
  len : UInt32
  access : BufferAccess
  deriving DecidableEq, Repr

structure DescriptorChain where
  -- Table index of the first descriptor.
  head : UInt16
  descriptors : List Descriptor
  deriving DecidableEq, Repr

inductive ChainError where
  | indexOutOfBounds (index queueSize : UInt16)
  | tooLong (head : UInt16)
  | unreadableDescriptor (index : UInt16) (cause : MemoryError)
  | readableAfterWritable (index : UInt16)
  | bufferOutsideMemory (index : UInt16) (address : GuestAddress) (len : UInt32)
  | tooManyBytes (head : UInt16)
  | overLimit (len limit : Nat)
  | bufferRead (address : GuestAddress) (cause : MemoryError)
  | bufferWrite (address : GuestAddress) (cause : MemoryError)
  -- Whoever took the contents refused a piece.
  | consumer (reason : String)
  deriving DecidableEq, Repr

namespace DescriptorChain

-- Lengths in the used ring are 32 bits wide.
def maxBytes : Nat := UInt32.size - 1

-- The largest piece handed out at a time.
def pieceSize : Nat := 4096

-- Size of a table entry.
def entrySize : Nat := 16

end DescriptorChain

def ChainError.message : ChainError → String
  | indexOutOfBounds index queueSize =>
      s!"descriptor index {index} out of bounds of queue size {queueSize}"
  | tooLong head => s!"descriptor chain at {head} is longer than the queue"
  | unreadableDescriptor index cause =>
      s!"failed to read descriptor {index}: {cause.trace}"
  | readableAfterWritable index => s!"readable descriptor {index} follows a writable one"
  | bufferOutsideMemory index address len =>
      s!"descriptor {index} buffer at {address.display} of {len} bytes is outside guest memory"
  | tooManyBytes head =>
      s!"descriptor chain at {head} holds more than {DescriptorChain.maxBytes} bytes"
  | overLimit len limit => s!"chain of {len} readable bytes exceeds the limit of {limit}"
  | bufferRead address cause => s!"failed to read buffer at {address.display}: {cause.trace}"
  | bufferWrite address cause => s!"failed to write buffer at {address.display}: {cause.trace}"
  | consumer reason => reason

-- A table entry as the driver laid it out.
structure TableEntry where
  address : GuestAddress
  len : UInt32
  flags : UInt16
  next : UInt16
  deriving DecidableEq, Repr

namespace TableEntry

def decode (bytes : List UInt8) : TableEntry where
  address := UInt64.ofNat (Bytes.toNat (bytes.take 8))
  len := UInt32.ofNat (Bytes.toNat ((bytes.drop 8).take 4))
  flags := UInt16.ofNat (Bytes.toNat ((bytes.drop 12).take 2))
  next := UInt16.ofNat (Bytes.toNat ((bytes.drop 14).take 2))

def read (m : GuestMemory) (table : GuestAddress) (i : UInt16) :
    Except MemoryError TableEntry := do
  let address := table.wrappingAdd (UInt64.ofNat (DescriptorChain.entrySize * i.toNat))
  return decode (← m.readObject address DescriptorChain.entrySize)

def next? (e : TableEntry) : Option UInt16 := if e.flags &&& 1 != 0 then some e.next else none

def access (e : TableEntry) : BufferAccess :=
  if e.flags &&& 2 != 0 then .writable else .readable

def descriptor (e : TableEntry) : Descriptor := ⟨e.address, e.len, e.access⟩

end TableEntry

namespace DescriptorChain

def lenOf (access : BufferAccess) (ds : List Descriptor) : Nat :=
  (ds.filter (·.access = access)).foldr (fun d total => d.len.toNat + total) 0

-- What a walk has seen so far: the bytes of either kind, and whether a writable descriptor was
-- among them.
structure Tally where
  readable : Nat
  writable : Nat
  writableSeen : Bool
  deriving DecidableEq, Repr

def Tally.none : Tally := ⟨0, 0, false⟩

def Tally.add (t : Tally) (d : Descriptor) : Tally :=
  match d.access with
  | .readable => { t with readable := t.readable + d.len.toNat }
  | .writable => { t with writable := t.writable + d.len.toNat, writableSeen := true }

def Tally.fits (t : Tally) : Bool := t.readable ≤ maxBytes && t.writable ≤ maxBytes

-- One entry of the walk: the descriptor it adds, or why it may not follow those before it.
def accept (m : GuestMemory) (head i : UInt16) (t : Tally) (d : Descriptor) :
    Except ChainError Tally :=
  if d.access = .readable ∧ t.writableSeen then .error (.readableAfterWritable i)
  else if !m.validRange d.address d.len.toUInt64 then
    .error (.bufferOutsideMemory i d.address d.len)
  else if !(t.add d).fits then .error (.tooManyBytes head)
  else .ok (t.add d)

-- Follows the chain from entry `i`, `room` entries at most.
def walk (m : GuestMemory) (table : GuestAddress) (queueSize head : UInt16) :
    Nat → UInt16 → Tally → Except ChainError (List Descriptor)
  | room, i, t =>
      if queueSize ≤ i then .error (.indexOutOfBounds i queueSize)
      else match room with
        | 0 => .error (.tooLong head)
        | room + 1 =>
            match TableEntry.read m table i with
            | .error cause => .error (.unreadableDescriptor i cause)
            | .ok e =>
                match accept m head i t e.descriptor with
                | .error cause => .error cause
                | .ok t =>
                    match e.next? with
                    | none => .ok [e.descriptor]
                    | some j => (walk m table queueSize head room j t).map (e.descriptor :: ·)

-- Readable descriptors come before writable ones, a chain is no longer than its queue, which
-- also stops loops, and every buffer lies in guest memory.
def new (m : GuestMemory) (table : GuestAddress) (queueSize head : UInt16) :
    Except ChainError DescriptorChain := do
  return ⟨head, ← walk m table queueSize head queueSize.toNat head .none⟩

def readable (c : DescriptorChain) : List Descriptor :=
  c.descriptors.filter (·.access = .readable)

def writable (c : DescriptorChain) : List Descriptor :=
  c.descriptors.filter (·.access = .writable)

def readableLen (c : DescriptorChain) : Nat := lenOf .readable c.descriptors

def writableLen (c : DescriptorChain) : Nat := lenOf .writable c.descriptors

def readBuffers (m : GuestMemory) : List Descriptor → Except ChainError (List UInt8)
  | [] => .ok []
  | d :: rest =>
      match m.readExact d.address d.len.toNat with
      | .error cause => .error (.bufferRead d.address cause)
      | .ok data => do return data ++ (← readBuffers m rest)

-- The contents of all readable buffers, unless they exceed the limit.
def readAll (c : DescriptorChain) (m : GuestMemory) (limit : Nat) :
    Except ChainError (List UInt8) :=
  if limit < c.readableLen then .error (.overLimit c.readableLen limit)
  else readBuffers m c.readable

-- A buffer cut into pieces.
def piecesOf (d : Descriptor) : List (GuestAddress × Nat) :=
  (List.range ((d.len.toNat + (pieceSize - 1)) / pieceSize)).map fun k =>
    (d.address.wrappingAdd (UInt64.ofNat (pieceSize * k)),
      min pieceSize (d.len.toNat - pieceSize * k))

def pieces (c : DescriptorChain) : List (GuestAddress × Nat) := c.readable.flatMap piecesOf

-- Hands the pieces to a consumer, one by one, until it refuses one.
def feed (m : GuestMemory) (take : σ → List UInt8 → Except String Unit × σ) :
    List (GuestAddress × Nat) → σ → Except ChainError Unit × σ
  | [], s => (.ok (), s)
  | (address, count) :: rest, s =>
      match m.readExact address count with
      | .error cause => (.error (.bufferRead address cause), s)
      | .ok data =>
          match take s data with
          | (.error reason, s) => (.error (.consumer reason), s)
          | (.ok (), s) => feed m take rest s

def readPieces (c : DescriptorChain) (m : GuestMemory)
    (take : σ → List UInt8 → Except String Unit × σ) (s : σ) :
    Except ChainError Unit × σ :=
  feed m take c.pieces s

def fill (data : List UInt8) :
    List Descriptor → Nat → GuestMemory → Except ChainError Nat × GuestMemory
  | [], written, m => (.ok written, m)
  | d :: rest, written, m =>
      if written = data.length then (.ok written, m)
      else
        let part := (data.drop written).take d.len.toNat
        match m.writeAll d.address part with
        | (.error cause, m) => (.error (.bufferWrite d.address cause), m)
        | (.ok (), m) => fill data rest (written + part.length) m

-- Fills the writable buffers in order and says how much of the data found room.
def writeAll (c : DescriptorChain) (m : GuestMemory) (data : List UInt8) :
    Except ChainError Nat × GuestMemory :=
  fill data c.writable 0 m

end DescriptorChain

end VmMonitor
