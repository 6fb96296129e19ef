import VmMonitor.Device.Sink
import VmMonitor.Virtio.Service

/-!
A terminal with one receive and one transmit queue. What the host types is kept, up to a bound,
while the driver has no buffers for it.
-/

namespace VmMonitor

structure Console where
  sink : Sink
  buffered : List UInt8
  cols : UInt16
  rows : UInt16
  queueSizes : List UInt16

namespace Console

def queueSize : UInt16 := 256

def rxQueue : Nat := 0
def txQueue : Nat := 1

-- Host input kept at most.
def capacity : Nat := 4096

def new (sink : Sink) : Console := ⟨sink, [], 80, 25, [queueSize, queueSize]⟩

def withQueueSize (c : Console) (size : UInt16) : Console :=
  { c with queueSizes := [size, size] }

def setSize (c : Console) (cols rows : UInt16) : Console := { c with cols := cols, rows := rows }

-- Geometry, the number of terminals and an emergency write register that nobody reads.
def configSpace (c : Console) : List UInt8 :=
  Bytes.ofNat c.cols.toNat 2 ++ Bytes.ofNat c.rows.toNat 2 ++ Bytes.ofNat 1 4 ++ Bytes.ofNat 0 4

-- Offers one piece of output to the terminal.
def offerPiece (s : Sink × Array Effect) (piece : List UInt8) :
    Except String Unit × Sink × Array Effect :=
  match s.1.call .transfer with
  | (.ok (), sink) => (.ok (), sink, s.2.push (.terminal piece true))
  | (.error reason, sink) =>
      (.error s!"failed to write to terminal: {reason}", sink,
        s.2.push (.terminal piece false))

def transmit (c : Console) (m : Medium) (chain : DescriptorChain) :
    Checked (UInt32 × Console × Medium) :=
  let (sent, sink, effects) := chain.readPieces m.memory offerPiece (c.sink, m.effects)
  let m := { m with effects := effects }
  match sent with
  | .error e =>
      .ok (0, { c with sink := sink }, m.logError s!"console: transmit failed: {e.message}")
  | .ok () =>
      match sink.call .flush with
      | (.ok (), sink) => .ok (0, { c with sink := sink }, m)
      | (.error reason, sink) =>
          .ok (0, { c with sink := sink },
            m.logError s!"console: transmit failed: failed to flush terminal: {reason}")

def deliver (c : Console) (m : Medium) (chain : DescriptorChain) :
    Checked (UInt32 × Console × Medium) := do
  let len := min chain.writableLen c.buffered.length
  let (filled, memory) := chain.writeAll m.memory (c.buffered.take len)
  let m := { m with memory := memory }
  let (written, m) := match filled with
    | .ok n => (n, m)
    | .error e => (0, m.logError s!"console: failed to fill receive chain: {e.message}")
  let left ← Checked.slice c.buffered written (c.buffered.length - written)
  return (UInt32.ofNat written, { c with buffered := left }, m)

def transmitService : Virtio.Service Console where
  device := "console"
  lane := "transmit"
  wants _ := true
  work := transmit

def receiveService : Virtio.Service Console where
  device := "console"
  lane := "receive"
  wants c := !c.buffered.isEmpty
  work := deliver

def notify (c : Console) (m : Medium) (rings : Virtio.Rings) (i : Nat) :
    Checked (Served Console) :=
  if i = txQueue then transmitService.run c m rings i
  -- New receive buffers: whatever waited for them goes out.
  else if i = rxQueue then receiveService.run c m rings i
  else .ok ⟨false, c, rings, m⟩

def input (c : Console) (m : Medium) (rings : Virtio.Rings) (data : List UInt8) :
    Checked (Served Console) :=
  let room := capacity - c.buffered.length
  let m := if room < data.length then
      m.warn s!"console: dropping {data.length - room} bytes of input"
    else m
  receiveService.run { c with buffered := c.buffered ++ data.take room } m rings rxQueue

instance : VirtioDevice Console where
  deviceType _ := .console
  queueMaxSizes c := c.queueSizes
  readConfig c offset buffer := Virtio.overlay c.configSpace offset.toNat buffer
  notify := notify
  input := input
  reset c := { c with buffered := [] }

end Console

end VmMonitor
