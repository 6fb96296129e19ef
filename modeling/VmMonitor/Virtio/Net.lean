import VmMonitor.Device.Sink
import VmMonitor.Virtio.Service

/-!
A network link with one receive and one transmit queue. Every frame on a queue has a header in
front, which the host never sees. Received frames are kept, up to a bound, while the driver has no
buffers for them.
-/

namespace VmMonitor

structure Net where
  sink : Sink
  mac : List UInt8
  acked : UInt64
  backlog : List (List UInt8)
  queueSizes : List UInt16

namespace Net

def queueSize : UInt16 := 256

def rxQueue : Nat := 0
def txQueue : Nat := 1

-- The largest frame, with segmentation left to the driver.
def maxFrame : Nat := 65562

def headerLen : Nat := 12

-- Frames kept at most.
def capacity : Nat := 64

-- The header of a received frame: all zero but the number of buffers.
def receiveHeader : List UInt8 := List.replicate 10 0 ++ Bytes.ofNat 1 2

def featureMac : UInt64 := 0x20
def featureStatus : UInt64 := 0x10000

def new (sink : Sink) (mac : List UInt8) : Net := ⟨sink, mac, 0, [], [queueSize, queueSize]⟩

def withQueueSize (n : Net) (size : UInt16) : Net := { n with queueSizes := [size, size] }

-- The hardware address and a link that is up.
def configSpace (n : Net) : List UInt8 := n.mac ++ Bytes.ofNat 1 2

def send (n : Net) (m : Medium) (frame : List UInt8) : Net × Medium :=
  match n.sink.call .transfer with
  | (.ok (), sink) => ({ n with sink := sink }, m.emit (.frame frame true))
  | (.error reason, sink) =>
      ({ n with sink := sink },
        (m.emit (.frame frame false)).logError s!"net: failed to send frame: {reason}")

def transmit (n : Net) (m : Medium) (chain : DescriptorChain) :
    Checked (UInt32 × Net × Medium) := do
  let len := chain.readableLen
  if len < headerLen then
    return (0, n, m.warn s!"net: transmit chain of {len} bytes has no header")
  if headerLen + maxFrame < len then
    return (0, n, m.warn s!"net: dropping oversized frame of {len} bytes")
  match chain.readAll m.memory (headerLen + maxFrame) with
  | .error e => return (0, n, m.logError s!"net: failed to read transmit chain: {e.message}")
  | .ok data =>
      let frame ← Checked.slice data headerLen (data.length - headerLen)
      let (n, m) := n.send m frame
      return (0, n, m)

-- Puts the oldest frame into a chain. The frame is gone even when it did not fit.
def deliver (n : Net) (m : Medium) (chain : DescriptorChain) :
    Checked (UInt32 × Net × Medium) :=
  match n.backlog with
  | [] => .ok (0, n, m)
  | frame :: rest =>
      let data := receiveHeader ++ frame
      let m := if chain.writableLen < data.length then
          m.warn <| s!"net: receive buffer of {chain.writableLen} bytes " ++
            s!"truncates a {data.length} byte frame"
        else m
      let (filled, memory) := chain.writeAll m.memory data
      let m := { m with memory := memory }
      let (written, m) := match filled with
        | .ok count => (count, m)
        | .error e => (0, m.logError s!"net: failed to fill receive chain: {e.message}")
      .ok (UInt32.ofNat written, { n with backlog := rest }, m)

def transmitService : Virtio.Service Net where
  device := "net"
  lane := "transmit"
  wants _ := true
  work := transmit

def receiveService : Virtio.Service Net where
  device := "net"
  lane := "receive"
  wants n := !n.backlog.isEmpty
  work := deliver

def notify (n : Net) (m : Medium) (rings : Virtio.Rings) (i : Nat) : Checked (Served Net) :=
  if i = txQueue then transmitService.run n m rings i
  else if i = rxQueue then receiveService.run n m rings i
  else .ok ⟨false, n, rings, m⟩

def input (n : Net) (m : Medium) (rings : Virtio.Rings) (data : List UInt8) :
    Checked (Served Net) :=
  let (n, m) :=
    if capacity ≤ n.backlog.length then (n, m.warn "net: receive backlog full, dropping frame")
    else ({ n with backlog := n.backlog ++ [data] }, m)
  receiveService.run n m rings rxQueue

instance : VirtioDevice Net where
  deviceType _ := .net
  queueMaxSizes n := n.queueSizes
  features _ := Virtio.baseFeatures ||| featureMac ||| featureStatus
  ackFeatures n value := { n with acked := value }
  readConfig n offset buffer := Virtio.overlay n.configSpace offset.toNat buffer
  notify := notify
  input := input
  reset n := { n with acked := 0, backlog := [] }

end Net

end VmMonitor
