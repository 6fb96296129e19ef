import VmMonitor.Bus.Device
import VmMonitor.Device.Sink
import VmMonitor.Register.Space

/-!
A UART in the manner of the PL011. What the guest transmits goes to the host at once; what
the host sends waits in a receive queue of 32 bytes. The raw interrupt status under the mask drives
its interrupt line.
-/

namespace VmMonitor

namespace Uart

def windowSize : UInt64 := 0x1000

-- Offsets of the registers.
def dr : UInt64 := 0x0
def rsr : UInt64 := 0x4
def fr : UInt64 := 0x18
def ilpr : UInt64 := 0x20
def ibrd : UInt64 := 0x24
def fbrd : UInt64 := 0x28
def lcrh : UInt64 := 0x2c
def cr : UInt64 := 0x30
def ifls : UInt64 := 0x34
def imsc : UInt64 := 0x38
def ris : UInt64 := 0x3c
def mis : UInt64 := 0x40
def icr : UInt64 := 0x44
def dmacr : UInt64 := 0x48
def idFirst : UInt64 := 0xfe0

-- Four peripheral and four cell identification bytes.
def idValues : List UInt64 := [0x11, 0x10, 0x14, 0x00, 0x0d, 0xf0, 0x05, 0xb1]

-- Bits of the flag register.
def rxEmpty : UInt64 := 0x10
def rxFull : UInt64 := 0x40
def txEmpty : UInt64 := 0x80

-- Bits of the interrupt registers.
def rxInterrupt : UInt64 := 0x10
def txInterrupt : UInt64 := 0x20
def allInterrupts : UInt64 := 0x7ff

def capacity : Nat := 32

end Uart

structure Uart where
  registers : RegisterSpace
  received : List UInt8
  sink : Sink
  line : Nat

namespace Uart

def layout : List RegisterSpec :=
  [.word "UARTRSR" .readWrite rsr 0 0,
    .word "UARTILPR" .readWrite ilpr 0 0xff,
    .word "UARTIBRD" .readWrite ibrd 0 0xffff,
    .word "UARTFBRD" .readWrite fbrd 0 0x3f,
    .word "UARTLCR_H" .readWrite lcrh 0 0xff,
    .word "UARTCR" .readWrite cr 0x300 0xff87,
    .word "UARTIFLS" .readWrite ifls 0x12 0x3f,
    .word "UARTIMSC" .readWrite imsc 0 allInterrupts,
    .word "UARTRIS" .readOnly ris 0 0xffffffffffffffff,
    .word "UARTICR" .writeOnly icr 0 0xffffffffffffffff,
    .word "UARTDMACR" .readWrite dmacr 0 0x7] ++
  idValues.zipIdx.map fun (value, i) =>
    .fixed "UARTID" (idFirst + UInt64.ofNat (4 * i)) value

def new (line : Nat) (sink : Sink) : Uart := ⟨.ofSpecs layout, [], sink, line⟩

-- Transmission is immediate, so the transmit side is always empty.
def flags (u : Uart) : UInt64 :=
  txEmpty ||| (if u.received.isEmpty then rxEmpty else 0) |||
    (if capacity ≤ u.received.length then rxFull else 0)

def maskedStatus (u : Uart) : UInt64 := u.registers.value ris &&& u.registers.value imsc

-- The receive status follows the queue, and the line follows the masked status.
def refresh (u : Uart) (b : Board) : Uart × Board :=
  let registers :=
    if u.received.isEmpty then u.registers.clearBits ris rxInterrupt
    else u.registers.setBits ris rxInterrupt
  let u := { u with registers := registers }
  if u.maskedStatus != 0 then (u, b.request (.assert u.line))
  else (u, b.request (.clearPending u.line))

def transmit (u : Uart) (b : Board) (value : UInt8) : Uart × Board :=
  let complain (b : Board) (reason : String) : Board :=
    b.warn s!"pl011: failed to write to output: {reason}"
  match u.sink.call .transfer with
  | (.error reason, sink) => ({ u with sink := sink }, complain b reason)
  | (.ok (), sink) =>
      let b := b.emit (.serial [value])
      match sink.call .flush with
      | (.error reason, sink) => ({ u with sink := sink }, complain b reason)
      | (.ok (), sink) => ({ u with sink := sink }, b)

-- Takes the oldest received byte, or zero when nothing waits.
def receive (u : Uart) (b : Board) : UInt64 × Uart × Board :=
  let u' := { u with received := u.received.tail }
  ((u.received.headD 0).toUInt64, u'.refresh b)

def read (u : Uart) (b : Board) (a : Access) : Checked (Answered Uart UInt64) := do
  if a.width = .double then return ⟨.error (a.unsupported .read), u, b⟩
  if a.offset = dr then
    let (value, u, b) := u.receive b
    return ⟨.ok value, u, b⟩
  if a.offset = fr then return ⟨.ok u.flags, u, b⟩
  if a.offset = mis then return ⟨.ok u.maskedStatus, u, b⟩
  match ← u.registers.read a.offset a.width with
  | .ok value => return ⟨.ok value, u, b⟩
  | .error e => return ⟨.ok 0, u, b.warn s!"pl011: bad read: {e.message}"⟩

def writeRegister (u : Uart) (b : Board) (a : Access) (value : UInt64) :
    Checked (Uart × Board) := do
  match ← u.registers.write a.offset a.width value with
  | .error e => return (u, b.warn s!"pl011: bad write: {e.message}")
  | .ok (written, registers) =>
      let u := { u with registers := registers }
      if written = icr then
        let u := { u with registers := u.registers.clearBits ris (value &&& allInterrupts) }
        return u.refresh b
      else if written = imsc then return u.refresh b
      else return (u, b)

def write (u : Uart) (b : Board) (a : Access) (value : UInt64) :
    Checked (Answered Uart Unit) := do
  if a.width = .double then return ⟨.error (a.unsupported .write), u, b⟩
  if a.offset = dr then
    let (u, b) := u.transmit b value.toUInt8
    let (u, b) := ({ u with registers := u.registers.setBits ris txInterrupt }).refresh b
    return ⟨.ok (), u, b⟩
  if a.offset = fr ∨ a.offset = mis then
    return ⟨.ok (), u,
      b.warn s!"pl011: invalid write to read-only register {Text.hex a.offset}"⟩
  let (u, b) ← u.writeRegister b a value
  return ⟨.ok (), u, b⟩

-- The line is level triggered: a status that is still raised makes it pending again.
def endOfInterrupt (u : Uart) (b : Board) : Uart × Board :=
  if u.maskedStatus != 0 then (u, b.request (.assert u.line)) else (u, b)

-- What finds no room is dropped.
def input (u : Uart) (b : Board) (data : List UInt8) : Checked (Answered Uart Unit) := do
  let room ← Checked.subNat capacity u.received.length
  let b := if room < data.length then
      b.warn s!"pl011: receive FIFO full, dropping {data.length - room} bytes"
    else b
  let (u, b) := ({ u with received := u.received ++ data.take room }).refresh b
  return ⟨.ok (), u, b⟩

instance : BusDevice Uart where
  label _ := "Pl011"
  read := read
  write := write
  endOfInterrupt u b _ := u.endOfInterrupt b
  input := input
  reset u := { u with registers := u.registers.reset, received := [] }

end Uart

end VmMonitor
