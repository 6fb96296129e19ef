import VmMonitor.Board
import VmMonitor.Bus.Access

/-!
What a device on the bus can be asked to do. A device sees only the offset into its own window; a
refused access is an answer of the device, told apart from a fault, which ends the machine.
-/

namespace VmMonitor

-- An answer together with the device and the board as the access leaves them.
structure Answered (δ α : Type) where
  answer : Except BusError α
  device : δ
  board : Board

class BusDevice (δ : Type) where
  label : δ → String
  read : δ → Board → Access → Checked (Answered δ UInt64) :=
    fun d b a => .ok ⟨.error (a.unsupported .read), d, b⟩
  write : δ → Board → Access → UInt64 → Checked (Answered δ Unit) :=
    fun d b a _ => .ok ⟨.error (a.unsupported .write), d, b⟩
  -- The guest completed an interrupt that the device listens to.
  endOfInterrupt : δ → Board → Nat → δ × Board := fun d b _ => (d, b)
  levelChanged : δ → Board → Nat → Bool → δ × Board := fun d b _ _ => (d, b)
  -- Host side data arrived, such as keystrokes or a network frame.
  input : δ → Board → List UInt8 → Checked (Answered δ Unit) := fun d b data =>
    .ok ⟨.ok (), d, b.warn s!"{label d}: dropping {data.length} bytes of backend input"⟩
  -- Back to the power-on state.
  reset : δ → δ := id

-- The answer of one device as the answer of a device of a wider kind.
def Answered.mapDevice {δ ε α : Type} (f : δ → ε) (r : Answered δ α) : Answered ε α :=
  ⟨r.answer, f r.device, r.board⟩

-- Devices of two kinds on one bus.
instance {δ ε : Type} [BusDevice δ] [BusDevice ε] : BusDevice (δ ⊕ ε) where
  label
    | .inl d => BusDevice.label d
    | .inr d => BusDevice.label d
  read m b a :=
    match m with
    | .inl d => return (← BusDevice.read d b a).mapDevice .inl
    | .inr d => return (← BusDevice.read d b a).mapDevice .inr
  write m b a value :=
    match m with
    | .inl d => return (← BusDevice.write d b a value).mapDevice .inl
    | .inr d => return (← BusDevice.write d b a value).mapDevice .inr
  endOfInterrupt m b n :=
    match m with
    | .inl d => (BusDevice.endOfInterrupt d b n).map .inl id
    | .inr d => (BusDevice.endOfInterrupt d b n).map .inr id
  levelChanged m b n level :=
    match m with
    | .inl d => (BusDevice.levelChanged d b n level).map .inl id
    | .inr d => (BusDevice.levelChanged d b n level).map .inr id
  input m b data :=
    match m with
    | .inl d => return (← BusDevice.input d b data).mapDevice .inl
    | .inr d => return (← BusDevice.input d b data).mapDevice .inr
  reset
    | .inl d => .inl (BusDevice.reset d)
    | .inr d => .inr (BusDevice.reset d)

end VmMonitor
