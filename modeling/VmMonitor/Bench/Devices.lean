import VmMonitor.Bus.Device
import VmMonitor.Cpu.Exit
import VmMonitor.Virtio.Service
import VmMonitor.Virtio.Transport

/-!
Devices and handlers for trying a machine out. They do little but take notes of what reaches
them.
-/

namespace VmMonitor.Bench

inductive Note where
  | write (access : Access) (value : UInt64)
  | completed (line : Nat)
  | level (line : Nat) (level : Bool)
  | reset
  | acked (features : UInt64)
  | config (offset : UInt64) (data : List UInt8)
  | notified (queue : Nat)
  | hypercall (function argument : UInt64)
  deriving DecidableEq, Repr

-- A device that refuses every access.
structure Inert where

instance : BusDevice Inert where
  label _ := "dummy"

-- A device that reads as a pattern with its offset, or its address, added.
structure Echo where
  fullAddress : Bool
  notes : List Note

namespace Echo

def pattern : UInt64 := 0x8877665544332281

def note (e : Echo) (n : Note) : Echo := { e with notes := e.notes ++ [n] }

instance : BusDevice Echo where
  label _ := "echo"
  read e b a := .ok ⟨.ok (pattern + if e.fullAddress then a.address else a.offset), e, b⟩
  write e b a value := .ok ⟨.ok (), e.note (.write a value), b⟩
  endOfInterrupt e b n := (e.note (.completed n), b)
  levelChanged e b n level := (e.note (.level n level), b)
  reset e := e.note .reset

end Echo

-- A paravirtual device that gives every chain back as it came.
structure Probe where
  sizes : List UInt16
  notes : List Note

namespace Probe

def note (p : Probe) (n : Note) : Probe := { p with notes := p.notes ++ [n] }

-- Gives chains back until none is left or one is malformed. Only a chain that the used ring took
-- counts as moved.
def giveBack : Nat → SplitQueue → GuestMemory → Bool →
    Checked (Bool × SplitQueue × GuestMemory)
  | 0, _, _, _ => .error .unfinished
  | fuel + 1, ring, memory, moved =>
      match ring.pop memory with
      | (.ok (some chain), ring) =>
          match ring.addUsed memory chain.head 0 with
          | (.ok (), ring, memory) => giveBack fuel ring memory true
          | (.error _, ring, memory) => giveBack fuel ring memory moved
      | (_, ring) => .ok (moved, ring, memory)

def serve (p : Probe) (m : Medium) (rings : Virtio.Rings) (i : Nat) :
    Checked (Served Probe) := do
  match Virtio.ring? rings i with
  | none => return ⟨false, p, rings, m⟩
  | some ring =>
      let (moved, ring, memory) ← giveBack Virtio.Service.bound ring m.memory false
      return ⟨moved, p, rings.set i (some ring), { m with memory := memory }⟩

instance : VirtioDevice Probe where
  deviceType _ := .console
  queueMaxSizes := sizes
  features _ := Virtio.baseFeatures ||| 0x8000000000000005
  ackFeatures p value := p.note (.acked value)
  writeConfig p offset data := p.note (.config offset data)
  notify p m rings i := (p.note (.notified i)).serve m rings i

end Probe

abbrev Instrument := Inert ⊕ Echo ⊕ Transport Probe

namespace Instrument

def notes : Instrument → List Note
  | .inl _ => []
  | .inr (.inl e) => e.notes
  | .inr (.inr t) => t.device.notes

def forget : Instrument → Instrument
  | .inl d => .inl d
  | .inr (.inl e) => .inr (.inl { e with notes := [] })
  | .inr (.inr t) => .inr (.inr { t with device := { t.device with notes := [] } })

end Instrument

inductive Hypercalls where
  | standard
  -- Answers every call with 42.
  | taking (notes : List Note)
  | refusing

namespace Hypercalls

def notes : Hypercalls → List Note
  | taking notes => notes
  | standard | refusing => []

def forget : Hypercalls → Hypercalls
  | taking _ => taking []
  | standard => standard
  | refusing => refusing

instance : HypercallHandler Hypercalls where
  handle h s :=
    match h with
    | standard =>
        let (answer, s, _, records) := HypercallHandler.handle NoHypercalls.mk s
        (answer, s, standard, records)
    | taking notes =>
        (.ok (), s.setReg 0 42, taking (notes ++ [.hypercall (s.reg 0) (s.reg 1)]), [])
    | refusing => (.error (.hypercall s!"refused {Text.hex (s.reg 0)}"), s, refusing, [])

end Hypercalls

end VmMonitor.Bench
