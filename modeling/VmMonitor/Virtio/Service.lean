import VmMonitor.Virtio.Device

/-!
The loop that every queue of every device runs: take a chain, work on it, give it back, until no
chain is left, the device wants no more, or the ring cannot be used. A guest can lay its rings out
so that every chain given back makes another one available; a run that uses up its rounds stands
for a machine that never comes back.
-/

namespace VmMonitor

namespace Virtio

-- How a device works on the chains of one queue. The work says how many bytes it wrote into a
-- chain.
structure Service (σ : Type) where
  -- The device and the direction, as log records name them.
  device : String
  lane : String
  wants : σ → Bool
  work : σ → Medium → DescriptorChain → Checked (UInt32 × σ × Medium)

structure Drained (σ : Type) where
  moved : Bool
  state : σ
  ring : SplitQueue
  medium : Medium

namespace Service

-- Rounds that one run is given. One that needs more is taken for one that never ends.
def bound : Nat := 4294967296

-- One round: whether the loop goes on, and with what.
def round (s : Service σ) (d : Drained σ) : Checked (Bool × Drained σ) :=
  if !s.wants d.state then .ok (false, d)
  else match d.ring.pop d.medium.memory with
    | (.ok none, ring) => .ok (false, { d with ring := ring })
    | (.error e, ring) =>
        .ok (false, { d with
          ring := ring
          medium := d.medium.logError s!"{s.device}: failed to pop {s.lane} chain: {e.message}" })
    | (.ok (some chain), ring) => do
        let (written, state, medium) ← s.work d.state d.medium chain
        match ring.addUsed medium.memory chain.head written with
        | (.error e, ring, memory) =>
            let text := s!"{s.device}: failed to return {s.lane} chain: {e.message}"
            return (false, { d with
              state := state
              ring := ring
              medium := ({ medium with memory := memory }).logError text })
        | (.ok (), ring, memory) =>
            return (true, ⟨true, state, ring, { medium with memory := memory }⟩)

def drain (s : Service σ) : Nat → Drained σ → Checked (Drained σ)
  | 0, _ => .error .unfinished
  | fuel + 1, d => do
      match ← s.round d with
      | (true, d) => drain s fuel d
      | (false, d) => return d

-- Runs the queue behind ring `i`, if the driver has made it ready.
def run (s : Service σ) (state : σ) (m : Medium) (rings : Rings) (i : Nat) :
    Checked (Served σ) :=
  match ring? rings i with
  | none => .ok ⟨false, state, rings, m⟩
  | some ring => do
      let d ← s.drain bound ⟨false, state, ring, m⟩
      return ⟨d.moved, d.state, rings.set i (some d.ring), d.medium⟩

end Service

end Virtio

end VmMonitor
