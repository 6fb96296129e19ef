import VmMonitor.Proofs.Virtio.Drain
import VmMonitor.Virtio.Device

/-!
The life of a paravirtual device between a driver and the host: queues that are made ready and taken
back, a guest that stores what it likes, and calls in any order. Rings stay where they were put,
memory keeps its regions, and a device never holds more than it has room for.
-/

namespace VmMonitor

open GuestMemory SplitQueue Virtio Virtio.Service

namespace Virtio

variable {σ ν : Type} {m₀ : GuestMemory} {stock : σ → Nat} {capacity : Nat} {state : σ} {m : Medium}
  {rings : Rings} {i : Nat}

-- How a device, its rings and memory stand between calls.
structure Standing (m₀ : GuestMemory) (stock : σ → Nat) (capacity : Nat) (state : σ)
    (rings : Rings) (m : Medium) : Prop where
  layout : m.memory.layout = m₀.layout
  activated : ∀ j q, ring? rings j = some q → q.Activated
  stocked : stock state ≤ capacity

theorem Standing.sane (standing : Standing m₀ stock capacity state rings m) (sound : m₀.Sound)
    {q : SplitQueue} (found : ring? rings i = some q) : Sane (⟨false, state, q, m⟩ : Drained σ) :=
  ⟨sound.congr standing.layout, (standing.activated i q found).laidOut⟩

theorem Standing.ready {c c' : QueueConfig} {q : SplitQueue} (i : Nat)
    (standing : Standing m₀ stock capacity state rings m) (activated : c.activate = .ok (q, c')) :
    Standing m₀ stock capacity state (rings.set i (some q)) m := by
  refine ⟨standing.layout, fun j q' found => ?_, standing.stocked⟩
  rcases ring_set found with same | old
  · cases same
    exact ⟨_, _, _, activated, .refl _⟩
  · exact standing.activated j q' old

theorem run_standing {s : Service σ} {served : Served σ} (lawful : s.Lawful stock)
    (sound : m₀.Sound) (standing : Standing m₀ stock capacity state rings m)
    (done : s.run state m rings i = .ok served) :
    Standing m₀ stock capacity served.device served.rings served.medium := by
  unfold Service.run at done
  split at done
  · cases done
    exact standing
  rename_i q found
  obtain ⟨d, drained, done⟩ := Checked.bind_eq_ok.mp done
  cases done
  have kept := drain_kept lawful (standing.sane sound found) drained
  refine ⟨kept.layout.trans standing.layout, fun j q' here => ?_,
    Nat.le_trans kept.shrinks standing.stocked⟩
  rcases ring_set here with same | old
  · obtain ⟨c, c', start, activated, place⟩ := standing.activated i q found
    cases same
    exact ⟨c, c', start, activated, place.trans kept.place⟩
  · exact standing.activated j q' old

theorem run_returns {s : Service σ}
    (ends : ∀ q, ring? rings i = some q → ∃ d, s.drain bound ⟨false, state, q, m⟩ = .ok d) :
    ∃ served, s.run state m rings i = .ok served := by
  unfold Service.run
  split
  · exact ⟨_, rfl⟩
  · rename_i q found
    obtain ⟨d, drained⟩ := ends q found
    rw [drained]
    exact ⟨_, rfl⟩

-- The life of a device: the driver makes queues ready and takes them back, acknowledges features,
-- configures and resets the device, the guest stores what it likes, and the device is notified and
-- fed, all in any order.
inductive Session [VirtioDevice ν] (fresh : ν) (m₀ : GuestMemory) : ν → Rings → Medium → Prop
  | start (queues : Nat) (effects : Array Effect) :
      Session fresh m₀ fresh (List.replicate queues none) ⟨m₀, effects⟩
  | ready {d : ν} {rings : Rings} {m : Medium} {c c' : QueueConfig} {q : SplitQueue} (i : Nat)
      (earlier : Session fresh m₀ d rings m) (activated : c.activate = .ok (q, c')) :
      Session fresh m₀ d (rings.set i (some q)) m
  | unready {d : ν} {rings : Rings} {m : Medium} (i : Nat) (earlier : Session fresh m₀ d rings m) :
      Session fresh m₀ d (rings.set i none) m
  | acked {d : ν} {rings : Rings} {m : Medium} (features : UInt64)
      (earlier : Session fresh m₀ d rings m) :
      Session fresh m₀ (VirtioDevice.ackFeatures d features) rings m
  | configured {d : ν} {rings : Rings} {m : Medium} (offset : UInt64) (data : List UInt8)
      (earlier : Session fresh m₀ d rings m) :
      Session fresh m₀ (VirtioDevice.writeConfig d offset data) rings m
  | reset {d : ν} {rings : Rings} {m : Medium} (earlier : Session fresh m₀ d rings m) :
      Session fresh m₀ (VirtioDevice.reset d) (rings.map fun _ => none) m
  | guest {d : ν} {rings : Rings} {m : Medium} (memory : GuestMemory)
      (earlier : Session fresh m₀ d rings m) (same : memory.layout = m.memory.layout) :
      Session fresh m₀ d rings { m with memory := memory }
  | notified {d : ν} {rings : Rings} {m : Medium} {served : Served ν} (i : Nat)
      (earlier : Session fresh m₀ d rings m)
      (done : VirtioDevice.notify d m rings i = .ok served) :
      Session fresh m₀ served.device served.rings served.medium
  | fed {d : ν} {rings : Rings} {m : Medium} {served : Served ν} (data : List UInt8)
      (earlier : Session fresh m₀ d rings m)
      (done : VirtioDevice.input d m rings data = .ok served) :
      Session fresh m₀ served.device served.rings served.medium

-- A device that stays within its capacity, whatever is done to it.
structure Bounded (m₀ : GuestMemory) (stock : ν → Nat) (capacity : Nat) [VirtioDevice ν] :
    Prop where
  acked : ∀ d features, stock (VirtioDevice.ackFeatures d features) ≤ stock d
  configured : ∀ d offset data, stock (VirtioDevice.writeConfig d offset data) ≤ stock d
  reset : ∀ d, stock (VirtioDevice.reset d) ≤ stock d
  notify : ∀ {d rings m served i}, Standing m₀ stock capacity d rings m →
    VirtioDevice.notify d m rings i = .ok served →
    Standing m₀ stock capacity served.device served.rings served.medium
  input : ∀ {d rings m served data}, Standing m₀ stock capacity d rings m →
    VirtioDevice.input d m rings data = .ok served →
    Standing m₀ stock capacity served.device served.rings served.medium

theorem session_standing [VirtioDevice ν] {stock : ν → Nat} {fresh d : ν}
    (bounded : Bounded m₀ stock capacity) (fits : stock fresh ≤ capacity)
    (session : Session fresh m₀ d rings m) : Standing m₀ stock capacity d rings m := by
  induction session with
  | start queues effects =>
      refine ⟨rfl, fun j q found => ?_, fits⟩
      rw [ring_start] at found
      cases found
  | ready i _ activated ih => exact ih.ready i activated
  | unready i _ ih =>
      refine ⟨ih.layout, fun j q' found => ?_, ih.stocked⟩
      rcases ring_set found with none | old
      · cases none
      · exact ih.activated j q' old
  | acked features _ ih =>
      exact ⟨ih.layout, ih.activated, Nat.le_trans (bounded.acked ..) ih.stocked⟩
  | configured offset data _ ih =>
      exact ⟨ih.layout, ih.activated, Nat.le_trans (bounded.configured ..) ih.stocked⟩
  | reset _ ih =>
      refine ⟨ih.layout, fun j q found => ?_, Nat.le_trans (bounded.reset _) ih.stocked⟩
      rw [ring_cleared] at found
      cases found
  | guest memory _ same ih => exact ⟨same.trans ih.layout, ih.activated, ih.stocked⟩
  | notified i _ done ih => exact bounded.notify ih done
  | fed data _ done ih => exact bounded.input ih done

-- What is asked of the driver for the run of one queue: its index lies apart from the used ring.
def Apart (rings : Rings) (i : Nat) : Prop := ∀ q, ring? rings i = some q → q.IndexApart

-- No chain that a run takes has an empty buffer to write to outside memory.
def Fillable (s : Service σ) (state : σ) (m : Medium) (rings : Rings) (i : Nat) : Prop :=
  ∀ q, ring? rings i = some q → ∀ m' chain, s.Takes ⟨false, state, q, m⟩ m' chain →
    ∀ b ∈ chain.writable, b.len = 0 → m'.memory.Mapped b.address

theorem run_finishes {s : Service σ} {allowed : Medium → DescriptorChain → Prop}
    (progressing : s.Progressing stock allowed) (sound : m₀.Sound)
    (standing : Standing m₀ stock capacity state rings m)
    (small : (capacity + 1) * 65536 ≤ bound) (apart : Apart rings i)
    (allows : ∀ q, ring? rings i = some q → ∀ m' chain,
      s.Takes ⟨false, state, q, m⟩ m' chain → allowed m' chain) :
    ∃ served, s.run state m rings i = .ok served := by
  refine run_returns fun q found => ?_
  refine drain_finishes progressing (standing.sane sound found) (apart q found) (allows q found) ?_
  exact Nat.le_trans (Nat.mul_le_mul_right _ (Nat.succ_le_succ standing.stocked)) small

end Virtio

end VmMonitor
