import VmMonitor.Proofs.Bus.Asked
import VmMonitor.Proofs.Bus.Owner
import VmMonitor.Proofs.Strict.Service

/-!
The bus with every operation checked. It relies on its windows for the offset that it hands to a
device, and on each device for what that is asked.
-/

namespace VmMonitor

open Checked Virtio

-- Registers and the bus cut values to the width in the same way.
def Width.strictMask : Width → Checked UInt64
  | .double => .ok 0xffffffffffffffff
  | w => do sub (← shiftLeft 1 (← product 64 w.bytes 8)) 1

theorem Width.strictMask_ok (w : Width) : w.strictMask = .ok w.mask := by cases w <;> rfl

-- A device with every operation checked. Loads and interrupts are done in one go; stores and data
-- of the host may take rounds.
class StrictDevice (δ : Type) where
  -- What the device relies on.
  steady : δ → Prop
  read : δ → Board → Access → Checked (Answered δ UInt64)
  write : Nat → δ → Board → Access → UInt64 → Checked (Answered δ Unit)
  endOfInterrupt : δ → Board → Nat → Checked (δ × Board)
  input : Nat → δ → Board → List UInt8 → Checked (Answered δ Unit)

open StrictDevice

class LawfulStrictDevice (δ : Type) [BusDevice δ] [StrictDevice δ] : Prop where
  asked {d d' : δ} (ready : steady d) (asks : Asks d d') : steady d'
  read_ok {d : δ} (ready : steady d) (b : Board) (a : Access) :
    ∃ r, StrictDevice.read d b a = .ok r ∧ BusDevice.read d b a = .ok r
  write_faithful {d : δ} (ready : steady d) (b : Board) (a : Access) (value : UInt64) :
    Faithful (fun rounds => StrictDevice.write rounds d b a value) (BusDevice.write d b a value)
  endOfInterrupt_ok {d : δ} (ready : steady d) (b : Board) (n : Nat) :
    StrictDevice.endOfInterrupt d b n = .ok (BusDevice.endOfInterrupt d b n)
  -- No device listens to a change of level.
  levelChanged_idle (d : δ) (b : Board) (n : Nat) (level : Bool) :
    BusDevice.levelChanged d b n level = (d, b)
  input_faithful {d : δ} (ready : steady d) (b : Board) (data : List UInt8) :
    Faithful (fun rounds => StrictDevice.input rounds d b data) (BusDevice.input d b data)

-- Devices of two kinds.

instance {δ ε : Type} [StrictDevice δ] [StrictDevice ε] : StrictDevice (δ ⊕ ε) where
  steady
    | .inl d => steady d
    | .inr d => steady d
  read m b a :=
    match m with
    | .inl d => return (← StrictDevice.read d b a).mapDevice .inl
    | .inr d => return (← StrictDevice.read d b a).mapDevice .inr
  write rounds m b a value :=
    match m with
    | .inl d => return (← StrictDevice.write rounds d b a value).mapDevice .inl
    | .inr d => return (← StrictDevice.write rounds d b a value).mapDevice .inr
  endOfInterrupt m b n :=
    match m with
    | .inl d => return (← StrictDevice.endOfInterrupt d b n).map .inl id
    | .inr d => return (← StrictDevice.endOfInterrupt d b n).map .inr id
  input rounds m b data :=
    match m with
    | .inl d => return (← StrictDevice.input rounds d b data).mapDevice .inl
    | .inr d => return (← StrictDevice.input rounds d b data).mapDevice .inr

instance {δ ε : Type} [BusDevice δ] [BusDevice ε] [StrictDevice δ] [StrictDevice ε]
    [LawfulStrictDevice δ] [LawfulStrictDevice ε] : LawfulStrictDevice (δ ⊕ ε) where
  asked {s s'} ready asks := by
    cases s with
    | inl d =>
        obtain ⟨d', rfl, asked⟩ := asks.inl
        exact (LawfulStrictDevice.asked ready asked : steady d')
    | inr d =>
        obtain ⟨d', rfl, asked⟩ := asks.inr
        exact (LawfulStrictDevice.asked ready asked : steady d')
  read_ok {s} ready b a := by
    cases s with
    | inl d =>
        obtain ⟨r, checked, done⟩ := LawfulStrictDevice.read_ok (show steady d from ready) b a
        exact ⟨_, bind_ok checked, bind_ok done⟩
    | inr d =>
        obtain ⟨r, checked, done⟩ := LawfulStrictDevice.read_ok (show steady d from ready) b a
        exact ⟨_, bind_ok checked, bind_ok done⟩
  write_faithful {s} ready b a value := by
    cases s with
    | inl d =>
        have faithful := LawfulStrictDevice.write_faithful (show steady d from ready) b a value
        exact faithful.bind fun r => ⟨_, rfl⟩
    | inr d =>
        have faithful := LawfulStrictDevice.write_faithful (show steady d from ready) b a value
        exact faithful.bind fun r => ⟨_, rfl⟩
  endOfInterrupt_ok {s} ready b n := by
    cases s with
    | inl d => exact bind_ok (LawfulStrictDevice.endOfInterrupt_ok (show steady d from ready) b n)
    | inr d => exact bind_ok (LawfulStrictDevice.endOfInterrupt_ok (show steady d from ready) b n)
  levelChanged_idle s b n level := by
    cases s with
    | inl d => exact congrArg (Prod.map Sum.inl id) (LawfulStrictDevice.levelChanged_idle ..)
    | inr d => exact congrArg (Prod.map Sum.inr id) (LawfulStrictDevice.levelChanged_idle ..)
  input_faithful {s} ready b data := by
    cases s with
    | inl d =>
        have faithful := LawfulStrictDevice.input_faithful (show steady d from ready) b data
        exact faithful.bind fun r => ⟨_, rfl⟩
    | inr d =>
        have faithful := LawfulStrictDevice.input_faithful (show steady d from ready) b data
        exact faithful.bind fun r => ⟨_, rfl⟩

namespace Bus

section Definitions

variable {δ : Type} [StrictDevice δ]

-- An address is taken as a remainder by a width, which is not zero.
def strictRoute (bus : Bus δ) (address : UInt64) (width : Width) (direction : Direction) :
    Checked (Except BusError (Slot δ × Access)) := do
  ensure (width.bytes ≠ 0)
  bus.route address width direction

def strictRead (bus : Bus δ) (board : Board) (address : UInt64) (width : Width) :
    Checked (Answered (Bus δ) UInt64) := do
  match ← bus.strictRoute address width .read with
  | .error e => return ⟨.error e, bus, board⟩
  | .ok (s, access) =>
      let r ← StrictDevice.read s.device board access
      let mask ← width.strictMask
      return ⟨r.answer.map (· &&& mask), bus.setDevice s.window.base r.device, r.board⟩

def strictWrite (bus : Bus δ) (rounds : Nat) (board : Board) (address : UInt64) (width : Width)
    (value : UInt64) : Checked (Answered (Bus δ) Unit) := do
  match ← bus.strictRoute address width .write with
  | .error e => return ⟨.error e, bus, board⟩
  | .ok (s, access) =>
      let r ← StrictDevice.write rounds s.device board access (value &&& (← width.strictMask))
      return ⟨r.answer, bus.setDevice s.window.base r.device, r.board⟩

def strictEndOfInterrupt (bus : Bus δ) (board : Board) (base : UInt64) (n : Nat) :
    Checked (Bool × Bus δ × Board) :=
  match bus.at? base with
  | none => .ok (false, bus, board)
  | some s => do
      let (device, board) ← StrictDevice.endOfInterrupt s.device board n
      return (true, bus.setDevice base device, board)

def strictInput (bus : Bus δ) (rounds : Nat) (board : Board) (base : UInt64)
    (data : List UInt8) : Checked (Answered (Bus δ) Unit) :=
  match bus.at? base with
  | none => .ok ⟨.error (.unsupported base .byte .write), bus, board⟩
  | some s => do
      let r ← StrictDevice.input rounds s.device board data
      return ⟨r.answer, bus.setDevice base r.device, r.board⟩

structure Steady (bus : Bus δ) : Prop where
  tiled : Tiled bus.slots
  devices : ∀ s ∈ bus.slots, steady s.device

end Definitions

section Windows

variable {δ : Type} {bus : Bus δ} {slots slots' : List (Slot δ)}

-- Tiling is a matter of the windows alone.
theorem Tiled.same (tiled : Tiled slots)
    (windows : slots'.map (·.window) = slots.map (·.window)) : Tiled slots' := by
  have ordered : (slots.map (·.window)).Pairwise fun w v =>
      w.base.toNat + w.len.toNat ≤ v.base.toNat := List.pairwise_map.mpr tiled.ordered
  have proper : ∀ w ∈ slots.map (·.window), w.len ≠ 0 ∧ w.Fits :=
    List.forall_mem_map.mpr tiled.proper
  rw [← windows] at ordered proper
  exact ⟨List.pairwise_map.mp ordered, List.forall_mem_map.mp proper⟩

theorem setDevice_windows (bus : Bus δ) (base : UInt64) (d : δ) :
    (bus.setDevice base d).slots.map (·.window) = bus.slots.map (·.window) := by
  unfold Bus.setDevice
  rw [List.map_map]
  refine List.map_congr_left fun s _ => ?_
  dsimp only [Function.comp_apply]
  split <;> rfl

theorem reset_windows [BusDevice δ] (bus : Bus δ) :
    bus.reset.slots.map (·.window) = bus.slots.map (·.window) := by
  unfold Bus.reset
  rw [List.map_map]
  rfl

theorem strictRoute_same (bus : Bus δ) (address : UInt64) (width : Width) (direction : Direction) :
    bus.strictRoute address width direction = bus.route address width direction :=
  bind_ok (ensure_ok (Nat.ne_of_gt width.bytes_pos))

theorem route_ok (tiled : Tiled bus.slots) (address : UInt64) (width : Width)
    (direction : Direction) : ∃ r, bus.route address width direction = .ok r := by
  by_cases aligned : address.toNat % width.bytes = 0
  · cases found : bus.slotFor? address with
    | none =>
        simp only [route, aligned, found, ne_eq, not_true_eq_false, if_false]
        exact ⟨_, rfl⟩
    | some s => exact ⟨_, route_found aligned tiled found⟩
  · exact ⟨_, route_misaligned aligned⟩

end Windows

section Accesses

variable {δ : Type} [BusDevice δ] [StrictDevice δ] [LawfulStrictDevice δ] {bus : Bus δ}

theorem steady_kept : Kept fun bus : Bus δ => bus.Steady where
  asked {bus s d} ready here asks := by
    refine ⟨ready.tiled.same (bus.setDevice_windows ..), fun t there => ?_⟩
    rcases mem_setDevice there with ⟨old, _⟩ | ⟨_, new⟩
    · exact ready.devices t old
    · rw [new]
      exact LawfulStrictDevice.asked (ready.devices s here) asks
  reset {bus} ready := by
    refine ⟨ready.tiled.same bus.reset_windows, fun t there => ?_⟩
    obtain ⟨s, here, rfl⟩ := List.mem_map.mp there
    exact LawfulStrictDevice.asked (ready.devices s here) .reset

theorem strictRead_ok (ready : bus.Steady) (b : Board) (address : UInt64) (width : Width) :
    ∃ r, bus.strictRead b address width = .ok r ∧ bus.read b address width = .ok r := by
  obtain ⟨routed, found⟩ := route_ok ready.tiled address width .read
  unfold strictRead read
  rw [strictRoute_same, bind_ok found, bind_ok found]
  cases routed with
  | error e => exact ⟨_, rfl, rfl⟩
  | ok target =>
      obtain ⟨s, a⟩ := target
      obtain ⟨r, checked, done⟩ :=
        LawfulStrictDevice.read_ok (ready.devices s (route_lands found).1) b a
      dsimp only
      rw [bind_ok checked, bind_ok width.strictMask_ok, bind_ok done]
      exact ⟨_, rfl, rfl⟩

theorem strictWrite_faithful (ready : bus.Steady) (b : Board) (address : UInt64) (width : Width)
    (value : UInt64) : Faithful (fun rounds => bus.strictWrite rounds b address width value)
      (bus.write b address width value) := by
  obtain ⟨routed, found⟩ := route_ok ready.tiled address width .write
  unfold strictWrite write
  simp only [strictRoute_same, found, ok_bind, width.strictMask_ok]
  cases routed with
  | error e => exact .once ⟨_, rfl⟩
  | ok target =>
      obtain ⟨s, a⟩ := target
      have device := ready.devices s (route_lands found).1
      exact (LawfulStrictDevice.write_faithful device b a _).bind fun r => ⟨_, rfl⟩

theorem strictEndOfInterrupt_ok (ready : bus.Steady) (b : Board) (base : UInt64) (n : Nat) :
    bus.strictEndOfInterrupt b base n = .ok (bus.endOfInterrupt b base n) := by
  unfold strictEndOfInterrupt endOfInterrupt
  cases found : bus.at? base with
  | none => rfl
  | some s =>
      have device := ready.devices s (at_mem found).1
      exact bind_ok (LawfulStrictDevice.endOfInterrupt_ok device b n)

theorem levelChanged_idle (ready : bus.Steady) (b : Board) (base : UInt64) (n : Nat)
    (level : Bool) : (bus.levelChanged b base n level).2 = (bus, b) := by
  unfold levelChanged
  split
  · rfl
  · rename_i s found
    obtain ⟨here, rfl⟩ := at_mem found
    obtain ⟨before, after, split, replaced⟩ := ready.tiled.setDevice here
    rw [LawfulStrictDevice.levelChanged_idle]
    dsimp only
    rw [replaced, ← split]

theorem strictInput_faithful (ready : bus.Steady) (b : Board) (base : UInt64)
    (data : List UInt8) :
    Faithful (fun rounds => bus.strictInput rounds b base data) (bus.input b base data) := by
  unfold strictInput input
  cases found : bus.at? base with
  | none => exact .once ⟨_, rfl⟩
  | some s =>
      have device := ready.devices s (at_mem found).1
      exact (LawfulStrictDevice.input_faithful device b data).bind fun r => ⟨_, rfl⟩

end Accesses

end Bus

end VmMonitor
