import VmMonitor.Proofs.Virtio.Returns

/-!
Console and link do the same with their rings: a call takes in what the host sent, if anything, and
runs the service of one queue. What holds of every run of every such service holds of every call.
-/

namespace VmMonitor

open GuestMemory SplitQueue Virtio Virtio.Service

-- The ring as it was when it was made ready.
def SplitQueue.atRest (q : SplitQueue) : SplitQueue := { q with nextAvail := 0, nextUsed := 0 }

theorem SplitQueue.SamePlace.atRest {q q' : SplitQueue} (place : SamePlace q q') :
    q'.atRest = q.atRest := by
  unfold SamePlace at place
  rw [place]
  rfl

theorem SplitQueue.activate_atRest {c c' : QueueConfig} {q : SplitQueue}
    (activated : c.activate = .ok (q, c')) : q.atRest = q := by
  unfold QueueConfig.activate at activated
  split at activated
  · cases activated
  obtain ⟨ring, made, activated⟩ := Checked.bind_eq_ok.mp activated
  cases activated
  unfold new at made
  split at made
  · cases made
  dsimp only at made
  split at made <;> cases made
  rfl

theorem SplitQueue.addUsed_place (q : SplitQueue) (m : GuestMemory) (head : UInt16)
    (len : UInt32) : SamePlace q (q.addUsed m head len).2.1 := by
  unfold addUsed
  split
  · exact .refl q
  · dsimp only
    split <;> rfl

namespace Virtio

-- What is asked of a device about its queues: the driver has notified one, or the host has data.
inductive Call where
  | notify (queue : Nat)
  | input (data : List UInt8)

def Call.perform {ν : Type} [VirtioDevice ν] (d : ν) (m : Medium) (rings : Rings) :
    Call → Checked (Served ν)
  | notify i => VirtioDevice.notify d m rings i
  | input data => VirtioDevice.input d m rings data

namespace Service

variable {σ : Type} {s : Service σ} {d d' : Drained σ} {more : Bool} {fuel : Nat}

theorem round_place (round : Round s d more d') : SamePlace d.ring d'.ring := by
  have place := pop_place d.ring d.medium.memory
  cases round with
  | sated full => exact .refl _
  | empty ring popped | refused e ring text popped =>
      rw [popped] at place
      exact place
  | lost ring e text hungry popped worked returned | served ring hungry popped worked returned =>
      rw [popped] at place
      exact place.trans (addUsed_place ..)

theorem drain_place (done : s.drain fuel d = .ok d') : SamePlace d.ring d'.ring :=
  drain_keeps (P := fun n => SamePlace d.ring n.ring)
    (fun _ _ _ before round => before.trans (round_place round)) (.refl _) done

-- A queue without a service of its own is left alone.
def pass (lane : Option (Service σ)) (state : σ) (m : Medium) (rings : Rings) (i : Nat) :
    Checked (Served σ) :=
  match lane with
  | none => .ok ⟨false, state, rings, m⟩
  | some s => s.run state m rings i

theorem pass_parts {lane : Option (Service σ)} {state : σ} {m : Medium} {rings : Rings} {i : Nat}
    {served : Served σ} (done : pass lane state m rings i = .ok served) :
    (lane = none ∨ ring? rings i = none) ∧ served = ⟨false, state, rings, m⟩ ∨
    ∃ s q d, lane = some s ∧ ring? rings i = some q ∧
      s.drain bound ⟨false, state, q, m⟩ = .ok d ∧
      served = ⟨d.moved, d.state, rings.set i (some d.ring), d.medium⟩ := by
  cases lane with
  | none =>
      cases done
      exact .inl ⟨.inl rfl, rfl⟩
  | some s =>
      unfold pass Service.run at done
      dsimp only at done
      split at done
      · rename_i absent
        cases done
        exact .inl ⟨.inr absent, rfl⟩
      · rename_i q found
        obtain ⟨d, drained, done⟩ := Checked.bind_eq_ok.mp done
        cases done
        exact .inr ⟨s, q, d, rfl, found, drained, rfl⟩

end Service

-- A device of which every call runs the service of one queue.
class Lanes (ν : Type) [VirtioDevice ν] where
  lane? : Nat → Option (Service ν)
  -- The queue that takes what the host sends, once the device has accepted it.
  inward : Nat
  accept : ν → Medium → List UInt8 → ν × Medium
  accept_memory : ∀ d m data, (accept d m data).2.memory = m.memory
  notify_pass : ∀ d m rings i,
    VirtioDevice.notify d m rings i = pass (lane? i) d m rings i
  input_pass : ∀ d m rings data,
    VirtioDevice.input d m rings data =
      pass (lane? inward) (accept d m data).1 (accept d m data).2 rings inward
  layout : ∀ {i s}, lane? i = some s → s.Lawful fun _ => 0

section

variable {ν : Type} [VirtioDevice ν] [Lanes ν] {m₀ : GuestMemory} {fresh d : ν} {m : Medium}
  {rings : Rings} {call : Call} {served : Served ν}

-- The queue of a call.
def Call.queue (ν : Type) [VirtioDevice ν] [Lanes ν] : Call → Nat
  | notify i => i
  | input _ => Lanes.inward ν

-- Device and medium when the service is run.
def Call.outset (d : ν) (m : Medium) : Call → ν × Medium
  | notify _ => (d, m)
  | input data => Lanes.accept d m data

theorem outset_memory (d : ν) (m : Medium) (call : Call) :
    (call.outset d m).2.memory = m.memory := by
  cases call with
  | notify i => rfl
  | input data => exact Lanes.accept_memory d m data

-- The run that a call comes to.
abbrev Call.start (call : Call) (d : ν) (m : Medium) (q : SplitQueue) : Drained ν :=
  ⟨false, (call.outset d m).1, q, (call.outset d m).2⟩

theorem call_parts (done : call.perform d m rings = .ok served) :
    (@Lanes.lane? ν _ _ (call.queue ν) = none ∨ ring? rings (call.queue ν) = none) ∧
      served = ⟨false, (call.outset d m).1, rings, (call.outset d m).2⟩ ∨
    ∃ s q d', Lanes.lane? (call.queue ν) = some s ∧ ring? rings (call.queue ν) = some q ∧
      s.drain bound (call.start d m q) = .ok d' ∧
      served = ⟨d'.moved, d'.state, rings.set (call.queue ν) (some d'.ring), d'.medium⟩ := by
  cases call with
  | notify i =>
      rw [Call.perform, Lanes.notify_pass] at done
      exact pass_parts done
  | input data =>
      rw [Call.perform, Lanes.input_pass] at done
      exact pass_parts done

-- No call touches a ring but that of its own queue, and that one stays where it is.

theorem call_others (done : call.perform d m rings = .ok served) {j : Nat}
    (other : call.queue ν ≠ j) : served.rings[j]? = rings[j]? := by
  rcases call_parts done with ⟨_, rfl⟩ | ⟨s, q, d', _, _, _, rfl⟩
  · rfl
  · exact List.getElem?_set_ne other

theorem call_places (done : call.perform d m rings = .ok served) :
    served.rings.map (·.map atRest) = rings.map (·.map atRest) := by
  rcases call_parts done with ⟨_, rfl⟩ | ⟨s, q, d', _, found, drained, rfl⟩
  · rfl
  · refine List.ext_getElem? fun j => ?_
    rw [List.getElem?_map, List.getElem?_map, List.getElem?_set]
    split
    · rename_i here
      subst here
      unfold ring? at found
      cases at_ : rings[call.queue ν]? with
      | none =>
          rw [at_] at found
          cases found
      | some ring =>
          rw [at_] at found
          cases found
          rw [if_pos (List.getElem?_eq_some_iff.mp at_).1]
          simp only [Option.map_some, (drain_place drained).atRest]
    · rfl

-- The service leaves memory where it is, whatever it does to the state of the device.
theorem lanes_bounded (sound : m₀.Sound) : Bounded m₀ (fun _ : ν => 0) 0 where
  acked _ _ := Nat.le_refl _
  configured _ _ _ := Nat.le_refl _
  reset _ := Nat.le_refl _
  notify {d rings m served i} standing done := by
    rw [Lanes.notify_pass] at done
    cases lane : @Lanes.lane? ν _ _ i with
    | none =>
        rw [lane] at done
        cases done
        exact standing
    | some s =>
        rw [lane] at done
        exact run_standing (Lanes.layout lane) sound standing done
  input {d rings m served data} standing done := by
    rw [Lanes.input_pass] at done
    have accepted : Standing m₀ (fun _ => 0) 0 (Lanes.accept d m data).1 rings
        (Lanes.accept d m data).2 :=
      ⟨(congrArg layout (Lanes.accept_memory d m data)).trans standing.layout, standing.activated,
        Nat.le_refl _⟩
    cases lane : @Lanes.lane? ν _ _ (Lanes.inward ν) with
    | none =>
        rw [lane] at done
        cases done
        exact accepted
    | some s =>
        rw [lane] at done
        exact run_standing (Lanes.layout lane) sound accepted done

-- How memory and the ring of its queue stand when a call runs its service.
theorem start_sane (sound : m₀.Sound) (standing : Standing m₀ (fun _ => 0) 0 d rings m)
    (call : Call) {q : SplitQueue} {i : Nat} (found : ring? rings i = some q) :
    Sane (call.start d m q) := by
  refine ⟨sound.congr ?_, (standing.activated i q found).laidOut⟩
  exact (congrArg layout (outset_memory d m call)).trans standing.layout

theorem session_sane (sound : m₀.Sound) (session : Session fresh m₀ d rings m) (call : Call)
    {q : SplitQueue} {i : Nat} (found : ring? rings i = some q) : Sane (call.start d m q) :=
  start_sane sound (session_standing (lanes_bounded sound) (Nat.le_refl 0) session) call found

end

theorem Service.Lawful.unstocked {σ : Type} {s : Service σ} {stock : σ → Nat}
    (lawful : s.Lawful stock) : s.Lawful fun _ => 0 :=
  ⟨lawful.layout, fun _ => Nat.le_refl _⟩

end Virtio

namespace Console

instance : Lanes Console where
  lane? i :=
    if i = txQueue then some transmitService
    else if i = rxQueue then some receiveService
    else none
  inward := rxQueue
  accept := accept
  accept_memory c m data := by
    unfold accept
    dsimp only
    split <;> rfl
  notify_pass c m rings i := by
    change c.notify m rings i = _
    unfold notify
    split
    · rfl
    split <;> rfl
  input_pass _ _ _ _ := rfl
  layout {i s} lane := by
    split at lane
    · cases lane
      exact transmit_progressing.toLawful.unstocked
    split at lane <;> cases lane
    exact receive_progressing.toLawful.unstocked

end Console

namespace Net

instance : Lanes Net where
  lane? i :=
    if i = txQueue then some transmitService
    else if i = rxQueue then some receiveService
    else none
  inward := rxQueue
  accept := accept
  accept_memory n m data := by
    unfold accept
    split <;> rfl
  notify_pass n m rings i := by
    change n.notify m rings i = _
    unfold notify
    split
    · rfl
    split <;> rfl
  input_pass _ _ _ _ := rfl
  layout {i s} lane := by
    split at lane
    · cases lane
      exact transmit_progressing.toLawful.unstocked
    split at lane <;> cases lane
    exact receive_lawful.unstocked

end Net

end VmMonitor
