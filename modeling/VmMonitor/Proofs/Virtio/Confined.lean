import VmMonitor.Proofs.Virtio.Lanes

/-!
Where a device writes in guest memory. Rings and buffers are laid out by the driver, in memory that
the device is changing while it reads them; and yet each byte that a call changes lies in the used
ring of its queue, as that queue was made ready, or in a writable buffer of a chain that it took.
-/

namespace VmMonitor

open GuestMemory SplitQueue Virtio Virtio.Service

theorem SplitQueue.SamePlace.usedByte {q q' : SplitQueue} (place : SamePlace q q')
    {x : GuestAddress} : q'.UsedByte x ↔ q.UsedByte x := by
  unfold SamePlace at place
  rw [place]
  rfl

namespace Virtio

namespace Service

variable {σ : Type} {s : Service σ} {d d' : Drained σ} {more : Bool} {fuel : Nat}
  {region : DescriptorChain → GuestAddress → Prop} {stock : σ → Nat} {x : GuestAddress}

-- On a chain with all its buffers in memory, the work keeps to a region that the chain names.
structure KeepsTo (s : Service σ) (region : DescriptorChain → GuestAddress → Prop) : Prop where
  only : ∀ {state m chain written state' m'}, m.memory.Sound →
    (∀ b ∈ chain.descriptors, b.Placed m.memory) →
    s.work state m chain = .ok (written, state', m') →
    ∀ x, m'.memory.byte? x ≠ m.memory.byte? x → region chain x

-- The bytes that a run from `d` may change.
def Reaches (s : Service σ) (region : DescriptorChain → GuestAddress → Prop) (d : Drained σ)
    (x : GuestAddress) : Prop :=
  d.ring.UsedByte x ∨ ∃ m chain, s.Takes d m chain ∧ region chain x

-- Giving a chain back writes to the used ring, and the work before it to the region of the chain.
theorem returned_reaches (keeps : s.KeepsTo region) (lawful : s.Lawful stock) (sane : Sane d)
    {chain : DescriptorChain} {written : UInt32} {state : σ} {medium : Medium} {ring : SplitQueue}
    (hungry : s.wants d.state = true)
    (popped : d.ring.pop d.medium.memory = (.ok (some chain), ring))
    (worked : s.work d.state d.medium chain = .ok (written, state, medium))
    (changed : (ring.addUsed medium.memory chain.head written).2.2.byte? x ≠
      d.medium.memory.byte? x) : s.Reaches region d x := by
  have place := pop_place d.ring d.medium.memory
  rw [popped] at place
  by_cases kept : medium.memory.byte? x = d.medium.memory.byte? x
  · left
    rw [← kept] at changed
    have given := addUsed_returned (sane.memory.congr (lawful.layout worked))
      (sane.ring.same place) chain.head written
    refine place.usedByte.mp (Classical.byContradiction fun outside => ?_)
    exact changed (given.kept x outside)
  · obtain ⟨_, _, _, made⟩ := pop_chain popped
    have inside := keeps.only sane.memory (DescriptorChain.new_placed made) worked x kept
    exact .inr ⟨_, chain, .now ring hungry popped, inside⟩

theorem round_reaches (keeps : s.KeepsTo region) (lawful : s.Lawful stock) (sane : Sane d)
    (round : Round s d more d') (changed : d'.medium.memory.byte? x ≠ d.medium.memory.byte? x) :
    s.Reaches region d x := by
  cases round with
  | sated full => exact absurd rfl changed
  | empty ring popped => exact absurd rfl changed
  | refused e ring text popped => exact absurd rfl changed
  | lost ring e text hungry popped worked returned =>
      exact returned_reaches keeps lawful sane hungry popped worked changed
  | served ring hungry popped worked returned =>
      exact returned_reaches keeps lawful sane hungry popped worked changed

-- What the rounds after the first one reach, the run reaches.
theorem Reaches.later (place : SamePlace d.ring d'.ring) (again : s.round d = .ok (true, d'))
    (reaches : s.Reaches region d' x) : s.Reaches region d x := by
  rcases reaches with used | ⟨m, chain, takes, inside⟩
  · exact .inl (place.usedByte.mp used)
  · exact .inr ⟨m, chain, .later again takes, inside⟩

theorem drain_reaches (keeps : s.KeepsTo region) (lawful : s.Lawful stock) (sane : Sane d)
    (done : s.drain fuel d = .ok d')
    (changed : d'.medium.memory.byte? x ≠ d.medium.memory.byte? x) : s.Reaches region d x := by
  induction fuel generalizing d with
  | zero => cases done
  | succ fuel ih =>
      unfold drain at done
      obtain ⟨⟨more, next⟩, ran, done⟩ := Checked.bind_eq_ok.mp done
      have round := round_parts ran
      by_cases first : next.medium.memory.byte? x = d.medium.memory.byte? x
      · rw [← first] at changed
        cases more with
        | false =>
            cases done
            exact absurd rfl changed
        | true =>
            have kept := round_kept lawful sane round
            exact (ih (sane.kept kept) done changed).later kept.place ran
      · exact round_reaches keeps lawful sane round first

theorem KeepsTo.nowhere
    (effect : ∀ state m chain, ∃ written state' m',
      s.work state m chain = .ok (written, state', m') ∧ stock state' ≤ stock state ∧
        m'.memory = m.memory) : s.KeepsTo fun _ _ => False where
  only {state m chain _ _ _} _ _ worked _ changed := by
    obtain ⟨_, _, _, done, _, same⟩ := effect state m chain
    rw [worked] at done
    cases done
    exact changed (by rw [same])

end Service

-- The writable buffers of a chain.
def Writable (chain : DescriptorChain) (x : GuestAddress) : Prop :=
  ∃ b ∈ chain.writable, b.Covers x

-- One queue that sends and one that fills buffers.
theorem Service.KeepsTo.either {σ : Type} {s tx rx : Service σ} {i out inward : Nat}
    (lane : (if i = out then some tx else if i = inward then some rx else none) = some s)
    (sends : tx.KeepsTo fun _ _ => False) (fills : rx.KeepsTo Writable) : s.KeepsTo Writable := by
  split at lane
  · cases lane
    exact ⟨fun sound placed worked x changed => (sends.only sound placed worked x changed).elim⟩
  split at lane <;> cases lane
  exact fills

-- What a call has left alone: memory but for the used ring of its queue and the writable buffers of
-- the chains that it took, and all other rings. `outward` is the queue that only sends.
structure Confined {ν : Type} [VirtioDevice ν] [Lanes ν] (outward : Nat) (d : ν) (m : Medium)
    (rings : Rings) (call : Call) (served : Served ν) : Prop where
  bytes : ∀ x, served.medium.memory.byte? x ≠ m.memory.byte? x →
    ∃ s q, Lanes.lane? (call.queue ν) = some s ∧ ring? rings (call.queue ν) = some q ∧
      s.Reaches Writable (call.start d m q) x
  sending : call.queue ν = outward → ∀ x, served.medium.memory.byte? x ≠ m.memory.byte? x →
    ∃ q, ring? rings outward = some q ∧ q.UsedByte x
  others : ∀ j, call.queue ν ≠ j → served.rings[j]? = rings[j]?

section

variable {ν : Type} [VirtioDevice ν] [Lanes ν] {m₀ : GuestMemory} {fresh d : ν} {m : Medium}
  {rings : Rings} {call : Call} {served : Served ν} {x : GuestAddress}

theorem call_reaches {region : DescriptorChain → GuestAddress → Prop} (sound : m₀.Sound)
    (session : Session fresh m₀ d rings m) (done : call.perform d m rings = .ok served)
    (keeps : ∀ s, @Lanes.lane? ν _ _ (call.queue ν) = some s → s.KeepsTo region)
    (changed : served.medium.memory.byte? x ≠ m.memory.byte? x) :
    ∃ s q, Lanes.lane? (call.queue ν) = some s ∧ ring? rings (call.queue ν) = some q ∧
      s.Reaches region (call.start d m q) x := by
  have start := outset_memory d m call
  rcases call_parts done with ⟨_, rfl⟩ | ⟨s, q, d', lane, found, drained, rfl⟩
  · exact absurd (congrArg (·.byte? x) start) changed
  · refine ⟨s, q, lane, found, ?_⟩
    have sane := session_sane sound session call found
    rw [← start] at changed
    exact drain_reaches (keeps s lane) (Lanes.layout lane) sane drained changed

theorem call_confined {outward : Nat} (sound : m₀.Sound) (session : Session fresh m₀ d rings m)
    (done : call.perform d m rings = .ok served)
    (keeps : ∀ {i s}, @Lanes.lane? ν _ _ i = some s → s.KeepsTo Writable)
    (sends : ∀ {s}, @Lanes.lane? ν _ _ outward = some s → s.KeepsTo fun _ _ => False) :
    Confined outward d m rings call served where
  bytes x changed := call_reaches sound session done (fun _ => keeps) changed
  sending here x changed := by
    obtain ⟨s, q, _, found, reaches⟩ :=
      call_reaches sound session done (fun s lane => sends (here ▸ lane)) changed
    rcases reaches with used | ⟨_, _, _, nowhere⟩
    · exact ⟨q, here ▸ found, used⟩
    · exact nowhere.elim
  others j other := call_others done other

end

end Virtio

namespace Console

variable {i : Nat} {s : Service Console}

theorem transmit_writes : transmitService.KeepsTo fun _ _ => False := .nowhere transmit_effect

theorem receive_writes : receiveService.KeepsTo Writable := by
  refine ⟨fun {state m chain written state' m'} sound placed worked x changed => ?_⟩
  obtain ⟨_, _, _, _, memory⟩ := deliver_parts worked
  rw [memory] at changed
  exact DescriptorChain.fill_confined sound (fun b here => placed b (List.mem_filter.mp here).1) 0
    changed

theorem lane_writes (lane : Lanes.lane? i = some s) : s.KeepsTo Writable :=
  .either lane transmit_writes receive_writes

end Console

namespace Net

variable {i : Nat} {s : Service Net} {n n' : Net} {m m' : Medium} {chain : DescriptorChain}
  {written : UInt32}

theorem transmit_writes : transmitService.KeepsTo fun _ _ => False := .nowhere transmit_effect

-- A delivery leaves behind the memory that its chain was filled in, if there was a frame.
theorem deliver_memory (done : n.deliver m chain = .ok (written, n', m')) :
    m'.memory = m.memory ∨ ∃ data, m'.memory = (chain.writeAll m.memory data).2 := by
  unfold deliver at done
  split at done
  · cases done
    exact .inl rfl
  · rename_i frame rest _
    right
    refine ⟨receiveHeader ++ frame, ?_⟩
    dsimp only at done
    split at done <;> split at done <;>
      · cases done
        rfl

theorem receive_writes : receiveService.KeepsTo Writable := by
  refine ⟨fun {state m chain written state' m'} sound placed worked x changed => ?_⟩
  rcases deliver_memory worked with same | ⟨data, memory⟩
  · rw [same] at changed
    exact absurd rfl changed
  · rw [memory] at changed
    exact DescriptorChain.fill_confined sound
      (fun b here => placed b (List.mem_filter.mp here).1) 0 changed

theorem lane_writes (lane : Lanes.lane? i = some s) : s.KeepsTo Writable :=
  .either lane transmit_writes receive_writes

end Net

namespace Virtio

-- In every session, whatever a driver has put in memory by then.
theorem session_calls_confined [Host] {m₀ : GuestMemory} {ranges : List (GuestAddress × UInt64)}
    (built : GuestMemory.new ranges = .ok m₀) :
    (∀ (fresh c : Console) (rings : Rings) (m : Medium) (call : Call) (served : Served Console),
      Session fresh m₀ c rings m → call.perform c m rings = .ok served →
      Confined Console.txQueue c m rings call served) ∧
    ∀ (fresh n : Net) (rings : Rings) (m : Medium) (call : Call) (served : Served Net),
      Session fresh m₀ n rings m → call.perform n m rings = .ok served →
      Confined Net.txQueue n m rings call served := by
  have sound : m₀.Sound := new_sound built
  constructor
  · intro fresh c rings m call served session done
    refine call_confined sound session done Console.lane_writes fun {s} lane => ?_
    cases lane
    exact Console.transmit_writes
  · intro fresh n rings m call served session done
    refine call_confined sound session done Net.lane_writes fun {s} lane => ?_
    cases lane
    exact Net.transmit_writes

-- Two bytes typed at a console with one receive buffer of four.
theorem session_calls_confined_typed :
    ∃ m₀ rings m served, GuestMemory.new [(0, 0x10000)] = .ok m₀ ∧
      Session (Console.new .accepting) m₀ (Console.new .accepting) rings m ∧
      (Call.input [104, 105]).perform (Console.new .accepting) m rings = .ok served ∧
      m.memory.contents 0x4000 4 = [0, 0, 0, 0] ∧
      served.medium.memory.contents 0x4000 4 = [104, 105, 0, 0] ∧
      Confined Console.txQueue (Console.new .accepting) m rings (.input [104, 105]) served := by
  let fresh := Console.new .accepting
  let q : SplitQueue := ⟨1, 0x1000, 0x2000, 0x3000, 0, 0⟩
  let rings : Rings := [some q, none]
  let start (m : GuestMemory) : Drained Console := (Call.input [104, 105]).start fresh ⟨m, #[]⟩ q
  have ran : ((GuestMemory.new [(0, 0x10000)]).toOption.any fun m₀ =>
      (m₀.writeObject 0x1000 (Bytes.ofNat 0x4000 8 ++ Bytes.ofNat 4 4 ++ [2, 0])).toOption.any
        fun middle => (middle.writeObject 0x2002 [1, 0]).toOption.any fun m =>
        (Console.receiveService.round (start m)).toOption.any fun first =>
        (Console.receiveService.round first.2).toOption.any fun second =>
          first.1 = true && second.1 = false && m.layout = m₀.layout &&
            m.contents 0x4000 4 = [0, 0, 0, 0] &&
            second.2.medium.memory.contents 0x4000 4 = [104, 105, 0, 0]) = true := by
    decide +kernel
  obtain ⟨m₀, built, ran⟩ := Checked.ok_of_any ran
  obtain ⟨middle, table, ran⟩ := Checked.ok_of_any ran
  obtain ⟨memory, index, ran⟩ := Checked.ok_of_any ran
  obtain ⟨⟨more, next⟩, first, ran⟩ := Checked.ok_of_any ran
  obtain ⟨⟨last, d⟩, second, ran⟩ := Checked.ok_of_any ran
  simp only [Bool.and_eq_true, decide_eq_true_eq] at ran
  obtain ⟨⟨⟨⟨rfl, rfl⟩, same⟩, before⟩, after⟩ := ran
  have activated : (⟨false, 256, 1, 0x1000, 0x2000, 0x3000⟩ : QueueConfig).activate =
      .ok (q, ⟨true, 256, 1, 0x1000, 0x2000, 0x3000⟩) := by rfl
  have session : Session fresh m₀ fresh rings ⟨memory, #[]⟩ :=
    .guest memory (.ready 0 (.start 2 #[]) activated) same
  have drained : Console.receiveService.drain bound (start memory) = .ok d :=
    (drain_next first).trans (drain_last second)
  have done : (Call.input [104, 105]).perform fresh ⟨memory, #[]⟩ rings =
      .ok ⟨d.moved, d.state, [some d.ring, none], d.medium⟩ := by
    change Console.receiveService.run _ _ rings Console.rxQueue = _
    have found : ring? rings Console.rxQueue = some q := rfl
    rw [Service.run, found]
    dsimp only
    exact congrArg (· >>= _) drained
  exact ⟨m₀, rings, _, _, built, session, done, before, after,
    (session_calls_confined built).1 _ _ _ _ _ _ session done⟩

end Virtio

end VmMonitor
