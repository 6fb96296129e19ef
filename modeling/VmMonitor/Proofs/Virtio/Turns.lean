import VmMonitor.Proofs.Virtio.Lanes
import VmMonitor.Proofs.Virtqueue.Available

/-!
A run as the chains it gives back, one after the other. Each turn shows in the used ring before the
next one begins, at the position that follows that of the turn before; and where the used ring can
be accessed, nothing leaves the device on any other way.
-/

namespace VmMonitor

open GuestMemory SplitQueue Virtio Virtio.Service

namespace Virtio

-- A round that took a chain, worked on it and gave it back.
structure Turn (σ : Type) where
  before : Drained σ
  chain : DescriptorChain
  written : UInt32
  after : Drained σ

-- The used ring shows the chain at a position, counted without an end, and its index is just
-- behind.
structure Turn.Published {σ : Type} (t : Turn σ) (q : SplitQueue) (position : Nat) : Prop where
  element : t.after.medium.memory.contents
      (q.usedRing + UInt64.ofNat (4 + 8 * (position % q.size.toNat))) 8 =
    Bytes.ofNat t.chain.head.toNat 4 ++ Bytes.ofNat t.written.toNat 4
  index : t.after.medium.memory.contents (q.usedRing + 2) 2 =
    Bytes.ofNat ((position + 1) % 65536) 2

theorem Turn.Published.same {σ : Type} {t : Turn σ} {q q' : SplitQueue}
    {position position' : Nat} (published : t.Published q' position')
    (place : SamePlace q q') (power : isPowerOfTwo q.size = true)
    (wraps : position' % 65536 = position % 65536) :
    t.Published q position := by
  unfold SamePlace at place
  obtain ⟨element, index⟩ := published
  rw [place] at element index
  dsimp only at element index
  have slot : position' % q.size.toNat = position % q.size.toNat := by
    rw [← mod_size power position', wraps, mod_size power]
  have next : (position' + 1) % 65536 = (position + 1) % 65536 := by omega
  exact ⟨slot ▸ element, next ▸ index⟩

namespace Service

variable {σ : Type} {s : Service σ} {d d' : Drained σ} {t : Turn σ} {ts : List (Turn σ)}
  {more : Bool} {fuel : Nat} {stock : σ → Nat}

-- The turn that a run begins with.
def turn? (s : Service σ) (d : Drained σ) : Option (Turn σ) :=
  match s.round d, d.ring.pop d.medium.memory with
  | .ok (true, after), (.ok (some chain), _) =>
      match s.work d.state d.medium chain with
      | .ok (written, _, _) => some ⟨d, chain, written, after⟩
      | .error _ => none
  | _, _ => none

def turns (s : Service σ) : Nat → Drained σ → List (Turn σ)
  | 0, _ => []
  | fuel + 1, d =>
      match s.turn? d with
      | some t => t :: turns s fuel t.after
      | none => []

-- What a turn consists of.
structure Turned (s : Service σ) (t : Turn σ) : Prop where
  hungry : s.wants t.before.state = true
  popped : t.before.ring.pop t.before.medium.memory = (.ok (some t.chain), t.before.ring.taken)
  moved : t.after.moved = true
  parts : ∃ memory, s.work t.before.state t.before.medium t.chain =
      .ok (t.written, t.after.state, { t.after.medium with memory := memory }) ∧
    t.before.ring.taken.addUsed memory t.chain.head t.written =
      (.ok (), t.after.ring, t.after.medium.memory)

-- A run with its turns.
inductive Passed (s : Service σ) : Drained σ → List (Turn σ) → Drained σ → Prop
  | last {d d' : Drained σ} (round : Round s d false d') : Passed s d [] d'
  | turn {t : Turn σ} {ts : List (Turn σ)} {d' : Drained σ} (turned : s.Turned t)
      (later : Passed s t.after ts d') : Passed s t.before (t :: ts) d'

theorem turn_served {chain : DescriptorChain} {written : UInt32} {state : σ} {medium : Medium}
    {ring ring' : SplitQueue} {memory : GuestMemory} (hungry : s.wants d.state = true)
    (popped : d.ring.pop d.medium.memory = (.ok (some chain), ring))
    (worked : s.work d.state d.medium chain = .ok (written, state, medium))
    (returned : ring.addUsed medium.memory chain.head written = (.ok (), ring', memory)) :
    s.turn? d =
      some ⟨d, chain, written, ⟨true, state, ring', { medium with memory := memory }⟩⟩ := by
  unfold turn?
  rw [round_serves hungry popped worked returned, popped]
  dsimp only
  rw [worked]

theorem round_turn (ran : s.round d = .ok (true, d')) :
    ∃ t, s.turn? d = some t ∧ s.Turned t ∧ t.before = d ∧ t.after = d' := by
  cases round_parts ran with
  | @served chain written state medium ring hungry popped worked returned =>
      obtain ⟨_, rfl, _⟩ := pop_chain popped
      have given : d.ring.taken.addUsed medium.memory chain.head written = (.ok (), _) :=
        Prod.ext returned rfl
      exact ⟨_, turn_served hungry popped worked given,
        ⟨hungry, popped, rfl, medium.memory, worked, given⟩, rfl, rfl⟩

theorem round_last (ran : s.round d = .ok (false, d')) : s.turn? d = none := by
  unfold turn?
  rw [ran]

theorem turn_round (first : s.turn? d = some t) : s.round d = .ok (true, t.after) := by
  unfold turn? at first
  split at first
  · rename_i ran _
    split at first <;> cases first
    exact ran
  · cases first

theorem turns_next (first : s.turn? d = some t) :
    s.turns (fuel + 1) d = t :: s.turns fuel t.after := by
  rw [turns, first]

theorem turns_last (last : s.round d = .ok (false, d')) : s.turns (fuel + 1) d = [] := by
  rw [turns, round_last last]

theorem drain_passed (done : s.drain fuel d = .ok d') : Passed s d (s.turns fuel d) d' := by
  induction fuel generalizing d with
  | zero => cases done
  | succ fuel ih =>
      unfold drain at done
      obtain ⟨⟨more, next⟩, ran, done⟩ := Checked.bind_eq_ok.mp done
      cases more with
      | false =>
          cases done
          rw [turns_last ran]
          exact .last (round_parts ran)
      | true =>
          obtain ⟨t, first, turned, rfl, rfl⟩ := round_turn ran
          rw [turns_next first]
          exact .turn turned (ih done)

-- A turn is a round.
theorem Turned.round (turned : s.Turned t) : Round s t.before true t.after := by
  obtain ⟨before, chain, written, moved, state, ring, medium⟩ := t
  obtain ⟨hungry, popped, rfl, memory, worked, returned⟩ := turned
  have served := Round.served _ hungry popped worked (by rw [returned])
  rw [returned] at served
  exact served

theorem Passed.round (passed : Passed s d [] d') : Round s d false d' := by
  cases passed with
  | last round => exact round

theorem Turned.made (turned : s.Turned t) : ∃ head, DescriptorChain.new t.before.medium.memory
    t.before.ring.descTable t.before.ring.size head = .ok t.chain :=
  (pop_chain turned.popped).2.2

theorem Turned.placed (turned : s.Turned t) :
    ∀ b ∈ t.chain.descriptors, b.Placed t.before.medium.memory := by
  obtain ⟨_, made⟩ := turned.made
  exact DescriptorChain.new_placed made

-- How a turn finds the queue, compared with the beginning of the run.
theorem Passed.each (lawful : s.Lawful stock) (sane : Sane d) (passed : Passed s d ts d') :
    ∀ t ∈ ts, s.Turned t ∧ Kept stock d t.before := by
  induction passed with
  | last round => nofun
  | @turn t ts d' turned later ih =>
      intro other listed
      have first := round_kept lawful sane turned.round
      rcases List.mem_cons.mp listed with rfl | listed
      · exact ⟨turned, .refl _, rfl, Nat.le_refl _⟩
      · obtain ⟨fine, kept⟩ := ih (sane.kept first) other listed
        exact ⟨fine, first.trans kept⟩

-- Giving back, turn by turn.

theorem Turned.gave (lawful : s.Lawful stock) (sane : Sane t.before) (turned : s.Turned t) :
    ∃ memory, memory.layout = t.before.medium.memory.layout ∧
      Gave t.before.ring.taken memory t.chain.head t.written t.after.ring
        t.after.medium.memory := by
  obtain ⟨memory, worked, returned⟩ := turned.parts
  have layout := lawful.layout worked
  exact ⟨memory, layout, addUsed_done (sane.memory.congr layout) returned⟩

theorem Turned.ring (lawful : s.Lawful stock) (sane : Sane t.before) (turned : s.Turned t) :
    t.after.ring = { t.before.ring with
      nextAvail := t.before.ring.nextAvail + 1
      nextUsed := t.before.ring.nextUsed + 1 } := by
  obtain ⟨_, _, gave⟩ := turned.gave lawful sane
  exact gave.moved

-- A turn moves on by one slot of the used ring.
theorem Turned.slots (lawful : s.Lawful stock) (sane : Sane t.before) (turned : s.Turned t) :
    t.after.ring.usedRing = t.before.ring.usedRing ∧ t.after.ring.size = t.before.ring.size ∧
      t.after.ring.nextUsed.toNat = (t.before.ring.nextUsed.toNat + 1) % 65536 := by
  rw [turned.ring lawful sane]
  exact ⟨rfl, rfl, UInt16.toNat_add _ _⟩

theorem Turned.published (lawful : s.Lawful stock) (sane : Sane t.before)
    (power : isPowerOfTwo t.before.ring.size = true) (turned : s.Turned t) :
    t.Published t.before.ring t.before.ring.nextUsed.toNat := by
  obtain ⟨memory, layout, gave⟩ := turned.gave lawful sane
  obtain ⟨element, index⟩ := gave.contents (sane.memory.congr layout)
    (sane.ring.same t.before.ring.taken_place)
  have slot := slot_toNat (q := t.before.ring.taken) power t.before.ring.taken.nextUsed
  have next : (t.before.ring.nextUsed + 1).toNat = (t.before.ring.nextUsed.toNat + 1) % 65536 :=
    UInt16.toNat_add _ _
  rw [usedSlotAddress, slot] at element
  exact ⟨element, next ▸ index⟩

-- The turns of a run are published one after the other.
theorem Passed.published (lawful : s.Lawful stock) (sane : Sane d)
    (power : isPowerOfTwo d.ring.size = true) (passed : Passed s d ts d') {k : Nat}
    (here : ts[k]? = some t) : t.Published d.ring (d.ring.nextUsed.toNat + k) := by
  induction passed generalizing k with
  | last round => cases here
  | @turn first ts d' turned later ih =>
      cases k with
      | zero =>
          cases here
          exact turned.published lawful sane power
      | succ k =>
          have kept := round_kept lawful sane turned.round
          obtain ⟨_, size, next⟩ := turned.slots lawful sane
          exact (ih (sane.kept kept) (size ▸ power) here).same kept.place power (by omega)

-- The last round of a run gives nothing back, so that it has nothing to lose where the used ring
-- can be accessed.
theorem round_settles (lawful : s.Lawful stock) (sane : Sane d)
    (mapped : d.ring.UsedMapped d.medium.memory) (round : Round s d false d') :
    d'.state = d.state ∧ d'.moved = d.moved ∧ d'.ring.nextUsed = d.ring.nextUsed ∧
      d'.medium.memory = d.medium.memory := by
  have place := pop_place d.ring d.medium.memory
  cases round with
  | sated full => exact ⟨rfl, rfl, rfl, rfl⟩
  | empty ring popped =>
      rw [pop_none popped]
      exact ⟨rfl, rfl, rfl, rfl⟩
  | refused e ring text popped =>
      refine ⟨rfl, rfl, ?_, rfl⟩
      rcases pop_error popped with ⟨_, _, rfl⟩ | ⟨_, rfl⟩ <;> rfl
  | lost ring e text hungry popped worked returned =>
      rw [popped] at place
      have layout := lawful.layout worked
      obtain ⟨_, taken⟩ := ((mapped.same place).congr layout).takes (sane.memory.congr layout)
        (sane.ring.same place) _ _
      rw [taken] at returned
      cases returned

theorem Passed.counts (lawful : s.Lawful stock) (sane : Sane d)
    (mapped : d.ring.UsedMapped d.medium.memory) (passed : Passed s d ts d') :
    d'.ring.nextUsed = d.ring.nextUsed + UInt16.ofNat ts.length ∧
      (d'.moved = true ↔ d.moved = true ∨ ts ≠ []) := by
  induction passed with
  | last round =>
      obtain ⟨_, moved, given, _⟩ := round_settles lawful sane mapped round
      rw [moved, given]
      simp
  | @turn t ts d' turned later ih =>
      have kept := round_kept lawful sane turned.round
      obtain ⟨given, moved⟩ := ih (sane.kept kept) ((mapped.same kept.place).congr kept.layout)
      rw [moved, given, turned.ring lawful sane, turned.moved, List.length_cons]
      refine ⟨?_, by simp⟩
      dsimp only
      rw [UInt16.add_assoc, UInt16.add_comm 1, ofNat_succ]

-- What the turns take out is what the device had, less what it still has.
theorem Passed.conserves {α : Type} {held : σ → List α} {value : Turn σ → List α}
    (lawful : s.Lawful stock) (sane : Sane d) (mapped : d.ring.UsedMapped d.medium.memory)
    (passed : Passed s d ts d')
    (each : ∀ t ∈ ts, value t ++ held t.after.state = held t.before.state) :
    ts.flatMap value ++ held d'.state = held d.state := by
  induction passed with
  | last round => rw [(round_settles lawful sane mapped round).1, List.flatMap_nil, List.nil_append]
  | @turn t ts d' turned later ih =>
      have kept := round_kept lawful sane turned.round
      have rest := ih (sane.kept kept) ((mapped.same kept.place).congr kept.layout)
        fun t listed => each t (.tail _ listed)
      rw [List.flatMap_cons, List.append_assoc, rest]
      exact each t List.mem_cons_self

end Service

section

variable {ν : Type} [VirtioDevice ν] [Lanes ν] {d : ν} {m : Medium} {rings : Rings} {call : Call}
  {served : Served ν}

-- The turns of a call.
def Call.turns (call : Call) (d : ν) (m : Medium) (rings : Rings) : List (Turn ν) :=
  match Lanes.lane? (call.queue ν), ring? rings (call.queue ν) with
  | some s, some q => s.turns bound (call.start d m q)
  | _, _ => []

theorem call_run {s : Service ν} (lane : Lanes.lane? (call.queue ν) = some s) :
    call.perform d m rings = s.run (call.outset d m).1 (call.outset d m).2 rings (call.queue ν) := by
  cases call with
  | notify i =>
      rw [Call.perform, Lanes.notify_pass, show Lanes.lane? i = some s from lane]
      rfl
  | input data =>
      rw [Call.perform, Lanes.input_pass,
        show Lanes.lane? (Lanes.inward ν) = some s from lane]
      rfl

theorem Call.turns_run {s : Service ν} {q : SplitQueue}
    (lane : Lanes.lane? (call.queue ν) = some s) (found : ring? rings (call.queue ν) = some q) :
    call.turns d m rings = s.turns bound (call.start d m q) := by
  unfold Call.turns
  rw [lane, found]

theorem call_passed (done : call.perform d m rings = .ok served) :
    call.turns d m rings = [] ∧ served = ⟨false, (call.outset d m).1, rings, (call.outset d m).2⟩ ∨
    ∃ s q d', Lanes.lane? (call.queue ν) = some s ∧ ring? rings (call.queue ν) = some q ∧
      s.drain bound (call.start d m q) = .ok d' ∧
      Passed s (call.start d m q) (call.turns d m rings) d' ∧
      served = ⟨d'.moved, d'.state, rings.set (call.queue ν) (some d'.ring), d'.medium⟩ := by
  rcases call_parts done with ⟨idle, same⟩ | ⟨s, q, d', lane, found, drained, same⟩
  · refine .inl ⟨?_, same⟩
    unfold Call.turns
    split
    · rename_i lane found
      rcases idle with none | none
      · rw [none] at lane
        cases lane
      · rw [none] at found
        cases found
    · rfl
  · refine .inr ⟨s, q, d', lane, found, drained, ?_, same⟩
    rw [Call.turns_run lane found]
    exact drain_passed drained

end

end Virtio

end VmMonitor
