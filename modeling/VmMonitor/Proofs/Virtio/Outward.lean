import Mathlib.Data.List.Basic
import VmMonitor.Proofs.Virtio.Turns

/-!
Queues that only send. Such a queue is emptied in one go, while the used ring is written below the
chains that are still to be read; what leaves the device is the bytes of the chains as they were
when the driver notified the queue, in the order in which it made them available.
-/

namespace VmMonitor

open GuestMemory SplitQueue DescriptorChain Virtio Virtio.Service

namespace Virtio

namespace Service

variable {σ : Type} {s : Service σ} {d d' : Drained σ} {t : Turn σ} {ts : List (Turn σ)}
  {fuel : Nat} {stock : σ → Nat} {m₀ : GuestMemory} {chains : List DescriptorChain}

-- Work that leaves memory alone.
def Quiet (s : Service σ) : Prop :=
  ∀ {state m chain written state' m'}, s.work state m chain = .ok (written, state', m') →
    m'.memory = m.memory

theorem Quiet.lawful (quiet : s.Quiet) : s.Lawful fun _ => 0 :=
  ⟨fun worked => congrArg layout (quiet worked), fun _ => Nat.le_refl _⟩

-- The used ring when a run is over.

theorem Turned.gave_quiet (quiet : s.Quiet) (sane : Sane t.before) (turned : s.Turned t) :
    Gave t.before.ring.taken t.before.medium.memory t.chain.head t.written t.after.ring
      t.after.medium.memory := by
  obtain ⟨memory, worked, returned⟩ := turned.parts
  have same : memory = t.before.medium.memory := quiet worked
  subst same
  exact addUsed_done sane.memory returned

theorem Passed.slot_kept {i : Nat} (quiet : s.Quiet) (sane : Sane d) (bounded : d.ring.Bounded)
    (mapped : d.ring.UsedMapped d.medium.memory) (passed : Passed s d ts d')
    (inside : i < d.ring.size.toNat)
    (others : ∀ k < ts.length, (d.ring.nextUsed.toNat + k) % d.ring.size.toNat ≠ i) :
    d'.medium.memory.contents (d.ring.usedRing + UInt64.ofNat (4 + 8 * i)) 8 =
      d.medium.memory.contents (d.ring.usedRing + UInt64.ofNat (4 + 8 * i)) 8 := by
  induction passed with
  | last round => rw [(round_settles quiet.lawful sane mapped round).2.2.2]
  | @turn t ts d' turned later ih =>
      have kept := round_kept quiet.lawful sane turned.round
      have gave := turned.gave_quiet quiet sane
      obtain ⟨area, size, next⟩ := turned.slots quiet.lawful sane
      have rest := ih (sane.kept kept) (bounded.same kept.place)
        ((mapped.same kept.place).congr kept.layout) (size ▸ inside) fun k less => by
          rw [next, size, mod_next bounded.power]
          exact others (k + 1) (Nat.succ_lt_succ less)
      rw [area] at rest
      rw [rest]
      exact Gave.slot_kept (q := t.before.ring.taken) (bounded.same t.before.ring.taken_place) gave
        inside (others 0 (Nat.zero_lt_succ _)).symm

theorem mod_turns {n j size : Nat} (some : 0 < j) (less : j < size) : (n + j) % size ≠ n % size := by
  intro same
  have whole := Nat.sub_mod_eq_zero_of_mod_eq same
  rw [Nat.add_sub_cancel_left, Nat.mod_eq_of_lt less] at whole
  exact absurd whole (Nat.ne_of_gt some)

-- It shows the last turns, as many as there are slots.
theorem Passed.element {k : Nat} (quiet : s.Quiet) (sane : Sane d) (bounded : d.ring.Bounded)
    (mapped : d.ring.UsedMapped d.medium.memory) (passed : Passed s d ts d')
    (here : ts[k]? = some t) (recent : ts.length ≤ k + d.ring.size.toNat) :
    d'.medium.memory.contents (d.ring.usedRing + UInt64.ofNat
        (4 + 8 * ((d.ring.nextUsed.toNat + k) % d.ring.size.toNat))) 8 =
      Bytes.ofNat t.chain.head.toNat 4 ++ Bytes.ofNat t.written.toNat 4 := by
  induction passed generalizing k with
  | last round => cases here
  | @turn first ts d' turned later ih =>
      have kept := round_kept quiet.lawful sane turned.round
      obtain ⟨area, size, next⟩ := turned.slots quiet.lawful sane
      have some := Nat.pos_of_ne_zero fun zero => sane.ring.size (UInt16.toNat_inj.mp zero)
      have bounded' := bounded.same kept.place
      have mapped' := (mapped.same kept.place).congr kept.layout
      rw [List.length_cons] at recent
      cases k with
      | zero =>
          cases here
          have kept := later.slot_kept (i := t.before.ring.nextUsed.toNat %
            t.before.ring.size.toNat) quiet (sane.kept kept) bounded' mapped'
            (by rw [size]; exact Nat.mod_lt _ some) fun j less => by
              rw [size, next, mod_next bounded.power]
              exact mod_turns (by omega) (by omega)
          rw [area] at kept
          rw [Nat.add_zero, kept]
          exact (turned.published quiet.lawful sane bounded.power).element
      | succ k =>
          have rest := ih (sane.kept kept) bounded' mapped' here (by rw [size]; omega)
          rw [area, size, next, mod_next bounded.power] at rest
          exact rest

theorem Passed.final (lawful : s.Lawful stock) (sane : Sane d)
    (mapped : d.ring.UsedMapped d.medium.memory) (passed : Passed s d ts d')
    (last : ts.getLast? = some t) : d'.medium.memory = t.after.medium.memory := by
  induction passed with
  | last round => cases last
  | @turn first ts d' turned later ih =>
      have kept := round_kept lawful sane turned.round
      have sane' := sane.kept kept
      have mapped' := (mapped.same kept.place).congr kept.layout
      cases ts with
      | nil =>
          cases last
          exact (round_settles lawful sane' mapped' later.round).2.2.2
      | cons => exact ih sane' mapped' last

-- A service that reads its chains. What leaves the device for a chain is told from the bytes of the
-- chain, as long as the device is `ready` and the chain `allowed`; `left` is what has left so far.
structure Emits {α : Type} (s : Service σ) (m₀ : GuestMemory) (ready : σ → Prop)
    (allowed : DescriptorChain → Prop) (left : Medium → List α) (yields : List UInt8 → List α) :
    Prop where
  wants : ∀ state, s.wants state = true
  quiet : s.Quiet
  works : ∀ {state m chain}, m.memory.Sound → m.memory.layout = m₀.layout →
    (∀ b ∈ chain.descriptors, b.Placed m.memory) → ready state → allowed chain →
    ∃ state' m', s.work state m chain = .ok (0, state', m') ∧ ready state' ∧
      left m' = left m ++ yields (joined m.memory chain.readable)
  stored : ∀ (m : Medium) (memory : GuestMemory), left { m with memory := memory } = left m

-- How a run over all chains that are available ends.
structure Emptied (s : Service σ) (fuel : Nat) (d : Drained σ) (chains : List DescriptorChain)
    (d' : Drained σ) : Prop where
  done : s.drain fuel d = .ok d'
  turns : (s.turns fuel d).map (fun t => (t.chain, t.written)) = chains.map fun c => (c, 0)
  taken : d'.ring.nextAvail = d.ring.nextAvail + UInt16.ofNat chains.length
  nothing : d'.ring.pop d'.medium.memory = (.ok none, d'.ring)

theorem round_exhausted (hungry : s.wants d.state = true)
    (nothing : d.ring.pop d.medium.memory = (.ok none, d.ring)) : s.round d = .ok (false, d) := by
  simp [round, hungry, nothing]

variable {α : Type} {ready : σ → Prop} {allowed : DescriptorChain → Prop} {left : Medium → List α}
  {yields : List UInt8 → List α}

theorem Emits.empties (emits : s.Emits m₀ ready allowed left yields) (sound : m₀.Sound)
    (layout : d.medium.memory.layout = m₀.layout) (bounded : d.ring.Bounded)
    (presents : d.ring.Presents d.medium.memory chains) (fit : ready d.state)
    (allows : ∀ c ∈ chains, allowed c) (enough : chains.length < fuel) :
    ∃ d', Emptied s fuel d chains d' ∧ ready d'.state ∧ left d'.medium =
      left d.medium ++ chains.flatMap fun c => yields (joined d.medium.memory c.readable) := by
  induction chains generalizing d fuel with
  | nil =>
      obtain ⟨fuel, rfl⟩ := Nat.exists_eq_succ_of_ne_zero (Nat.ne_of_gt enough)
      have popped := pop_exhausted (sound.congr layout) presents.avail presents.offered
      have last := round_exhausted (emits.wants d.state) popped
      refine ⟨d, ⟨drain_last last, ?_, ?_, popped⟩, fit, ?_⟩
      · rw [turns_last last]
        rfl
      · simp
      · simp
  | cons c rest ih =>
      obtain ⟨fuel, rfl⟩ := Nat.exists_eq_succ_of_ne_zero (Nat.ne_zero_of_lt enough)
      have sane := sound.congr layout
      have popped := pop_first sane bounded presents.avail presents.offered
      obtain ⟨_, _, head, made⟩ := pop_chain popped
      obtain ⟨state, medium, worked, fit', out⟩ :=
        emits.works sane layout (new_placed made) fit (allows c List.mem_cons_self)
      have same := emits.quiet worked
      obtain ⟨memory, returned⟩ := (presents.used.same d.ring.taken_place).takes sane
        (bounded.laidOut.same d.ring.taken_place) c.head 0
      have again : d.ring.taken.addUsed medium.memory c.head 0 =
          (.ok (), { d.ring.taken with nextUsed := d.ring.nextUsed + 1 }, memory) := by
        rw [same]
        exact returned
      have hungry := emits.wants d.state
      have place : SamePlace d.ring { d.ring.taken with nextUsed := d.ring.nextUsed + 1 } := rfl
      obtain ⟨presents', kept⟩ := presents.next sane bounded returned
      have given := addUsed_done sane returned
      obtain ⟨d', emptied, fit'', out'⟩ := ih
        (d := ⟨true, state, _, { medium with memory := memory }⟩)
        (given.layout.trans layout) (bounded.same place) presents' fit'
        (fun c later => allows c (.tail _ later)) (Nat.lt_of_succ_lt_succ enough)
      refine ⟨d', ⟨?_, ?_, ?_, emptied.nothing⟩, fit'', ?_⟩
      · rw [← emptied.done]
        exact drain_next (round_serves hungry popped worked again)
      · rw [List.map_cons, ← emptied.turns]
        exact congrArg (List.map _) (turns_next (turn_served hungry popped worked again))
      · rw [emptied.taken, List.length_cons]
        change d.ring.nextAvail + 1 + _ = _
        rw [UInt16.add_assoc, UInt16.add_comm 1, ofNat_succ]
      · have later : (rest.flatMap fun c => yields (joined memory c.readable)) =
            rest.flatMap fun c => yields (joined d.medium.memory c.readable) :=
          List.flatMap_congr fun c there => congrArg yields (kept c there)
        rw [out', emits.stored, out, later, List.flatMap_cons, List.append_assoc]

end Service

section

variable {ν : Type} [VirtioDevice ν] [Lanes ν] {m₀ : GuestMemory} {d : ν} {m : Medium}
  {rings : Rings} {i : Nat} {q : SplitQueue} {chains : List DescriptorChain}

-- What notifying a queue with these chains available does to its rings.
structure Transmitted (d : ν) (m : Medium) (rings : Rings) (i : Nat) (q : SplitQueue)
    (chains : List DescriptorChain) (served : Served ν) : Prop where
  count : chains.length =
    (Bytes.toNat (m.memory.contents (q.availRing + 2) 2) + 65536 - q.nextAvail.toNat) % 65536
  ring : served.rings = rings.set i (some { q with
    nextAvail := q.nextAvail + UInt16.ofNat chains.length
    nextUsed := q.nextUsed + UInt16.ofNat chains.length })
  turns : ((Call.notify i).turns d m rings).map (fun t => (t.chain, t.written)) =
    chains.map fun c => (c, 0)
  published : ∀ k (t : Turn ν), ((Call.notify i).turns d m rings)[k]? = some t →
    t.Published q (q.nextUsed.toNat + k)
  -- What is still there at the end, after as many chains as there are slots.
  elements : ∀ k c, chains[k]? = some c → chains.length ≤ k + q.size.toNat →
    served.medium.memory.contents
        (q.usedRing + UInt64.ofNat (4 + 8 * ((q.nextUsed.toNat + k) % q.size.toNat))) 8 =
      Bytes.ofNat c.head.toNat 4 ++ Bytes.ofNat 0 4
  index : chains ≠ [] → served.medium.memory.contents (q.usedRing + 2) 2 =
    Bytes.ofNat ((q.nextUsed.toNat + chains.length) % 65536) 2
  moved : served.moved = true ↔ chains ≠ []

theorem Transmitted.of_emptied {s : Service ν} {d' : Drained ν} (sound : m₀.Sound)
    (lane : Lanes.lane? i = some s) (quiet : s.Quiet) (layout : m.memory.layout = m₀.layout)
    (found : ring? rings i = some q) (bounded : q.Bounded) (presents : q.Presents m.memory chains)
    (emptied : Emptied s bound ⟨false, d, q, m⟩ chains d') :
    Transmitted d m rings i q chains
      ⟨d'.moved, d'.state, rings.set i (some d'.ring), d'.medium⟩ := by
  have same : (Call.notify i).turns d m rings = s.turns bound ⟨false, d, q, m⟩ :=
    Call.turns_run lane found
  have passed := drain_passed emptied.done
  have turns := emptied.turns
  rw [← same] at passed turns
  have sane : Sane (⟨false, d, q, m⟩ : Drained ν) := ⟨sound.congr layout, bounded.laidOut⟩
  have length : ((Call.notify i).turns d m rings).length = chains.length := by
    have sizes := congrArg List.length turns
    rwa [List.length_map, List.length_map] at sizes
  obtain ⟨given, moved⟩ := passed.counts quiet.lawful sane presents.used
  have published (k : Nat) (t : Turn ν) (here : ((Call.notify i).turns d m rings)[k]? = some t) :
      t.Published q (q.nextUsed.toNat + k) :=
    passed.published quiet.lawful sane bounded.power here
  have ring : d'.ring = { q with
      nextAvail := q.nextAvail + UInt16.ofNat chains.length
      nextUsed := q.nextUsed + UInt16.ofNat chains.length } := by
    have place : SamePlace q d'.ring := drain_place emptied.done
    unfold SamePlace at place
    rw [place, emptied.taken, given, length]
  have some : chains ≠ [] ↔ (Call.notify i).turns d m rings ≠ [] := by
    rw [← List.length_pos_iff, ← List.length_pos_iff, length]
  refine ⟨presents.length, congrArg (rings.set i <| .some ·) ring, turns, published,
    fun k c here recent => ?_, fun nonempty => ?_, ?_⟩
  · have turn := congrArg (·[k]?) turns
    simp only [List.getElem?_map, here, Option.map_some, Option.map_eq_some_iff] at turn
    obtain ⟨t, there, both⟩ := turn
    obtain ⟨rfl, written⟩ := Prod.mk.inj both
    have element := passed.element quiet sane bounded presents.used there (by rw [length]; exact recent)
    rw [written] at element
    exact element
  · obtain ⟨t, last⟩ := Option.isSome_iff_exists.mp (List.getLast?_isSome.mpr (some.mp nonempty))
    have final := passed.final quiet.lawful sane presents.used last
    rw [List.getLast?_eq_getElem?] at last
    have index := (published _ t last).index
    have count := List.length_pos_iff.mpr nonempty
    have place : q.nextUsed.toNat + (chains.length - 1) + 1 = q.nextUsed.toNat + chains.length := by
      omega
    rw [length, place] at index
    rw [← index]
    exact congrArg (fun memory : GuestMemory => memory.contents (q.usedRing + 2) 2) final
  · rw [moved, some]
    simp

-- Notifying the queue sends all that is available, and notifying it again at once nothing more.
theorem Service.Emits.notifies {α : Type} {s : Service ν} {ready : ν → Prop}
    {allowed : DescriptorChain → Prop} {left : Medium → List α} {yields : List UInt8 → List α}
    (emits : s.Emits m₀ ready allowed left yields) (sound : m₀.Sound)
    (lane : Lanes.lane? i = some s) (layout : m.memory.layout = m₀.layout)
    (found : ring? rings i = some q) (activated : q.Activated)
    (presents : q.Presents m.memory chains) (fit : ready d) (allows : ∀ c ∈ chains, allowed c) :
    ∃ served, VirtioDevice.notify d m rings i = .ok served ∧
      Transmitted d m rings i q chains served ∧
      left served.medium =
        left m ++ chains.flatMap (fun c => yields (joined m.memory c.readable)) ∧
      VirtioDevice.notify served.device served.medium served.rings i =
        .ok ⟨false, served.device, served.rings, served.medium⟩ := by
  have bounded := activated.bounded
  have few : chains.length < bound := by
    rw [presents.length]
    exact Nat.lt_trans (Nat.mod_lt _ (by decide)) (by decide : 65536 < bound)
  obtain ⟨d', emptied, _, out⟩ := emits.empties (d := ⟨false, d, q, m⟩) sound layout bounded presents
    fit allows few
  have own : Lanes.lane? ((Call.notify i).queue ν) = some s := lane
  have service (d : ν) (m : Medium) (rings : Rings) :
      VirtioDevice.notify d m rings i = s.run d m rings i := call_run own
  refine ⟨_, ?_, .of_emptied sound lane emits.quiet layout found bounded presents emptied, out, ?_⟩
  · rw [service, run, found]
    exact congrArg (· >>= _) emptied.done
  · have again : s.drain bound ⟨false, d'.state, d'.ring, d'.medium⟩ =
        .ok ⟨false, d'.state, d'.ring, d'.medium⟩ :=
      drain_last (round_exhausted (emits.wants _) emptied.nothing)
    rw [service, run, ring_stored found]
    dsimp only
    rw [again]
    exact congrArg (fun rings => Except.ok (Served.mk false d'.state rings d'.medium))
      (List.set_set ..)

end

-- A ring of four slots with each of its parts in a place of its own, below the buffers.
def sendRing : SplitQueue := ⟨4, 0x1000, 0x2000, 0x3000, 0, 0⟩

theorem sendRing_activated : sendRing.Activated :=
  ⟨⟨false, 256, 4, 0x1000, 0x2000, 0x3000⟩, _, _, rfl, .refl _⟩

theorem sendRing_presents {m : GuestMemory} {chains : List DescriptorChain}
    (layout : m.layout = [(0, 0x10000)]) (offered : sendRing.available m = chains.map .ok)
    (above : ∀ c ∈ chains, ∀ d ∈ c.readable, 0x4000 ≤ d.address.toNat) :
    sendRing.Presents m chains := by
  have listed : ((0, 0x10000) : GuestAddress × Nat) ∈ m.layout := by simp [layout]
  have used (x : GuestAddress) (used : sendRing.UsedByte x) :
      0x3000 ≤ x.toNat ∧ x.toNat < 0x4000 := by
    change 0x3000 + 2 ≤ x.toNat ∧ x.toNat < 0x3000 + 4 + 8 * 4 at used
    omega
  refine ⟨⟨holds_listed listed (by decide) (by decide) (by decide), ?_⟩,
    ⟨holds_listed listed (by decide) (by decide) (by decide), ?_⟩, offered, ?_, ?_⟩
  · have slots : ∀ i < 4, (0x2000 + UInt64.ofNat (4 + 2 * i)).toNat < 0x3000 := by decide
    intro i inside
    have slot := slots i inside
    exact holds_listed listed (Nat.zero_le _) (Nat.lt_trans slot (by decide))
      (Nat.le_trans (Nat.add_le_add_right (Nat.le_of_lt slot) 2) (by decide))
  · have slots : ∀ i < 4, (0x3000 + UInt64.ofNat (4 + 8 * i)).toNat < 0x4000 := by decide
    intro i inside
    have slot := slots i inside
    exact holds_listed listed (Nat.zero_le _) (Nat.lt_trans slot (by decide))
      (Nat.le_trans (Nat.add_le_add_right (Nat.le_of_lt slot) 8) (by decide))
  · intro x written read
    have place := used x written
    change (0x1000 ≤ x.toNat ∧ x.toNat < 0x1000 + 16 * 4) ∨
      0x2000 ≤ x.toNat ∧ x.toNat < 0x2000 + (6 + 2 * 4) at read
    omega
  · intro c listed d here x covers written
    have place := used x written
    have low := above c listed d here
    have from_ := covers.1
    omega

end Virtio

end VmMonitor
