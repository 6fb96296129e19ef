import VmMonitor.Proofs.Virtio.Session
import VmMonitor.Virtio.Console
import VmMonitor.Virtio.Net

/-!
Which calls of a device come back. A network link hands its backlog out whatever the rings are like;
the other queues end as long as giving chains back does not move the index of the driver. A driver
that puts its rings on top of each other can keep a device busy for good.
-/

namespace VmMonitor

open GuestMemory SplitQueue Virtio Virtio.Service

namespace Console

variable {m₀ : GuestMemory} {c c' : Console} {m m' : Medium} {rings : Rings} {served : Served Console}
  {chain : DescriptorChain} {written : UInt32}

-- Input that waits for buffers.
def stock (c : Console) : Nat := c.buffered.length

theorem transmit_effect (c : Console) (m : Medium) (chain : DescriptorChain) :
    ∃ written c' m', c.transmit m chain = .ok (written, c', m') ∧ c'.stock ≤ c.stock ∧
      m'.memory = m.memory := by
  unfold transmit
  dsimp only
  split
  · exact ⟨_, _, _, rfl, Nat.le_refl _, rfl⟩
  · split <;> exact ⟨_, _, _, rfl, Nat.le_refl _, rfl⟩

theorem transmit_progressing : transmitService.Progressing stock fun _ _ => True :=
  .idle transmit_effect

-- What a delivery leaves behind, in memory and of the input.
theorem deliver_parts (done : c.deliver m chain = .ok (written, c', m')) :
    ∃ n left, Checked.slice c.buffered n (c.buffered.length - n) = .ok left ∧
      c' = { c with buffered := left } ∧
      m'.memory = (chain.writeAll m.memory
        (c.buffered.take (min chain.writableLen c.buffered.length))).2 := by
  unfold deliver at done
  dsimp only at done
  split at done <;>
    · obtain ⟨left, sliced, done⟩ := Checked.bind_eq_ok.mp done
      cases done
      exact ⟨_, left, sliced, rfl, rfl⟩

theorem slice_drop {n : Nat} {data left : List UInt8}
    (sliced : Checked.slice data n (data.length - n) = .ok left) : left = data.drop n := by
  unfold Checked.slice at sliced
  split at sliced <;> cases sliced
  exact List.take_of_length_le (Nat.le_of_eq List.length_drop)

theorem deliver_works (sound : m.memory.Sound) (placed : ∀ b ∈ chain.descriptors, b.Placed m.memory)
    (waiting : c.buffered ≠ [])
    (mapped : ∀ b ∈ chain.writable, b.len = 0 → m.memory.Mapped b.address) :
    ∃ written c' m', c.deliver m chain = .ok (written, c', m') ∧
      (c'.stock < c.stock ∨ m'.memory = m.memory) := by
  have some : 0 < c.buffered.length := List.length_pos_iff.mpr waiting
  let data := c.buffered.take (min chain.writableLen c.buffered.length)
  have size : data.length = min chain.writableLen c.buffered.length := by
    simp only [data, List.length_take]
    omega
  have held : ∀ b ∈ chain.writable, m.memory.Holds b.address b.len.toNat :=
    DescriptorChain.placed_held (fun b here => placed b (List.mem_filter.mp here).1) mapped
  have filled : (chain.writeAll m.memory data).1 = .ok data.length := by
    have done : (DescriptorChain.fill data chain.writable 0 m.memory).1 = _ :=
      DescriptorChain.fill_held sound held (Nat.zero_le _)
    rw [Nat.zero_add, ← DescriptorChain.writableLen_total, Nat.min_eq_left (by omega)] at done
    exact done
  let left := (c.buffered.drop data.length).take (c.buffered.length - data.length)
  have sliced : Checked.slice c.buffered data.length (c.buffered.length - data.length) =
      .ok left := by
    rw [Checked.slice, if_pos (by omega)]
  cases wrote : chain.writeAll m.memory data with
  | mk answer memory =>
      rw [wrote] at filled
      subst filled
      have done : c.deliver m chain =
          .ok (UInt32.ofNat data.length, { c with buffered := left }, { m with memory := memory }) := by
        unfold deliver
        dsimp only
        rw [wrote]
        dsimp only
        rw [sliced]
        rfl
      refine ⟨_, _, _, done, ?_⟩
      by_cases room : chain.writableLen = 0
      · -- Nothing is written, not even to the buffers.
        have none : data = [] := List.length_eq_zero_iff.mp (by omega)
        rw [none, DescriptorChain.writeAll, DescriptorChain.fill_nil] at wrote
        cases wrote
        exact .inr rfl
      · left
        change ((c.buffered.drop data.length).take _).length < c.buffered.length
        rw [List.length_take, List.length_drop]
        omega

theorem receive_progressing : receiveService.Progressing stock
    fun m chain => ∀ b ∈ chain.writable, b.len = 0 → m.memory.Mapped b.address where
  layout worked := by
    obtain ⟨_, _, _, _, memory⟩ := deliver_parts worked
    rw [memory]
    exact DescriptorChain.fill_layout ..
  shrinks worked := by
    obtain ⟨n, left, sliced, rfl, _⟩ := deliver_parts worked
    change left.length ≤ _
    rw [slice_drop sliced, List.length_drop]
    exact Nat.sub_le _ _
  works {state m chain} sound placed hungry mapped := by
    refine deliver_works sound placed (fun none => ?_) mapped
    rw [show receiveService.wants state = !state.buffered.isEmpty from rfl, none] at hungry
    cases hungry

-- The console that has taken what it has room for.
def accept (c : Console) (m : Medium) (data : List UInt8) : Console × Medium :=
  ({ c with buffered := c.buffered ++ data.take (capacity - c.buffered.length) },
    if capacity - c.buffered.length < data.length then
      m.warn s!"console: dropping {data.length - (capacity - c.buffered.length)} bytes of input"
    else m)

theorem accept_standing (standing : Standing m₀ stock capacity c rings m) (data : List UInt8) :
    Standing m₀ stock capacity (c.accept m data).1 rings (c.accept m data).2 := by
  have full := standing.stocked
  refine ⟨?_, standing.activated, ?_⟩
  · unfold accept
    dsimp only
    split <;> exact standing.layout
  · unfold stock at full ⊢
    simp only [accept, List.length_append, List.length_take]
    omega

theorem notify_standing {i : Nat} (sound : m₀.Sound)
    (standing : Standing m₀ stock capacity c rings m) (done : c.notify m rings i = .ok served) :
    Standing m₀ stock capacity served.device served.rings served.medium := by
  unfold notify at done
  split at done
  · exact run_standing transmit_progressing.toLawful sound standing done
  split at done
  · exact run_standing receive_progressing.toLawful sound standing done
  · cases done
    exact standing

theorem input_standing {data : List UInt8} (sound : m₀.Sound)
    (standing : Standing m₀ stock capacity c rings m) (done : c.input m rings data = .ok served) :
    Standing m₀ stock capacity served.device served.rings served.medium :=
  run_standing receive_progressing.toLawful sound (accept_standing standing data) done

theorem notify_transmit (c : Console) (m : Medium) (rings : Rings) :
    VirtioDevice.notify c m rings txQueue = transmitService.run c m rings txQueue := rfl

theorem bounded (sound : m₀.Sound) : Bounded m₀ stock capacity where
  acked _ _ := Nat.le_refl _
  configured _ _ _ := Nat.le_refl _
  reset _ := Nat.zero_le _
  notify := notify_standing sound
  input := input_standing sound

theorem receive_returns (sound : m₀.Sound) (standing : Standing m₀ stock capacity c rings m)
    (apart : Apart rings rxQueue) (fillable : Fillable receiveService c m rings rxQueue) :
    ∃ served, receiveService.run c m rings rxQueue = .ok served :=
  run_finishes receive_progressing sound standing (by decide) apart fillable

theorem notify_returns {i : Nat} (sound : m₀.Sound)
    (standing : Standing m₀ stock capacity c rings m)
    (apart : i = txQueue ∨ i = rxQueue → Apart rings i)
    (fillable : i = rxQueue → Fillable receiveService c m rings rxQueue) :
    ∃ served, c.notify m rings i = .ok served := by
  unfold notify
  split
  · rename_i tx
    exact run_finishes transmit_progressing sound standing (by decide) (apart (.inl tx))
      fun _ _ _ _ _ => trivial
  split
  · rename_i rx
    subst rx
    exact receive_returns sound standing (apart (.inr rfl)) (fillable rfl)
  · exact ⟨_, rfl⟩

end Console

namespace Net

variable {m₀ : GuestMemory} {n : Net} {m m' : Medium} {rings : Rings} {served : Served Net}
  {chain : DescriptorChain}

-- Frames that wait for buffers.
def stock (n : Net) : Nat := n.backlog.length

theorem send_frame (n : Net) (m : Medium) (frame : List UInt8) :
    (n.send m frame).1.stock = n.stock ∧ (n.send m frame).2.memory = m.memory := by
  unfold send
  split <;> exact ⟨rfl, rfl⟩

theorem transmit_effect (n : Net) (m : Medium) (chain : DescriptorChain) :
    ∃ written n' m', n.transmit m chain = .ok (written, n', m') ∧ n'.stock ≤ n.stock ∧
      m'.memory = m.memory := by
  unfold transmit
  dsimp only
  split
  · exact ⟨_, _, _, rfl, Nat.le_refl _, rfl⟩
  rename_i enough
  split
  · exact ⟨_, _, _, rfl, Nat.le_refl _, rfl⟩
  cases read : chain.readAll m.memory (headerLen + maxFrame) with
  | error e => exact ⟨_, _, _, rfl, Nat.le_refl _, rfl⟩
  | ok data =>
      have length : data.length = chain.readableLen := by
        unfold DescriptorChain.readAll at read
        split at read
        · cases read
        · exact DescriptorChain.length_readBuffers read
      let frame := (data.drop headerLen).take (data.length - headerLen)
      have sliced : Checked.slice data headerLen (data.length - headerLen) = .ok frame := by
        rw [Checked.slice, if_pos (by omega)]
      simp only [sliced, bind, Except.bind, pure, Except.pure]
      obtain ⟨stocked, memory⟩ := send_frame n m frame
      exact ⟨_, _, _, rfl, Nat.le_of_eq stocked, memory⟩

theorem transmit_progressing : transmitService.Progressing stock fun _ _ => True :=
  .idle transmit_effect

-- Every delivery takes one frame out, fit or not.
theorem deliver_effect (n : Net) (m : Medium) (chain : DescriptorChain) :
    ∃ written n' m', n.deliver m chain = .ok (written, n', m') ∧ n'.backlog = n.backlog.tail ∧
      m'.memory.layout = m.memory.layout := by
  unfold deliver
  split
  · rename_i none
    exact ⟨_, _, _, rfl, by rw [none]; rfl, rfl⟩
  · rename_i frame rest split
    dsimp only
    have layout (memory : GuestMemory) :
        (chain.writeAll memory (receiveHeader ++ frame)).2.layout = memory.layout :=
      DescriptorChain.fill_layout ..
    split <;> split <;> exact ⟨_, _, _, rfl, by rw [split]; rfl, layout _⟩

theorem receive_lawful : receiveService.Lawful stock :=
  .of_effect fun n m chain => by
    obtain ⟨written, n', m', done, tail, layout⟩ := n.deliver_effect m chain
    refine ⟨written, n', m', done, ?_, layout⟩
    rw [stock, stock, tail, List.length_tail]
    exact Nat.sub_le _ _

theorem receive_returns (standing : Standing m₀ stock capacity n rings m) :
    ∃ served, receiveService.run n m rings rxQueue = .ok served := by
  refine run_returns fun q found =>
    drain_exhausts (fun {state} m chain hungry => ?_)
      (Nat.lt_of_le_of_lt standing.stocked (by decide) : stock n < bound)
  have waiting : state.backlog ≠ [] := by
    intro none
    rw [show receiveService.wants state = !state.backlog.isEmpty from rfl, none] at hungry
    cases hungry
  obtain ⟨written, n', m', done, tail, _⟩ := state.deliver_effect m chain
  refine ⟨written, n', m', done, ?_⟩
  rw [stock, stock, tail, List.length_tail]
  exact Nat.sub_lt (List.length_pos_iff.mpr waiting) Nat.one_pos

-- The link that has taken a frame, unless its backlog was full.
def accept (n : Net) (m : Medium) (data : List UInt8) : Net × Medium :=
  if capacity ≤ n.backlog.length then (n, m.warn "net: receive backlog full, dropping frame")
  else ({ n with backlog := n.backlog ++ [data] }, m)

theorem accept_standing (standing : Standing m₀ stock capacity n rings m) (data : List UInt8) :
    Standing m₀ stock capacity (n.accept m data).1 rings (n.accept m data).2 := by
  unfold accept
  split
  · exact ⟨standing.layout, standing.activated, standing.stocked⟩
  · rename_i room
    refine ⟨standing.layout, standing.activated, ?_⟩
    simp only [stock, List.length_append, List.length_singleton]
    omega

theorem notify_standing {i : Nat} (sound : m₀.Sound)
    (standing : Standing m₀ stock capacity n rings m) (done : n.notify m rings i = .ok served) :
    Standing m₀ stock capacity served.device served.rings served.medium := by
  unfold notify at done
  split at done
  · exact run_standing transmit_progressing.toLawful sound standing done
  split at done
  · exact run_standing receive_lawful sound standing done
  · cases done
    exact standing

theorem input_standing {data : List UInt8} (sound : m₀.Sound)
    (standing : Standing m₀ stock capacity n rings m) (done : n.input m rings data = .ok served) :
    Standing m₀ stock capacity served.device served.rings served.medium :=
  run_standing receive_lawful sound (accept_standing standing data) done

theorem bounded (sound : m₀.Sound) : Bounded m₀ stock capacity where
  acked _ _ := Nat.le_refl _
  configured _ _ _ := Nat.le_refl _
  reset _ := Nat.zero_le _
  notify := notify_standing sound
  input := input_standing sound

theorem notify_returns {i : Nat} (sound : m₀.Sound)
    (standing : Standing m₀ stock capacity n rings m) (apart : i = txQueue → Apart rings i) :
    ∃ served, n.notify m rings i = .ok served := by
  unfold notify
  split
  · rename_i tx
    exact run_finishes transmit_progressing sound standing (by decide) (apart tx)
      fun _ _ _ _ _ => trivial
  split
  · rename_i rx
    subst rx
    exact receive_returns standing
  · exact ⟨_, rfl⟩

end Net

namespace Virtio

variable {m₀ : GuestMemory} {ranges : List (GuestAddress × UInt64)}

-- In every session, calls come back as long as the driver keeps its index apart from the used ring
-- of the queue and, for what a console receives, hands out no empty buffers outside memory. What a
-- link receives comes back in any case.
theorem session_calls_return [Host] (built : GuestMemory.new ranges = .ok m₀) :
    (∀ (fresh c : Console) (rings : Rings) (m : Medium), fresh.buffered = [] →
      Session fresh m₀ c rings m →
      (∀ i, (i = Console.txQueue ∨ i = Console.rxQueue → Apart rings i) →
        (i = Console.rxQueue → Fillable Console.receiveService c m rings Console.rxQueue) →
        ∃ served, VirtioDevice.notify c m rings i = .ok served) ∧
      ∀ data, Apart rings Console.rxQueue →
        Fillable Console.receiveService (c.accept m data).1 (c.accept m data).2 rings
          Console.rxQueue →
        ∃ served, VirtioDevice.input c m rings data = .ok served) ∧
    ∀ (fresh n : Net) (rings : Rings) (m : Medium), fresh.backlog = [] →
      Session fresh m₀ n rings m →
      (∀ i, (i = Net.txQueue → Apart rings i) →
        ∃ served, VirtioDevice.notify n m rings i = .ok served) ∧
      ∀ data, ∃ served, VirtioDevice.input n m rings data = .ok served := by
  have sound : m₀.Sound := new_sound built
  constructor
  · intro fresh c rings m empty session
    have fits : fresh.stock ≤ Console.capacity := by simp [Console.stock, empty]
    have standing := session_standing (Console.bounded sound) fits session
    constructor
    · intro i apart fillable
      exact Console.notify_returns sound standing apart fillable
    · intro data apart fillable
      have accepted := Console.accept_standing standing data
      exact Console.receive_returns sound accepted apart fillable
  · intro fresh n rings m empty session
    have fits : fresh.stock ≤ Net.capacity := by simp [Net.stock, empty]
    have standing := session_standing (Net.bounded sound) fits session
    constructor
    · intro i apart
      exact Net.notify_returns sound standing apart
    · intro data
      exact Net.receive_returns (Net.accept_standing standing data)

-- A driver that has made one chain available in rings that lie apart.
theorem session_calls_return_apart :
    ∃ m₀ m rings q served, GuestMemory.new [(0, 0x10000)] = .ok m₀ ∧
      Session (Console.new .accepting) m₀ (Console.new .accepting) rings m ∧
      ring? rings Console.txQueue = some q ∧ q.hasAvailable m.memory = .ok true ∧
      Apart rings Console.txQueue ∧
      VirtioDevice.notify (Console.new .accepting) m rings Console.txQueue = .ok served := by
  let q : SplitQueue := ⟨1, 0x1000, 0x2000, 0x3000, 0, 0⟩
  let rings : Rings := [none, some q]
  have ran : ((GuestMemory.new [(0, 0x10000)]).toOption.any fun m₀ =>
      (m₀.writeObject 0x2002 [1, 0]).toOption.any fun m =>
        m.layout = m₀.layout && (q.hasAvailable m).toOption.any id) = true := by
    decide +kernel
  obtain ⟨m₀, built, ran⟩ := Checked.ok_of_any ran
  obtain ⟨memory, wrote, ran⟩ := Checked.ok_of_any ran
  obtain ⟨same, ran⟩ := Bool.and_eq_true_iff.mp ran
  obtain ⟨_, available, rfl⟩ := Checked.ok_of_any ran
  have activated : (⟨false, 256, 1, 0x1000, 0x2000, 0x3000⟩ : QueueConfig).activate =
      .ok (q, ⟨true, 256, 1, 0x1000, 0x2000, 0x3000⟩) := by rfl
  have session : Session (Console.new .accepting) m₀ (Console.new .accepting) rings ⟨memory, #[]⟩ :=
    .guest memory (.ready 1 (.start 2 #[]) activated) (of_decide_eq_true same)
  have apart : Apart rings Console.txQueue := by
    intro q' found x low high used
    cases found
    have below := used.1
    change x.toNat < 0x2000 + 4 at high
    change 0x3000 + 2 ≤ x.toNat at below
    omega
  obtain ⟨served, done⟩ := ((session_calls_return built).1 _ _ _ _ rfl session).1 Console.txQueue
    (fun _ => apart) (fun other => absurd other (by decide))
  exact ⟨m₀, _, rings, q, served, built, session, rfl, available, apart, done⟩

-- A ring of one slot that lies on top of itself.
def onTop (next used : UInt16) : SplitQueue := ⟨1, 0x1000, 0x2000, 0x2000, next, used⟩

section

variable {next used : UInt16}

theorem onTop_slot (position : UInt16) : (onTop next used).slot position = 0 := by
  simp [onTop, SplitQueue.slot]

theorem onTop_availIndex : (onTop next used).availRing.wrappingAdd 2 = 0x2002 := by
  change GuestAddress.wrappingAdd 0x2000 2 = 0x2002
  decide

theorem onTop_usedIndex : (onTop next used).usedRing.wrappingAdd 2 = 0x2002 := by
  change GuestAddress.wrappingAdd 0x2000 2 = 0x2002
  decide

theorem onTop_availSlot (position : UInt16) :
    (onTop next used).availSlotAddress position = 0x2004 := by
  rw [availSlotAddress, onTop_slot]
  rfl

theorem onTop_usedSlot (position : UInt16) :
    (onTop next used).usedSlotAddress position = 0x2004 := by
  rw [usedSlotAddress, onTop_slot]
  rfl

end

-- Such a ring when its position is one ahead of the index that giving chains back leaves in the
-- place of the index of the driver.
structure Stuck (m : GuestMemory) (n : UInt16) : Prop where
  sound : m.Sound
  layout : m.layout = [(0, 0x10000)]
  index : m.contents 0x2002 2 = Bytes.ofNat n.toNat 2
  slot : m.contents 0x2004 2 = [0, 0]
  table : m.contents 0x1000 16 = List.replicate 16 0

theorem Stuck.holds {m : GuestMemory} {n : UInt16} (stuck : Stuck m n) {a : GuestAddress}
    {count : Nat} (start : a.toNat < 0x10000) (fits : a.toNat + count ≤ 0x10000) :
    m.Holds a count := by
  have listed : ((0, 0x10000) : GuestAddress × Nat) ∈ m.layout := by simp [stuck.layout]
  exact holds_listed listed (Nat.zero_le _) start fits

-- What the ring offers is one chain of one empty buffer, over and over.
theorem Stuck.pop {m : GuestMemory} {n : UInt16} (stuck : Stuck m n) :
    ∃ chain, chain.head = 0 ∧
      (onTop (n + 1) n).pop m = (.ok (some chain), onTop (n + 1 + 1) n) := by
  have read : (onTop (n + 1) n).readAvailIndex m = .ok n := by
    have number : m.readNat 0x2002 2 = .ok n.toNat := by
      rw [readNat_holds stuck.sound (stuck.holds (by decide) (by decide)), stuck.index,
        Bytes.toNat_ofNat]
      exact congrArg Except.ok (Nat.mod_eq_of_lt n.toNat_lt)
    rw [readAvailIndex_number (onTop_availIndex ▸ number), UInt16.ofNat_toNat]
  have ahead : n ≠ n + 1 := by
    intro same
    have wraps := congrArg UInt16.toNat same
    have small := n.toNat_lt
    rw [UInt16.toNat_add] at wraps
    change n.toNat = (n.toNat + 1) % 2 ^ 16 at wraps
    omega
  have entry : m.readNat ((onTop (n + 1) n).availSlotAddress (n + 1)) 2 = .ok 0 := by
    rw [onTop_availSlot, readNat_holds stuck.sound (stuck.holds (by decide) (by decide)),
      stuck.slot]
    rfl
  have decoded : TableEntry.read m 0x1000 0 = .ok ⟨0, 0, 0, 0⟩ := by
    have table : m.readObject 0x1000 16 = .ok (List.replicate 16 0) := by
      rw [readObject_holds stuck.sound (stuck.holds (by decide) (by decide)), stuck.table]
    have address : GuestAddress.wrappingAdd 0x1000
        (UInt64.ofNat (DescriptorChain.entrySize * (0 : UInt16).toNat)) = 0x1000 := by decide
    rw [TableEntry.read, address, DescriptorChain.entrySize, table]
    rfl
  have made : DescriptorChain.new m 0x1000 1 0 = .ok ⟨0, [⟨0, 0, .readable⟩]⟩ := by
    have one : (1 : UInt16).toNat = 0 + 1 := rfl
    rw [DescriptorChain.new, one, DescriptorChain.walk, if_neg (by decide)]
    simp only [decoded]
    rfl
  exact ⟨_, rfl, pop_ahead read ahead entry made⟩

-- Giving the chain back makes it available again.
theorem Stuck.round {m : Medium} {n : UInt16} (stuck : Stuck m.memory n) (moved : Bool)
    (c : Console) :
    ∃ c' m', Console.transmitService.round ⟨moved, c, onTop (n + 1) n, m⟩ =
        .ok (true, ⟨true, c', onTop (n + 1 + 1) (n + 1), m'⟩) ∧ Stuck m'.memory (n + 1) := by
  obtain ⟨chain, head, popped⟩ := stuck.pop
  obtain ⟨written, c', medium, worked, _, same⟩ := c.transmit_effect m chain
  have sound : medium.memory.Sound := by
    rw [same]
    exact stuck.sound
  have element : medium.memory.Holds ((onTop (n + 1 + 1) n).usedSlotAddress n) 8 := by
    rw [onTop_usedSlot, same]
    exact stuck.holds (by decide) (by decide)
  have index : medium.memory.Holds ((onTop (n + 1 + 1) n).usedRing.wrappingAdd 2) 2 := by
    rw [onTop_usedIndex, same]
    exact stuck.holds (by decide) (by decide)
  obtain ⟨middle, final, returned, first, second⟩ :=
    addUsed_stores sound chain.head written element index
  refine ⟨c', { medium with memory := final }, round_serves rfl popped worked returned, ?_⟩
  have slot : (onTop (n + 1 + 1) n).usedSlotAddress (onTop (n + 1 + 1) n).nextUsed = 0x2004 :=
    onTop_usedSlot n
  rw [slot, same, head] at first
  rw [onTop_usedIndex] at second
  have element : (usedElement 0 written).length = 8 := length_usedElement 0 written
  have index : (Bytes.ofNat (n + 1).toNat 2).length = 2 := Bytes.length_ofNat _ _
  change middle.Wrote 0x2002 (Bytes.ofNat (n + 1).toNat 2) final at second
  have held : m.memory.Holds 0x2004 (usedElement 0 written).length :=
    stuck.holds (by decide) (by rw [element]; decide)
  have stored : middle.contents 0x2004 2 = (usedElement 0 written).take 2 :=
    first.read_back stuck.sound held (by rw [element]; decide)
  have soundMiddle := stuck.sound.congr first.layout
  have heldIndex : middle.Holds 0x2002 (Bytes.ofNat (n + 1).toNat 2).length :=
    (stuck.holds (by decide) (by rw [index]; decide)).congr first.layout
  refine ⟨soundMiddle.congr second.layout, ?_, ?_, ?_, ?_⟩
  · exact (second.layout.trans first.layout).trans stuck.layout
  · rw [second.read_back soundMiddle heldIndex (Nat.le_of_eq index.symm)]
    exact List.take_of_length_le (Nat.le_of_eq index)
  · rw [second.read_apart (by rw [index]; decide) (by decide), stored]
    rfl
  · rw [second.read_apart (.inl (by decide)) (by decide),
      first.read_apart (.inl (by decide)) (by decide), stuck.table]

theorem Stuck.drain {m : Medium} {n : UInt16} (stuck : Stuck m.memory n) (moved : Bool)
    (c : Console) (fuel : Nat) :
    Console.transmitService.drain fuel ⟨moved, c, onTop (n + 1) n, m⟩ = .error .unfinished := by
  refine drain_never (I := fun d => ∃ n, d.ring = onTop (n + 1) n ∧ Stuck d.medium.memory n) ?_
    ⟨n, rfl, stuck⟩ fuel
  rintro ⟨moved, c, ring, m⟩ ⟨n, rfl, stuck⟩
  obtain ⟨c', m', again, kept⟩ := stuck.round moved c
  exact ⟨_, again, n + 1, rfl, kept⟩

-- The driver names a chain that does not exist, which the ring counts as taken, and then takes its
-- index back. The next notification never returns.
theorem notify_endless :
    ∃ m₀ c rings m q, GuestMemory.new [(0, 0x10000)] = .ok m₀ ∧
      Session (Console.new .accepting) m₀ c rings m ∧ ring? rings Console.txQueue = some q ∧
      (∀ fuel, Console.transmitService.drain fuel ⟨false, c, q, m⟩ = .error .unfinished) ∧
      VirtioDevice.notify c m rings Console.txQueue = .error .unfinished := by
  let fresh := Console.new .accepting
  let start (m : GuestMemory) : Drained Console := ⟨false, fresh, onTop 0 0, ⟨m, #[]⟩⟩
  have ran : ((GuestMemory.new [(0, 0x10000)]).toOption.any fun m₀ =>
      (m₀.writeObject 0x2000 [0, 0, 1, 0, 9, 0]).toOption.any fun m =>
        (Console.transmitService.round (start m)).toOption.any fun r =>
          r.1 = false && r.2.ring = onTop 1 0 && m.layout = m₀.layout &&
            m₀.layout = [(0, 0x10000)] && m₀.contents 0x2002 4 = [0, 0, 0, 0] &&
            m₀.contents 0x1000 16 = List.replicate 16 0) = true := by
    decide +kernel
  obtain ⟨m₀, built, ran⟩ := Checked.ok_of_any ran
  obtain ⟨wrong, wrote, ran⟩ := Checked.ok_of_any ran
  obtain ⟨⟨more, d⟩, refused, ran⟩ := Checked.ok_of_any ran
  simp only [Bool.and_eq_true, decide_eq_true_eq] at ran
  obtain ⟨⟨⟨⟨⟨rfl, ring⟩, same⟩, layout⟩, index⟩, table⟩ := ran
  have activated : (⟨false, 256, 1, 0x1000, 0x2000, 0x2000⟩ : QueueConfig).activate =
      .ok (onTop 0 0, ⟨true, 256, 1, 0x1000, 0x2000, 0x2000⟩) := by rfl
  have ready : Session fresh m₀ fresh [none, some (onTop 0 0)] ⟨wrong, #[]⟩ :=
    .guest wrong (.ready 1 (.start 2 #[]) activated) same
  have notified : VirtioDevice.notify fresh ⟨wrong, #[]⟩ [none, some (onTop 0 0)] Console.txQueue =
      .ok ⟨d.moved, d.state, [none, some d.ring], d.medium⟩ := by
    have last : Console.transmitService.drain bound (start wrong) = .ok d := drain_last refused
    have found : ring? [none, some (onTop 0 0)] Console.txQueue = some (onTop 0 0) := rfl
    rw [Console.notify_transmit, Service.run, found]
    dsimp only
    rw [last]
    rfl
  have spent := Session.notified Console.txQueue ready notified
  have kept := (session_standing (Console.bounded (new_sound built)) (Nat.zero_le _) spent).layout
  have again := Session.guest m₀ spent kept.symm
  have stuck : Stuck m₀ 0 := ⟨new_sound built, layout, congrArg (List.take 2) index,
    congrArg (List.drop 2) index, table⟩
  have endless (fuel : Nat) : Console.transmitService.drain fuel
      ⟨false, d.state, onTop 1 0, ⟨m₀, d.medium.effects⟩⟩ = .error .unfinished :=
    Stuck.drain (m := ⟨m₀, d.medium.effects⟩) (n := 0) stuck false d.state fuel
  refine ⟨m₀, d.state, _, _, onTop 1 0, built, again, ?_, endless, ?_⟩
  · exact congrArg some ring
  · have found : ring? [none, some d.ring] Console.txQueue = some (onTop 1 0) := congrArg some ring
    rw [Console.notify_transmit, Service.run, found]
    dsimp only
    rw [endless bound]
    rfl

end Virtio

end VmMonitor
