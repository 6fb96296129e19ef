import VmMonitor.Proofs.Virtqueue.Contents
import VmMonitor.Proofs.Virtqueue.Slots

/-!
What the driver has made available and the device has not taken yet. Giving chains back writes to
memory that the device still has to read from; as long as the used ring lies apart from all that,
the chains behind the one that was taken stay what they were.
-/

namespace VmMonitor

open GuestMemory

namespace SplitQueue

open DescriptorChain

variable {q q' : SplitQueue} {m m' : GuestMemory} {head : UInt16} {len : UInt32}
  {chain : DescriptorChain} {chains : List DescriptorChain}

theorem slot_toNat (power : isPowerOfTwo q.size = true) (position : UInt16) :
    (q.slot position).toNat = position.toNat % q.size.toNat := by
  have counted := slot_ofNat power position.toNat
  rwa [UInt16.ofNat_toNat] at counted

theorem mod_size (power : isPowerOfTwo q.size = true) (count : Nat) :
    count % 65536 % q.size.toNat = count % q.size.toNat :=
  Nat.mod_mod_of_dvd _ (size_divides power)

-- Positions past the next one, which may have come round to zero.
theorem mod_next (power : isPowerOfTwo q.size = true) (count k : Nat) :
    ((count + 1) % 65536 + k) % q.size.toNat = (count + (k + 1)) % q.size.toNat := by
  rw [Nat.add_mod, mod_size power, ← Nat.add_mod, Nat.add_assoc, Nat.add_comm 1]

-- All fields of a ring can be accessed. As no access goes from one region on into the next, each
-- field lies in one.

structure AvailMapped (q : SplitQueue) (m : GuestMemory) : Prop where
  index : m.Holds (q.availRing + 2) 2
  slots : ∀ i < q.size.toNat, m.Holds (q.availRing + UInt64.ofNat (4 + 2 * i)) 2

structure UsedMapped (q : SplitQueue) (m : GuestMemory) : Prop where
  index : m.Holds (q.usedRing + 2) 2
  slots : ∀ i < q.size.toNat, m.Holds (q.usedRing + UInt64.ofNat (4 + 8 * i)) 8

theorem AvailMapped.congr (mapped : q.AvailMapped m) (same : m'.layout = m.layout) :
    q.AvailMapped m' :=
  ⟨mapped.index.congr same, fun i inside => (mapped.slots i inside).congr same⟩

theorem AvailMapped.same (place : SamePlace q q') (mapped : q.AvailMapped m) : q'.AvailMapped m := by
  unfold SamePlace at place
  rw [place]
  exact ⟨mapped.index, mapped.slots⟩

theorem AvailMapped.slot (mapped : q.AvailMapped m) (bounded : q.Bounded) (position : UInt16) :
    m.Holds (q.availSlotAddress position) 2 :=
  mapped.slots _ (slot_lt bounded.laidOut.size position)

theorem UsedMapped.congr (mapped : q.UsedMapped m) (same : m'.layout = m.layout) :
    q.UsedMapped m' :=
  ⟨mapped.index.congr same, fun i inside => (mapped.slots i inside).congr same⟩

theorem UsedMapped.same (place : SamePlace q q') (mapped : q.UsedMapped m) : q'.UsedMapped m := by
  unfold SamePlace at place
  rw [place]
  exact ⟨mapped.index, mapped.slots⟩

-- Such a used ring takes every chain that is given back.
theorem UsedMapped.takes (mapped : q.UsedMapped m) (sound : m.Sound) (laid : q.LaidOut)
    (head : UInt16) (len : UInt32) :
    ∃ m', q.addUsed m head len = (.ok (), { q with nextUsed := q.nextUsed + 1 }, m') := by
  have element : m.Holds (q.usedSlotAddress q.nextUsed) 8 :=
    mapped.slots _ (slot_lt laid.size q.nextUsed)
  obtain ⟨_, m', done, _⟩ := addUsed_stores sound head len element mapped.index
  exact ⟨m', done⟩

-- Giving a chain back leaves the other slots as they are.
theorem Gave.slot_kept {i : Nat} (bounded : q.Bounded) (gave : Gave q m head len q' m')
    (inside : i < q.size.toNat) (other : i ≠ q.nextUsed.toNat % q.size.toNat) :
    m'.contents (q.usedRing + UInt64.ofNat (4 + 8 * i)) 8 =
      m.contents (q.usedRing + UInt64.ofNat (4 + 8 * i)) 8 := by
  obtain ⟨middle, first, second⟩ := gave.stores
  have used := bounded.used
  have place := GuestAddress.toNat_add (a := q.usedRing) (i := 4 + 8 * i) (by omega)
  have index := bounded.laidOut.usedIndex
  have slot := bounded.laidOut.usedSlot q.nextUsed
  rw [slot_toNat bounded.power] at slot
  rw [second.read_apart (by rw [Bytes.length_ofNat]; omega) (by omega),
    first.read_apart (by rw [length_usedElement]; omega) (by omega)]

-- How many entries the driver is ahead.
def ahead (q : SplitQueue) (m : GuestMemory) : Nat :=
  (Bytes.toNat (m.contents (q.availRing + 2) 2) + 65536 - q.nextAvail.toNat) % 65536

-- The head in the entry at a position.
def headAt (q : SplitQueue) (m : GuestMemory) (position : Nat) : UInt16 :=
  UInt16.ofNat (Bytes.toNat
    (m.contents (q.availRing + UInt64.ofNat (4 + 2 * (position % q.size.toNat))) 2))

-- What the entries up to the index of the driver come to, in the order of the ring.
def available (q : SplitQueue) (m : GuestMemory) : List (Except ChainError DescriptorChain) :=
  (List.range (q.ahead m)).map fun k =>
    DescriptorChain.new m q.descTable q.size (q.headAt m (q.nextAvail.toNat + k))

-- The ring behind the next entry.
def taken (q : SplitQueue) : SplitQueue := { q with nextAvail := q.nextAvail + 1 }

theorem taken_place (q : SplitQueue) : SamePlace q q.taken := rfl

@[simp] theorem length_available (q : SplitQueue) (m : GuestMemory) :
    (q.available m).length = q.ahead m := by simp [available]

theorem ahead_taken {n : Nat} (more : q.ahead m = n + 1) : q.taken.ahead m = n := by
  have next : q.taken.nextAvail.toNat = (q.nextAvail.toNat + 1) % 65536 := UInt16.toNat_add _ _
  have index : Bytes.toNat (m.contents (q.availRing + 2) 2) < 65536 :=
    TableEntry.contents_lt m (q.availRing + 2) 2
  have position := q.nextAvail.toNat_lt
  unfold ahead at more ⊢
  rw [next]
  change (Bytes.toNat (m.contents (q.availRing + 2) 2) + 65536 - _) % 65536 = n
  omega

theorem headAt_taken (power : isPowerOfTwo q.size = true) (m : GuestMemory) (k : Nat) :
    q.taken.headAt m (q.taken.nextAvail.toNat + k) =
      q.headAt m (q.nextAvail.toNat + (k + 1)) := by
  have next : q.taken.nextAvail.toNat = (q.nextAvail.toNat + 1) % 65536 := UInt16.toNat_add _ _
  have same : (q.taken.nextAvail.toNat + k) % q.size.toNat =
      (q.nextAvail.toNat + (k + 1)) % q.size.toNat := by
    rw [next]
    exact mod_next power _ k
  change UInt16.ofNat (Bytes.toNat (m.contents (q.availRing +
    UInt64.ofNat (4 + 2 * ((q.taken.nextAvail.toNat + k) % q.size.toNat))) 2)) = _
  rw [same]
  rfl

theorem available_taken {first : Except ChainError DescriptorChain}
    {rest : List (Except ChainError DescriptorChain)} (power : isPowerOfTwo q.size = true)
    (listed : q.available m = first :: rest) :
    first = DescriptorChain.new m q.descTable q.size (q.headAt m q.nextAvail.toNat) ∧
      q.taken.available m = rest := by
  have count := congrArg List.length listed
  rw [length_available, List.length_cons] at count
  unfold available at listed
  rw [count, List.range_succ_eq_map, List.map_cons, List.map_map] at listed
  obtain ⟨rfl, later⟩ := List.cons.inj listed
  refine ⟨rfl, ?_⟩
  rw [← later, available, ahead_taken count]
  exact List.map_congr_left fun k _ =>
    congrArg (DescriptorChain.new m q.descTable q.size) (headAt_taken power m k)

-- What is available depends on the table and the available ring.
theorem available_local (sound : m.Sound) (bounded : q.Bounded) (layout : m'.layout = m.layout)
    (same : ∀ x, q.ReadByte x → m'.byte? x = m.byte? x) : q.available m' = q.available m := by
  have avail := bounded.avail
  have some := Nat.pos_of_ne_zero fun zero => bounded.laidOut.size (UInt16.toNat_inj.mp zero)
  have ring (i n : Nat) (fits : i + n ≤ 6 + 2 * q.size.toNat) :
      m'.contents (q.availRing + UInt64.ofNat i) n = m.contents (q.availRing + UInt64.ofNat i) n := by
    have place := GuestAddress.toNat_add (a := q.availRing) (i := i) (by omega)
    exact contents_congr (fun x low high => same x (.inr (by omega))) (by omega)
  have ahead : q.ahead m' = q.ahead m := by
    unfold SplitQueue.ahead
    rw [show q.availRing + 2 = q.availRing + UInt64.ofNat 2 from rfl, ring 2 2 (by omega)]
  have heads (position : Nat) : q.headAt m' position = q.headAt m position := by
    have inside := Nat.mod_lt position some
    unfold headAt
    rw [ring _ 2 (by omega)]
  unfold available
  rw [ahead]
  refine List.map_congr_left fun k _ => ?_
  rw [heads]
  exact new_local sound layout bounded.table fun x low high => same x (.inl ⟨low, high⟩)

-- Taking from a ring of which it is known what it has available.

theorem ahead_zero_iff : q.ahead m = 0 ↔
    UInt16.ofNat (Bytes.toNat (m.contents (q.availRing + 2) 2)) = q.nextAvail := by
  have index : Bytes.toNat (m.contents (q.availRing + 2) 2) < 65536 :=
    TableEntry.contents_lt m (q.availRing + 2) 2
  have position := q.nextAvail.toNat_lt
  conv_rhs => rw [← UInt16.ofNat_toNat (x := q.nextAvail)]
  rw [ofNat_eq_iff index, ahead]
  omega

theorem pop_exhausted (sound : m.Sound) (mapped : q.AvailMapped m)
    (nothing : q.available m = []) : q.pop m = (.ok none, q) := by
  have count := congrArg List.length nothing
  rw [length_available] at count
  have answer : (q.pop m).1 = .ok none :=
    pop_none_iff.mpr ((hasAvailable_iff sound).mpr
      ⟨mapped.index, (bne_eq_false_iff_eq.mpr (ahead_zero_iff.mp count)).symm⟩)
  exact Prod.ext answer (pop_none (Prod.ext answer rfl))

theorem pop_first {rest : List (Except ChainError DescriptorChain)} (sound : m.Sound)
    (bounded : q.Bounded) (mapped : q.AvailMapped m) (listed : q.available m = .ok chain :: rest) :
    q.pop m = (.ok (some chain), q.taken) := by
  have count := congrArg List.length listed
  rw [length_available, List.length_cons] at count
  have ahead : UInt16.ofNat (Bytes.toNat (m.contents (q.availRing + 2) 2)) ≠ q.nextAvail :=
    fun same => absurd (ahead_zero_iff.mpr same) (by omega)
  have available : q.hasAvailable m = .ok true :=
    (hasAvailable_iff sound).mpr ⟨mapped.index, (bne_iff_ne.mpr ahead).symm⟩
  have slot := readNat_holds sound (mapped.slot bounded q.nextAvail)
  have entry : UInt16.ofNat (Bytes.toNat (m.contents (q.availSlotAddress q.nextAvail) 2)) =
      q.headAt m q.nextAvail.toNat := by
    rw [availSlotAddress, slot_toNat bounded.power]
    rfl
  have answer : (q.pop m).1 = .ok (some chain) := by
    rw [pop_available available slot, entry, ← (available_taken bounded.power listed).1]
    rfl
  exact Prod.ext answer (pop_chain (Prod.ext answer rfl)).2.1

-- A ring with chains to be read, none of which giving chains back gets in the way of.
structure Presents (q : SplitQueue) (m : GuestMemory) (chains : List DescriptorChain) : Prop where
  avail : q.AvailMapped m
  used : q.UsedMapped m
  offered : q.available m = chains.map .ok
  apart : ∀ x, q.UsedByte x → ¬ q.ReadByte x
  clear : ∀ c ∈ chains, ∀ d ∈ c.readable, ∀ x, d.Covers x → ¬ q.UsedByte x

theorem Presents.length (presents : q.Presents m chains) : chains.length = q.ahead m := by
  have count := congrArg List.length presents.offered
  rw [length_available, List.length_map] at count
  exact count.symm

-- Giving the first chain back leaves the others as they were.
theorem Presents.next (presents : q.Presents m (chain :: chains)) (sound : m.Sound)
    (bounded : q.Bounded) (returned : q.taken.addUsed m head len = (.ok (), q', m')) :
    q'.Presents m' chains ∧ ∀ c ∈ chains, joined m' c.readable = joined m c.readable := by
  have given := addUsed_returned sound (bounded.laidOut.same q.taken_place) head len
  rw [returned] at given
  have place : SamePlace q q' := q.taken_place.trans given.place
  have moved : q' = { q.taken with nextUsed := q'.nextUsed } := by
    have moved := (addUsed_done sound returned).moved
    rw [moved]
  have kept (x : GuestAddress) (outside : ¬ q.UsedByte x) : m'.byte? x = m.byte? x :=
    given.kept x outside
  have listed : q.taken.available m = chains.map .ok :=
    (available_taken bounded.power presents.offered).2
  have again : q'.available m' = chains.map .ok := by
    rw [moved]
    change q.taken.available m' = _
    rw [← listed]
    exact available_local sound (bounded.same q.taken_place) given.layout fun x read =>
      kept x fun used => presents.apart x used read
  have unread : ∀ c ∈ chains, ∀ d ∈ c.readable, ∀ x, d.Covers x → ¬ q.UsedByte x :=
    fun c later => presents.clear c (.tail _ later)
  constructor
  · refine ⟨(presents.avail.same place).congr given.layout,
      (presents.used.same place).congr given.layout, again, ?_, ?_⟩
    · unfold SamePlace at place
      rw [place]
      exact presents.apart
    · unfold SamePlace at place
      rw [place]
      exact unread
  · intro c later
    have accepted : .ok c ∈ q.taken.available m := listed ▸ List.mem_map_of_mem later
    obtain ⟨k, _, made⟩ := List.mem_map.mp accepted
    exact joined_kept sound
      (fun d here => new_placed made d (List.mem_filter.mp here).1)
      fun d here x covers => kept x (unread c later d here x covers)

end SplitQueue

end VmMonitor
