import VmMonitor.Proofs.Virtio.Entries
import VmMonitor.Proofs.Virtio.Programmed
import VmMonitor.Proofs.Virtqueue.Walk

/-!
Where in the rings a queue reads and writes. Its positions are counters of sixteen bits that run
over, and the slot of a position is cut out of it with a mask; as every size divides the range of the
counters, the slots follow the entries and chains as if they were counted without an end.
-/

namespace VmMonitor

open GuestMemory

namespace DescriptorChain

variable {m m' : GuestMemory} {table : GuestAddress} {queueSize head i : UInt16} {t : Tally}

-- A walk looks at the entries of its table and at nothing else in memory.

theorem read_local (sound : m.Sound) (layout : m'.layout = m.layout)
    (fits : table.toNat + 16 * queueSize.toNat < UInt64.size)
    (same : ∀ x : GuestAddress, table.toNat ≤ x.toNat →
      x.toNat < table.toNat + 16 * queueSize.toNat → m'.byte? x = m.byte? x)
    (inside : i < queueSize) : TableEntry.read m' table i = TableEntry.read m table i := by
  have below := UInt16.lt_iff_toNat_lt.mp inside
  have place : (table.wrappingAdd (UInt64.ofNat (entrySize * i.toNat))).toNat =
      table.toNat + 16 * i.toNat :=
    GuestAddress.toNat_add (i := 16 * i.toNat) (by omega)
  have object : m'.readObject (table.wrappingAdd (UInt64.ofNat (entrySize * i.toNat))) entrySize =
      m.readObject (table.wrappingAdd (UInt64.ofNat (entrySize * i.toNat))) entrySize := by
    refine readObject_local sound layout fun x low high => ?_
    rw [place] at low high
    rw [entrySize] at high
    exact same x (by omega) (by omega)
  unfold TableEntry.read
  dsimp only
  rw [object]

theorem accept_layout {d : Descriptor} (layout : m'.layout = m.layout) :
    accept m' head i t d = accept m head i t d := by
  unfold accept
  rw [validRange_layout layout]

theorem walk_local (sound : m.Sound) (layout : m'.layout = m.layout)
    (fits : table.toNat + 16 * queueSize.toNat < UInt64.size)
    (same : ∀ x : GuestAddress, table.toNat ≤ x.toNat →
      x.toNat < table.toNat + 16 * queueSize.toNat → m'.byte? x = m.byte? x) (room : Nat) :
    walk m' table queueSize head room i t = walk m table queueSize head room i t := by
  induction room generalizing i t with
  | zero =>
      unfold walk
      rfl
  | succ room ih =>
      unfold walk
      split
      · rfl
      rename_i inside
      rw [read_local sound layout fits same (UInt16.not_le.mp inside)]
      dsimp only
      cases TableEntry.read m table i with
      | error cause => rfl
      | ok e =>
          dsimp only
          rw [accept_layout layout]
          cases accept m head i t e.descriptor with
          | error cause => rfl
          | ok t' =>
              dsimp only
              cases e.next? with
              | none => rfl
              | some j =>
                  dsimp only
                  rw [ih]

theorem new_local (sound : m.Sound) (layout : m'.layout = m.layout)
    (fits : table.toNat + 16 * queueSize.toNat < UInt64.size)
    (same : ∀ x : GuestAddress, table.toNat ≤ x.toNat →
      x.toNat < table.toNat + 16 * queueSize.toNat → m'.byte? x = m.byte? x) :
    new m' table queueSize head = new m table queueSize head := by
  unfold new
  rw [walk_local sound layout fits same]

end DescriptorChain

namespace SplitQueue

variable {q q' start : SplitQueue} {m m' m₀ : GuestMemory} {head : UInt16} {len : UInt32}
  {taken given : Nat}

-- A size that is a power of two divides the range of a position.
theorem size_divides (power : isPowerOfTwo q.size = true) : q.size.toNat ∣ 2 ^ 16 := by
  obtain ⟨e, size⟩ := QueueConfig.isPowerOfTwo_toNat power
  have small := q.size.toNat_lt
  rw [size] at small ⊢
  exact Nat.pow_dvd_pow 2 (Nat.le_of_lt ((Nat.pow_lt_pow_iff_right (by decide)).mp small))

theorem slot_ofNat (power : isPowerOfTwo q.size = true) (count : Nat) :
    (q.slot (UInt16.ofNat count)).toNat = count % q.size.toNat := by
  have divides := size_divides power
  obtain ⟨e, size⟩ := QueueConfig.isPowerOfTwo_toNat power
  rw [size] at divides
  have one : (1 : UInt16) ≤ q.size :=
    UInt16.le_iff_toNat_le.mpr (by rw [size]; exact Nat.one_le_two_pow)
  rw [slot, UInt16.toNat_and, UInt16.toNat_sub_of_le _ _ one, size, UInt16.toNat_ofNat']
  change count % 2 ^ 16 &&& (2 ^ e - 1) = _
  rw [Nat.and_two_pow_sub_one_eq_mod, Nat.mod_mod_of_dvd _ divides]

-- The areas as activation has checked them.
structure Bounded (q : SplitQueue) : Prop where
  power : isPowerOfTwo q.size = true
  table : q.descTable.toNat + 16 * q.size.toNat < UInt64.size
  avail : q.availRing.toNat + (6 + 2 * q.size.toNat) < UInt64.size
  used : q.usedRing.toNat + (6 + 8 * q.size.toNat) < UInt64.size

theorem Bounded.laidOut (bounded : q.Bounded) : q.LaidOut := by
  have avail := bounded.avail
  have used := bounded.used
  refine ⟨fun zero => ?_, by omega, by omega⟩
  have power := bounded.power
  rw [zero] at power
  exact absurd power (by decide)

theorem Bounded.same (place : SamePlace q q') (bounded : q.Bounded) : q'.Bounded := by
  unfold SamePlace at place
  rw [place]
  exact ⟨bounded.power, bounded.table, bounded.avail, bounded.used⟩

theorem activate_bounded {c c' : QueueConfig} (activated : c.activate = .ok (q, c')) :
    q.Bounded ∧ q.nextAvail = 0 ∧ q.nextUsed = 0 := by
  obtain ⟨_, made, power, _⟩ := QueueConfig.activate_parts activated
  obtain ⟨rfl, below⟩ := new_parts made
  refine ⟨⟨power, ?_, ?_, ?_⟩, rfl, rfl⟩
  · exact below ("descriptor table", c.descTable, 16 * c.size.toNat) (by simp [areas])
  · exact below ("available ring", c.availRing, 6 + 2 * c.size.toNat) (by simp [areas])
  · exact below ("used ring", c.usedRing, 6 + 8 * c.size.toNat) (by simp [areas])

theorem Activated.bounded (activated : q.Activated) : q.Bounded := by
  obtain ⟨_, _, _, done, place⟩ := activated
  exact (activate_bounded done).1.same place

-- An answer of `pop` that consumed an entry of the available ring, whether or not it named a chain.
def Consumed (answer : Except QueueError (Option DescriptorChain)) : Prop :=
  (∃ chain, answer = .ok (some chain)) ∨ ∃ cause, answer = .error (.chain cause)

-- A queue in use, with the entries it has consumed and the chains it has given back since it was
-- activated. Between its calls memory may become anything on the same regions.
inductive InUse (m₀ : GuestMemory) (start : SplitQueue) :
    SplitQueue → GuestMemory → Nat → Nat → Prop
  | start : InUse m₀ start start m₀ 0 0
  | memory {q : SplitQueue} {m m' : GuestMemory} {taken given : Nat}
      (earlier : InUse m₀ start q m taken given) (layout : m'.layout = m.layout) :
      InUse m₀ start q m' taken given
  | consumed {q q' : SplitQueue} {m : GuestMemory} {taken given : Nat}
      {answer : Except QueueError (Option DescriptorChain)}
      (earlier : InUse m₀ start q m taken given) (popped : q.pop m = (answer, q'))
      (consumed : Consumed answer) : InUse m₀ start q' m (taken + 1) given
  | idle {q q' : SplitQueue} {m : GuestMemory} {taken given : Nat}
      {answer : Except QueueError (Option DescriptorChain)}
      (earlier : InUse m₀ start q m taken given) (popped : q.pop m = (answer, q'))
      (nothing : ¬ Consumed answer) : InUse m₀ start q' m taken given
  | returned {q q' : SplitQueue} {m m' : GuestMemory} {taken given : Nat} {head : UInt16}
      {len : UInt32} (earlier : InUse m₀ start q m taken given)
      (done : q.addUsed m head len = (.ok (), q', m')) : InUse m₀ start q' m' taken (given + 1)
  | refused {q q' : SplitQueue} {m m' : GuestMemory} {taken given : Nat} {head : UInt16}
      {len : UInt32} {e : QueueError} (earlier : InUse m₀ start q m taken given)
      (failed : q.addUsed m head len = (.error e, q', m')) : InUse m₀ start q' m' taken given

-- The positions are the counts, cut to sixteen bits. Where the index of the used ring cannot be
-- stored, the position of the used ring means nothing, and no chain is ever given back.
structure Counted (m₀ : GuestMemory) (start q : SplitQueue) (m : GuestMemory) (taken given : Nat) :
    Prop where
  place : SamePlace start q
  layout : m.layout = m₀.layout
  taken : q.nextAvail = UInt16.ofNat taken
  given : m.Holds (q.usedRing.wrappingAdd 2) 2 → q.nextUsed = UInt16.ofNat given

theorem ofNat_eq_iff {n count : Nat} (small : n < 65536) :
    UInt16.ofNat n = UInt16.ofNat count ↔ n = count % 65536 := by
  rw [← UInt16.toNat_inj, UInt16.toNat_ofNat', UInt16.toNat_ofNat']
  change n % 65536 = count % 65536 ↔ _
  rw [Nat.mod_eq_of_lt small]

theorem ofNat_succ (n : Nat) : UInt16.ofNat n + 1 = UInt16.ofNat (n + 1) :=
  (UInt16.ofNat_add n 1).symm

theorem pop_consumed {answer : Except QueueError (Option DescriptorChain)}
    (popped : q.pop m = (answer, q')) (consumed : Consumed answer) :
    q' = { q with nextAvail := q.nextAvail + 1 } := by
  rcases consumed with ⟨chain, rfl⟩ | ⟨cause, rfl⟩
  · exact (pop_chain popped).2.1
  · rcases pop_error popped with ⟨_, _, moved⟩ | ⟨other, _⟩
    · exact moved
    · exact absurd rfl (other cause)

theorem pop_idle {answer : Except QueueError (Option DescriptorChain)}
    (popped : q.pop m = (answer, q')) (nothing : ¬ Consumed answer) : q' = q := by
  match answer with
  | .ok none => exact pop_none popped
  | .ok (some chain) => exact absurd (.inl ⟨chain, rfl⟩) nothing
  | .error e =>
      rcases pop_error popped with ⟨cause, rfl, _⟩ | ⟨_, same⟩
      · exact absurd (.inr ⟨cause, rfl⟩) nothing
      · exact same

-- Giving a chain back takes both stores, of the element and of the index.
structure Gave (q : SplitQueue) (m : GuestMemory) (head : UInt16) (len : UInt32) (q' : SplitQueue)
    (m' : GuestMemory) : Prop where
  moved : q' = { q with nextUsed := q.nextUsed + 1 }
  element : m.Holds (q.usedSlotAddress q.nextUsed) 8
  index : m.Holds (q.usedRing.wrappingAdd 2) 2
  stores : ∃ middle, m.Wrote (q.usedSlotAddress q.nextUsed) (usedElement head len) middle ∧
    middle.Wrote (q.usedRing.wrappingAdd 2) (Bytes.ofNat (q.nextUsed + 1).toNat 2) m'

theorem addUsed_done (sound : m.Sound) (done : q.addUsed m head len = (.ok (), q', m')) :
    Gave q m head len q' m' := by
  unfold addUsed at done
  split at done
  · cases done
  rename_i middle stored
  obtain ⟨element, first⟩ := writeObject_wrote sound stored
  rw [length_usedElement] at element
  dsimp only at done
  split at done
  · cases done
  rename_i final written
  obtain ⟨index, second⟩ := writeObject_wrote (sound.congr first.layout) written
  rw [Bytes.length_ofNat] at index
  cases done
  exact ⟨rfl, element, index.congr first.layout.symm, middle, first, second⟩

theorem Gave.layout (gave : Gave q m head len q' m') : m'.layout = m.layout := by
  obtain ⟨middle, first, second⟩ := gave.stores
  exact second.layout.trans first.layout

-- It fails without a trace, or because there is no place for the index.
theorem addUsed_failed {e : QueueError} (sound : m.Sound)
    (failed : q.addUsed m head len = (.error e, q', m')) :
    (q' = q ∧ m' = m) ∨
      q' = { q with nextUsed := q.nextUsed + 1 } ∧ m'.layout = m.layout ∧
        ¬ m.Holds (q.usedRing.wrappingAdd 2) 2 := by
  unfold addUsed at failed
  split at failed
  · cases failed
    exact .inl ⟨rfl, rfl⟩
  rename_i middle stored
  have first := (writeObject_wrote sound stored).2
  dsimp only at failed
  split at failed
  · rename_i refused
    cases failed
    refine .inr ⟨rfl, first.layout, fun index => ?_⟩
    obtain ⟨_, written, _⟩ : ∃ final, m'.writeObject (q.usedRing.wrappingAdd 2)
        (Bytes.ofNat (q.nextUsed + 1).toNat 2) = .ok final ∧ _ :=
      writeObject_holds (sound.congr first.layout) (index.congr first.layout)
    rw [writeNat, written] at refused
    cases refused
  · cases failed

theorem counted (sound : m₀.Sound) (fresh : start.nextAvail = 0 ∧ start.nextUsed = 0)
    (use : InUse m₀ start q m taken given) : Counted m₀ start q m taken given := by
  induction use with
  | start => exact ⟨.refl start, rfl, fresh.1, fun _ => fresh.2⟩
  | memory _ layout ih =>
      exact ⟨ih.place, layout.trans ih.layout, ih.taken,
        fun holds => ih.given (holds.congr layout.symm)⟩
  | consumed _ popped consumed ih =>
      rw [pop_consumed popped consumed]
      refine ⟨ih.place.trans rfl, ih.layout, ?_, ih.given⟩
      exact (congrArg (· + 1) ih.taken).trans (ofNat_succ _)
  | idle _ popped nothing ih =>
      rw [pop_idle popped nothing]
      exact ih
  | returned _ done ih =>
      have gave := addUsed_done (sound.congr ih.layout) done
      rw [gave.moved]
      refine ⟨ih.place.trans rfl, gave.layout.trans ih.layout, ih.taken, fun _ => ?_⟩
      exact (congrArg (· + 1) (ih.given gave.index)).trans (ofNat_succ _)
  | refused _ failed ih =>
      rcases addUsed_failed (sound.congr ih.layout) failed with ⟨rfl, rfl⟩ | ⟨rfl, layout, none⟩
      · exact ih
      · exact ⟨ih.place.trans rfl, layout.trans ih.layout, ih.taken,
          fun index => absurd (index.congr layout.symm) none⟩

-- Taking entries.

theorem LaidOut.availSlot (laid : q.LaidOut) (position : UInt16) :
    (q.availSlotAddress position).toNat =
      q.availRing.toNat + (4 + 2 * (q.slot position).toNat) := by
  have slot := slot_lt laid.size position
  have avail := laid.avail
  exact GuestAddress.toNat_add (by omega)

theorem hasAvailable_iff (sound : m.Sound) {ahead : Bool} :
    q.hasAvailable m = .ok ahead ↔ m.Holds (q.availRing.wrappingAdd 2) 2 ∧
      ahead = (UInt16.ofNat (Bytes.toNat (m.contents (q.availRing.wrappingAdd 2) 2)) !=
        q.nextAvail) := by
  constructor
  · intro available
    obtain ⟨i, read, compared⟩ := Checked.bind_eq_ok.mp available
    unfold readAvailIndex at read
    split at read
    · rename_i number done
      obtain ⟨data, object, done⟩ := Checked.bind_eq_ok.mp done
      obtain ⟨holds, rfl⟩ := readObject_ok sound object
      cases done
      cases read
      exact ⟨holds, (Except.ok.inj compared).symm⟩
    · cases read
  · rintro ⟨holds, rfl⟩
    rw [hasAvailable, readAvailIndex_number (readNat_holds sound holds)]
    rfl

theorem pop_none_iff : (q.pop m).1 = .ok none ↔ q.hasAvailable m = .ok false := by
  unfold pop
  cases q.hasAvailable m with
  | error e => exact ⟨nofun, nofun⟩
  | ok ahead =>
      cases ahead with
      | false => exact ⟨fun _ => rfl, fun _ => rfl⟩
      | true =>
          dsimp only
          split
          · exact ⟨nofun, nofun⟩
          · split <;> exact ⟨nofun, nofun⟩

theorem pop_available (available : q.hasAvailable m = .ok true) {number : Nat}
    (slot : m.readNat (q.availSlotAddress q.nextAvail) 2 = .ok number) :
    (q.pop m).1 = ((DescriptorChain.new m q.descTable q.size (UInt16.ofNat number)).map
      some).mapError .chain := by
  unfold pop
  rw [available]
  dsimp only
  rw [slot]
  dsimp only
  cases DescriptorChain.new m q.descTable q.size (UInt16.ofNat number) <;> rfl

theorem consumed_made (made : Except ChainError DescriptorChain) :
    Consumed ((made.map some).mapError .chain) := by
  cases made with
  | ok chain => exact .inl ⟨chain, rfl⟩
  | error cause => exact .inr ⟨cause, rfl⟩

-- A ring that one region holds is never in the way.
theorem pop_whole (sound : m.Sound) (laid : q.LaidOut)
    (mapped : m.Holds q.availRing (6 + 2 * q.size.toNat)) :
    (q.pop m).1 = .ok none ∨ Consumed (q.pop m).1 := by
  have index := laid.availIndex
  have place := laid.availSlot q.nextAvail
  have slot := slot_lt laid.size q.nextAvail
  have published : m.Holds (q.availRing.wrappingAdd 2) 2 :=
    mapped.within (by omega) (by omega) (by decide)
  have entry : m.Holds (q.availSlotAddress q.nextAvail) 2 :=
    mapped.within (by omega) (by omega) (by decide)
  cases ahead : UInt16.ofNat (Bytes.toNat (m.contents (q.availRing.wrappingAdd 2) 2)) !=
    q.nextAvail with
  | false => exact .inl (pop_none_iff.mpr ((hasAvailable_iff sound).mpr ⟨published, ahead.symm⟩))
  | true =>
      have available := (hasAvailable_iff sound).mpr ⟨published, ahead.symm⟩
      rw [pop_available available (readNat_holds sound entry)]
      exact .inr (consumed_made _)

-- An entry is consumed only where both the index and the entry can be read.
theorem consumed_parts (consumed : Consumed (q.pop m).1) :
    q.hasAvailable m = .ok true ∧
      ∃ number, m.readNat (q.availSlotAddress q.nextAvail) 2 = .ok number := by
  unfold pop at consumed
  split at consumed
  · rename_i failed
    rcases consumed with ⟨chain, answer⟩ | ⟨cause, answer⟩ <;> cases answer
    unfold hasAvailable readAvailIndex at failed
    split at failed <;> cases failed
  · rcases consumed with ⟨chain, answer⟩ | ⟨cause, answer⟩ <;> cases answer
  · rename_i available
    split at consumed
    · rcases consumed with ⟨chain, answer⟩ | ⟨cause, answer⟩ <;> cases answer
    · rename_i number slot
      exact ⟨available, number, slot⟩

theorem pop_entry (sound : m.Sound) (consumed : Consumed (q.pop m).1) :
    m.Holds (q.availSlotAddress q.nextAvail) 2 ∧
      (q.pop m).1 = ((DescriptorChain.new m q.descTable q.size (UInt16.ofNat (Bytes.toNat
        (m.contents (q.availSlotAddress q.nextAvail) 2)))).map some).mapError .chain := by
  obtain ⟨available, number, slot⟩ := consumed_parts consumed
  obtain ⟨data, object, done⟩ := Checked.bind_eq_ok.mp slot
  obtain ⟨holds, rfl⟩ := readObject_ok sound object
  cases done
  exact ⟨holds, pop_available available slot⟩

-- The addresses of the table and of the available ring.
def ReadByte (q : SplitQueue) (x : GuestAddress) : Prop :=
  (q.descTable.toNat ≤ x.toNat ∧ x.toNat < q.descTable.toNat + 16 * q.size.toNat) ∨
    (q.availRing.toNat ≤ x.toNat ∧ x.toNat < q.availRing.toNat + (6 + 2 * q.size.toNat))

theorem readNat_local {a : GuestAddress} {n : Nat} (sound : m.Sound) (layout : m'.layout = m.layout)
    (same : ∀ x : GuestAddress, a.toNat ≤ x.toNat → x.toNat < a.toNat + n →
      m'.byte? x = m.byte? x) : m'.readNat a n = m.readNat a n := by
  unfold readNat
  rw [readObject_local sound layout same]

-- Memory that is the same there gives the same answer.
theorem pop_local (sound : m.Sound) (bounded : q.Bounded) (layout : m'.layout = m.layout)
    (same : ∀ x, q.ReadByte x → m'.byte? x = m.byte? x) : q.pop m' = q.pop m := by
  have laid := bounded.laidOut
  have index := laid.availIndex
  have place := laid.availSlot q.nextAvail
  have slot := slot_lt laid.size q.nextAvail
  have ring (x : GuestAddress) (low : q.availRing.toNat ≤ x.toNat)
      (high : x.toNat < q.availRing.toNat + (6 + 2 * q.size.toNat)) : m'.byte? x = m.byte? x :=
    same x (.inr ⟨low, high⟩)
  have available : q.hasAvailable m' = q.hasAvailable m := by
    unfold hasAvailable readAvailIndex
    rw [readNat_local sound layout fun x low high => ring x (by omega) (by omega)]
  have entry : m'.readNat (q.availSlotAddress q.nextAvail) 2 =
      m.readNat (q.availSlotAddress q.nextAvail) 2 :=
    readNat_local sound layout fun x low high => ring x (by omega) (by omega)
  have made (head : UInt16) : DescriptorChain.new m' q.descTable q.size head =
      DescriptorChain.new m q.descTable q.size head :=
    DescriptorChain.new_local sound layout bounded.table fun x low high =>
      same x (.inl ⟨low, high⟩)
  unfold pop
  rw [available, entry]
  simp only [made]

-- Giving back.

theorem Gave.contents (sound : m.Sound) (laid : q.LaidOut) (gave : Gave q m head len q' m') :
    m'.contents (q.usedSlotAddress q.nextUsed) 8 = usedElement head len ∧
      m'.contents (q.usedRing.wrappingAdd 2) 2 = Bytes.ofNat (q.nextUsed + 1).toNat 2 := by
  obtain ⟨middle, first, second⟩ := gave.stores
  have sound' := sound.congr first.layout
  have place := laid.usedSlot q.nextUsed
  have index := laid.usedIndex
  have below := sound.fits gave.element
  have stored := first.read_back sound gave.element (Nat.le_refl 8)
  have announced := second.read_back sound' (gave.index.congr first.layout) (Nat.le_refl 2)
  constructor
  · rw [second.read_apart (.inr (by rw [Bytes.length_ofNat]; omega)) below, stored]
    exact List.take_of_length_le (Nat.le_of_eq (length_usedElement ..))
  · rw [announced]
    exact List.take_of_length_le (Nat.le_of_eq (Bytes.length_ofNat ..))

-- What a queue does with its rings when it has consumed `taken` entries and given back `given`
-- chains. The index and the slots are read and written as they lie in memory; an area is mapped if
-- one region holds it, since no access goes from one region on into the next.
structure Positioned (q : SplitQueue) (m : GuestMemory) (taken given : Nat) : Prop where
  -- No area wraps.
  areas : q.descTable.toNat + 16 * q.size.toNat < 2 ^ 64 ∧
    q.availRing.toNat + (6 + 2 * q.size.toNat) < 2 ^ 64 ∧
    q.usedRing.toNat + (6 + 8 * q.size.toNat) < 2 ^ 64
  none_iff : (q.pop m).1 = .ok none ↔ m.Holds (q.availRing + 2) 2 ∧
    Bytes.toNat (m.contents (q.availRing + 2) 2) = taken % 65536
  entry : Consumed (q.pop m).1 →
    m.Holds (q.availRing + UInt64.ofNat (4 + 2 * (taken % q.size.toNat))) 2 ∧
    (q.pop m).1 = ((DescriptorChain.new m q.descTable q.size (UInt16.ofNat (Bytes.toNat (m.contents
      (q.availRing + UInt64.ofNat (4 + 2 * (taken % q.size.toNat))) 2)))).map some).mapError .chain
  avail_mapped : m.Holds q.availRing (6 + 2 * q.size.toNat) →
    ((q.pop m).1 = .ok none ↔
      Bytes.toNat (m.contents (q.availRing + 2) 2) = taken % 65536) ∧
    ((q.pop m).1 = .ok none ∨ Consumed (q.pop m).1)
  element : ∀ head len q' m', q.addUsed m head len = (.ok (), q', m') →
    m'.contents (q.usedRing + UInt64.ofNat (4 + 8 * (given % q.size.toNat))) 8 =
        Bytes.ofNat head.toNat 4 ++ Bytes.ofNat len.toNat 4 ∧
      m'.contents (q.usedRing + 2) 2 = Bytes.ofNat ((given + 1) % 65536) 2
  used_mapped : m.Holds q.usedRing (6 + 8 * q.size.toNat) →
    ∀ head len, (q.addUsed m head len).1 = .ok ()
  -- All that is read lies in the table and in the available ring, all that is written in the used
  -- ring.
  reads : ∀ m', m'.layout = m.layout → (∀ x, q.ReadByte x → m'.byte? x = m.byte? x) →
    q.pop m' = q.pop m
  writes : ∀ head len x, (q.addUsed m head len).2.2.byte? x ≠ m.byte? x →
    q.usedRing.toNat ≤ x.toNat ∧ x.toNat < q.usedRing.toNat + (6 + 8 * q.size.toNat)

theorem InUse.positioned (sound : m₀.Sound) (bounded : start.Bounded)
    (fresh : start.nextAvail = 0 ∧ start.nextUsed = 0) (use : InUse m₀ start q m taken given) :
    Positioned q m taken given := by
  obtain ⟨place, layout, position, usedPosition⟩ := counted sound fresh use
  have sound := sound.congr layout
  have bounded := bounded.same place
  have laid := bounded.laidOut
  have availSlot : q.availSlotAddress q.nextAvail =
      q.availRing + UInt64.ofNat (4 + 2 * (taken % q.size.toNat)) := by
    rw [position, availSlotAddress, slot_ofNat bounded.power]
    rfl
  have none_iff : (q.pop m).1 = .ok none ↔ m.Holds (q.availRing + 2) 2 ∧
      Bytes.toNat (m.contents (q.availRing + 2) 2) = taken % 65536 := by
    have small := TableEntry.contents_lt m (q.availRing.wrappingAdd 2) 2
    rw [pop_none_iff, hasAvailable_iff sound, position, eq_comm, bne_eq_false_iff_eq,
      ofNat_eq_iff small]
    rfl
  refine ⟨⟨bounded.table, bounded.avail, bounded.used⟩, none_iff, fun consumed => ?_,
    fun mapped => ⟨?_, pop_whole sound laid mapped⟩, fun head len q' m' done => ?_,
    fun mapped head len => ?_, fun m' layout same => pop_local sound bounded layout same,
    fun head len x changed => ?_⟩
  · rw [← availSlot]
    exact pop_entry sound consumed
  · have index := laid.availIndex
    have published : m.Holds (q.availRing.wrappingAdd 2) 2 :=
      mapped.within (by omega) (by omega) (by decide)
    exact none_iff.trans ⟨And.right, fun same => ⟨published, same⟩⟩
  · have gave := addUsed_done sound done
    obtain ⟨element, index⟩ := gave.contents sound laid
    rw [usedPosition gave.index, usedSlotAddress, slot_ofNat bounded.power] at element
    rw [usedPosition gave.index, ofNat_succ, UInt16.toNat_ofNat'] at index
    exact ⟨element, index⟩
  · exact addUsed_whole sound laid (mapped.shorter (by omega)) head len
  · have kept := (addUsed_returned sound laid head len).kept x
    have inside : q.UsedByte x := Classical.byContradiction fun outside => changed (kept outside)
    unfold UsedByte at inside
    omega

-- However long a queue has been in use since it was activated, its rings are used in the order of
-- the counts, slot by slot.
theorem use_positioned [Host] {ranges : List (GuestAddress × UInt64)} {config config' : QueueConfig}
    (built : GuestMemory.new ranges = .ok m₀) (activated : config.activate = .ok (start, config'))
    (use : InUse m₀ start q m taken given) :
    SamePlace start q ∧ Positioned q m taken given := by
  obtain ⟨bounded, fresh⟩ := activate_bounded activated
  exact ⟨(counted (new_sound built) fresh use).place, use.positioned (new_sound built) bounded fresh⟩

-- A queue of two slots with one entry made available, which is consumed and given back.
theorem use_positioned_once :
    ∃ m₀ m m' start config' chain q q',
      GuestMemory.new [(0, 0x4000)] = .ok m₀ ∧
      QueueConfig.activate ⟨false, 2, 2, 0x1000, 0x2000, 0x3000⟩ = .ok (start, config') ∧
      m₀.writeObject 0x2002 (Bytes.ofNat 1 2) = .ok m ∧
      start.pop m = (.ok (some chain), q) ∧ q.addUsed m chain.head 7 = (.ok (), q', m') ∧
      InUse m₀ start q' m' 1 1 ∧ Positioned q' m' 1 1 ∧
      m'.contents (q'.usedRing + 4) 8 = Bytes.ofNat chain.head.toNat 4 ++ Bytes.ofNat 7 4 := by
  have ran : ((GuestMemory.new [(0, 0x4000)]).toOption.any fun m₀ =>
      (QueueConfig.activate ⟨false, 2, 2, 0x1000, 0x2000, 0x3000⟩).toOption.any fun made =>
        (m₀.writeObject 0x2002 (Bytes.ofNat 1 2)).toOption.any fun m =>
          (made.1.pop m).1.toOption.any fun chain? => chain?.any fun chain =>
            ((made.1.pop m).2.addUsed m chain.head 7).1.isOk) = true := by
    decide +kernel
  obtain ⟨m₀, built, ran⟩ := Checked.ok_of_any ran
  obtain ⟨⟨start, config'⟩, activated, ran⟩ := Checked.ok_of_any ran
  obtain ⟨m, wrote, ran⟩ := Checked.ok_of_any ran
  obtain ⟨chain?, answered, ran⟩ := Checked.ok_of_any ran
  obtain ⟨chain, rfl, given⟩ := (Option.any_eq_true ..).mp ran
  have popped : start.pop m = (.ok (some chain), (start.pop m).2) := Prod.ext answered rfl
  obtain ⟨q', m', returned⟩ : ∃ q' m',
      (start.pop m).2.addUsed m chain.head 7 = (.ok (), q', m') := by
    refine ⟨_, _, Prod.ext ?_ rfl⟩
    cases answer : ((start.pop m).2.addUsed m chain.head 7).1 with
    | ok u => rfl
    | error e =>
        rw [answer] at given
        cases given
  have layout := (writeObject_wrote (new_sound built) wrote).2.layout
  have once : InUse m₀ start (start.pop m).2 m 1 0 :=
    (InUse.start.memory layout).consumed popped (.inl ⟨chain, rfl⟩)
  have both := once.returned returned
  have element := ((use_positioned built activated once).2.element _ _ _ _ returned).1
  have place := (addUsed_done ((new_sound built).congr layout) returned).moved
  refine ⟨m₀, m, m', start, config', chain, _, q', built, activated, wrote, popped, returned, both,
    (use_positioned built activated both).2, ?_⟩
  rw [place]
  exact element

end SplitQueue

end VmMonitor
