import VmMonitor.Proofs.Virtqueue.Chain
import VmMonitor.Virtqueue.Ring

/-!
What taking chains from a ring and giving them back does: the positions move, the areas stay where
they are, and in memory only the used ring changes.
-/

namespace VmMonitor

open GuestMemory

namespace SplitQueue

variable {q q' : SplitQueue} {m m' : GuestMemory} {i head : UInt16} {len : UInt32}

-- The same areas, the positions aside.
def SamePlace (q q' : SplitQueue) : Prop :=
  q' = { q with nextAvail := q'.nextAvail, nextUsed := q'.nextUsed }

theorem SamePlace.refl (q : SplitQueue) : SamePlace q q := rfl

theorem SamePlace.trans {q'' : SplitQueue} (first : SamePlace q q') (second : SamePlace q' q'') :
    SamePlace q q'' := by
  unfold SamePlace at first second ⊢
  rw [second, first]

-- A ring as activation lays it out, at whatever positions its use has brought it to.
def Activated (q : SplitQueue) : Prop :=
  ∃ (c c' : QueueConfig) (start : SplitQueue), c.activate = .ok (start, c') ∧ SamePlace start q

-- The addresses that giving chains back writes.
def UsedByte (q : SplitQueue) (x : GuestAddress) : Prop :=
  q.usedRing.toNat + 2 ≤ x.toNat ∧ x.toNat < q.usedRing.toNat + 4 + 8 * q.size.toNat

-- The index of the driver is not among the bytes that giving chains back writes.
def IndexApart (q : SplitQueue) : Prop :=
  ∀ x : GuestAddress, q.availRing.toNat + 2 ≤ x.toNat → x.toNat < q.availRing.toNat + 4 →
    ¬ q.UsedByte x

theorem IndexApart.same (place : SamePlace q q') (apart : q.IndexApart) : q'.IndexApart := by
  unfold SamePlace at place
  rw [place]
  exact apart

-- No address of the areas wraps, and there is at least one slot.
structure LaidOut (q : SplitQueue) : Prop where
  size : q.size ≠ 0
  avail : q.availRing.toNat + 6 + 2 * q.size.toNat < UInt64.size
  used : q.usedRing.toNat + 6 + 8 * q.size.toNat < UInt64.size

theorem LaidOut.same (place : SamePlace q q') (laid : q.LaidOut) : q'.LaidOut := by
  unfold SamePlace at place
  rw [place]
  exact ⟨laid.size, laid.avail, laid.used⟩

theorem new_parts {c : QueueConfig} (done : new c = .ok q) :
    q = ⟨c.size, c.descTable, c.availRing, c.usedRing, 0, 0⟩ ∧
      ∀ area ∈ areas c.size c.descTable c.availRing c.usedRing,
        area.2.1.toNat + area.2.2 < UInt64.size := by
  unfold new at done
  split at done
  · cases done
  dsimp only at done
  split at done
  · cases done
  rename_i inside
  cases done
  refine ⟨rfl, fun area listed => ?_⟩
  have small : area.2.2 < UInt64.size := by
    have size := c.size.toNat_lt
    have large : UInt64.size = 18446744073709551616 := rfl
    simp only [areas, List.mem_cons, List.not_mem_nil, or_false] at listed
    rcases listed with rfl | rfl | rfl <;> dsimp only <;> omega
  have kept := List.find?_eq_none.mp inside area listed
  obtain ⟨final, sum⟩ := Option.ne_none_iff_exists'.mp (by simpa using kept)
  have below := (GuestAddress.checkedAdd_eq_some.mp sum).1
  rwa [UInt64.toNat_ofNat_of_lt' small] at below

theorem new_laidOut {c : QueueConfig} (some : c.size ≠ 0) (done : new c = .ok q) :
    q.LaidOut := by
  obtain ⟨rfl, below⟩ := new_parts done
  have avail := below ("available ring", c.availRing, 6 + 2 * c.size.toNat) (by simp [areas])
  have used := below ("used ring", c.usedRing, 6 + 8 * c.size.toNat) (by simp [areas])
  dsimp only at avail used
  exact ⟨some, by dsimp only; omega, by dsimp only; omega⟩

theorem Activated.laidOut (activated : q.Activated) : q.LaidOut := by
  obtain ⟨c, c', start, done, place⟩ := activated
  refine LaidOut.same place ?_
  unfold QueueConfig.activate at done
  split at done
  · cases done
  rename_i valid
  obtain ⟨ring, made, done⟩ := Checked.bind_eq_ok.mp done
  cases done
  exact new_laidOut (fun zero => valid (by simp [zero])) made

theorem slot_lt (some : q.size ≠ 0) (position : UInt16) :
    (q.slot position).toNat < q.size.toNat := by
  have positive : 0 < q.size.toNat :=
    Nat.pos_of_ne_zero fun zero => some (UInt16.toNat_inj.mp zero)
  have one : (1 : UInt16) ≤ q.size := UInt16.le_iff_toNat_le.mpr positive
  rw [slot, UInt16.toNat_and, UInt16.toNat_sub_of_le _ _ one]
  exact Nat.lt_of_le_of_lt Nat.and_le_right (Nat.sub_lt positive Nat.one_pos)

theorem LaidOut.usedSlot (laid : q.LaidOut) (position : UInt16) :
    (q.usedSlotAddress position).toNat = q.usedRing.toNat + (4 + 8 * (q.slot position).toNat) := by
  have slot := slot_lt laid.size position
  have used := laid.used
  exact GuestAddress.toNat_add (by omega)

theorem LaidOut.usedIndex (laid : q.LaidOut) :
    (q.usedRing.wrappingAdd 2).toNat = q.usedRing.toNat + 2 := by
  have used := laid.used
  exact GuestAddress.toNat_add (i := 2) (by omega)

theorem LaidOut.availIndex (laid : q.LaidOut) :
    (q.availRing.wrappingAdd 2).toNat = q.availRing.toNat + 2 := by
  have avail := laid.avail
  exact GuestAddress.toNat_add (i := 2) (by omega)

@[simp] theorem length_usedElement (head : UInt16) (len : UInt32) :
    (usedElement head len).length = 8 := by simp [usedElement]

-- The index of the driver reads the same as long as its bytes are the same.
theorem readAvailIndex_congr (sound : m.Sound) (laid : q.LaidOut)
    (layout : m'.layout = m.layout)
    (same : ∀ x : GuestAddress, q.availRing.toNat + 2 ≤ x.toNat →
      x.toNat < q.availRing.toNat + 4 → m'.byte? x = m.byte? x)
    (read : q.readAvailIndex m = .ok i) : q.readAvailIndex m' = .ok i := by
  unfold readAvailIndex at read ⊢
  split at read
  · rename_i n done
    obtain ⟨data, object, done⟩ := Checked.bind_eq_ok.mp done
    have place := laid.availIndex
    have again := readObject_congr sound layout
      (fun x low high => same x (by omega) (by omega)) object
    rw [readNat, again]
    cases done
    exact read
  · cases read

theorem pop_place (q : SplitQueue) (m : GuestMemory) : SamePlace q (q.pop m).2 := by
  unfold pop
  split
  · exact .refl q
  · exact .refl q
  · split
    · exact .refl q
    · dsimp only
      split <;> rfl

-- A chain is taken where the index of the driver is ahead.
theorem pop_chain {chain : DescriptorChain} (popped : q.pop m = (.ok (some chain), q')) :
    (∃ i, q.readAvailIndex m = .ok i ∧ i ≠ q.nextAvail) ∧
      q' = { q with nextAvail := q.nextAvail + 1 } ∧
      ∃ head, DescriptorChain.new m q.descTable q.size head = .ok chain := by
  unfold pop at popped
  split at popped
  · cases popped
  · cases popped
  rename_i available
  obtain ⟨i, read, ahead⟩ := Checked.bind_eq_ok.mp available
  have differs : i ≠ q.nextAvail := by
    have := Except.ok.inj ahead
    simpa using this
  split at popped
  · cases popped
  rename_i head _
  dsimp only at popped
  split at popped
  · cases popped
  · rename_i made
    cases popped
    exact ⟨⟨i, read, differs⟩, rfl, _, made⟩

theorem readAvailIndex_number {number : Nat}
    (read : m.readNat (q.availRing.wrappingAdd 2) 2 = .ok number) :
    q.readAvailIndex m = .ok (UInt16.ofNat number) := by
  unfold readAvailIndex
  rw [read]

theorem pop_ahead {entry : Nat} {chain : DescriptorChain} (read : q.readAvailIndex m = .ok i)
    (ahead : i ≠ q.nextAvail) (slot : m.readNat (q.availSlotAddress q.nextAvail) 2 = .ok entry)
    (made : DescriptorChain.new m q.descTable q.size (UInt16.ofNat entry) = .ok chain) :
    q.pop m = (.ok (some chain), { q with nextAvail := q.nextAvail + 1 }) := by
  have available : q.hasAvailable m = .ok true := by
    rw [hasAvailable, read]
    exact congrArg Except.ok (bne_iff_ne.mpr ahead)
  unfold pop
  simp only [available, slot, made]

-- What a ring and memory look like when a chain was given back, or when that failed half way.
structure Returned (q : SplitQueue) (m : GuestMemory) (q' : SplitQueue) (m' : GuestMemory) :
    Prop where
  place : SamePlace q q'
  avail : q'.nextAvail = q.nextAvail
  layout : m'.layout = m.layout
  kept : ∀ x, ¬ q.UsedByte x → m'.byte? x = m.byte? x

theorem addUsed_returned (sound : m.Sound) (laid : q.LaidOut) (head : UInt16) (len : UInt32) :
    Returned q m (q.addUsed m head len).2.1 (q.addUsed m head len).2.2 := by
  have slot := slot_lt laid.size q.nextUsed
  have used := laid.used
  have place := laid.usedSlot q.nextUsed
  have index := laid.usedIndex
  unfold addUsed
  split
  · exact ⟨.refl q, rfl, rfl, fun _ _ => rfl⟩
  · rename_i middle stored
    have first := (writeObject_wrote sound stored).2
    have element : ∀ x, ¬ q.UsedByte x → middle.byte? x = m.byte? x := by
      intro x outside
      unfold UsedByte at outside
      rw [first.byte x, overlaid_outside]
      rw [length_usedElement]
      omega
    dsimp only
    split
    · exact ⟨rfl, rfl, first.layout, element⟩
    · rename_i final written
      have second := (writeObject_wrote (sound.congr first.layout) written).2
      refine ⟨rfl, rfl, second.layout.trans first.layout, fun x outside => ?_⟩
      rw [second.byte x, overlaid_outside, element x outside]
      unfold UsedByte at outside
      rw [Bytes.length_ofNat]
      omega

-- A chain is given back in two stores, of the element and of the index.
theorem addUsed_stores (sound : m.Sound) (head : UInt16) (len : UInt32)
    (element : m.Holds (q.usedSlotAddress q.nextUsed) 8)
    (index : m.Holds (q.usedRing.wrappingAdd 2) 2) :
    ∃ middle final,
      q.addUsed m head len = (.ok (), { q with nextUsed := q.nextUsed + 1 }, final) ∧
      m.Wrote (q.usedSlotAddress q.nextUsed) (usedElement head len) middle ∧
      middle.Wrote (q.usedRing.wrappingAdd 2) (Bytes.ofNat (q.nextUsed + 1).toNat 2) final := by
  obtain ⟨middle, stored, first⟩ : ∃ middle,
      m.writeObject (q.usedSlotAddress q.nextUsed) (usedElement head len) = .ok middle ∧
        m.Wrote (q.usedSlotAddress q.nextUsed) (usedElement head len) middle :=
    writeObject_holds sound element
  obtain ⟨final, moved, second⟩ : ∃ final,
      middle.writeObject (q.usedRing.wrappingAdd 2) (Bytes.ofNat (q.nextUsed + 1).toNat 2) =
          .ok final ∧
        middle.Wrote (q.usedRing.wrappingAdd 2) (Bytes.ofNat (q.nextUsed + 1).toNat 2) final :=
    writeObject_holds (sound.congr first.layout) (index.congr first.layout)
  refine ⟨middle, final, ?_, first, second⟩
  unfold addUsed
  simp only [stored, writeNat, moved]

end SplitQueue

end VmMonitor
