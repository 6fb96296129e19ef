import VmMonitor.Proofs.Strict.Chain
import VmMonitor.Virtqueue.Ring

/-!
Split queues with every operation checked. A slot is taken as a remainder only where the size is a
power of two, which activation asks of a configuration; the areas of a queue are no larger than a
16-bit size makes them.
-/

namespace VmMonitor

open Checked GuestMemory

namespace SplitQueue

def strictAreas (size : UInt16) (desc avail used : GuestAddress) :
    Checked (List (String × GuestAddress × Nat)) := do
  return [("descriptor table", desc, ← product 64 16 size.toNat),
    ("available ring", avail, ← sum 64 6 (← product 64 2 size.toNat)),
    ("used ring", used, ← sum 64 6 (← product 64 8 size.toNat))]

def strictNew (c : QueueConfig) : Checked (Except QueueError SplitQueue) :=
  if !isPowerOfTwo c.size then .ok (.error (.notPowerOfTwo c.size))
  else do
    let areas ← strictAreas c.size c.descTable c.availRing c.usedRing
    let outside := areas.find? fun (_, start, size) =>
      (GuestAddress.checkedAdd start (UInt64.ofNat size)).isNone
    match outside with
    | some (area, start, size) => return .error (.areaOutOfBounds area start size)
    | none => return .ok ⟨c.size, c.descTable, c.availRing, c.usedRing, 0, 0⟩

def strictSlot (q : SplitQueue) (position : UInt16) : Checked UInt16 := do
  ensure (isPowerOfTwo q.size = true)
  return q.slot position

def strictReadAvailIndex (q : SplitQueue) (m : GuestMemory) :
    Checked (Except QueueError UInt16) := do
  match ← m.strictReadNat (GuestAddress.wrappingAdd q.availRing 2) 2 with
  | .ok n => return .ok (UInt16.ofNat n)
  | .error cause => return .error (.availIndex cause)

def strictAvailSlotAddress (q : SplitQueue) (position : UInt16) : Checked GuestAddress := do
  let slot ← q.strictSlot position
  let offset ← sum 64 4 (← product 64 2 slot.toNat)
  return GuestAddress.wrappingAdd q.availRing (UInt64.ofNat offset)

def strictUsedSlotAddress (q : SplitQueue) (position : UInt16) : Checked GuestAddress := do
  let slot ← q.strictSlot position
  let offset ← sum 64 4 (← product 64 8 slot.toNat)
  return GuestAddress.wrappingAdd q.usedRing (UInt64.ofNat offset)

def strictPop (q : SplitQueue) (m : GuestMemory) :
    Checked (Except QueueError (Option DescriptorChain) × SplitQueue) := do
  match (← q.strictReadAvailIndex m).map (· != q.nextAvail) with
  | .error e => return (.error e, q)
  | .ok false => return (.ok none, q)
  | .ok true =>
      match ← m.strictReadNat (← q.strictAvailSlotAddress q.nextAvail) 2 with
      | .error cause => return (.error (.availEntry cause), q)
      | .ok head =>
          let q := { q with nextAvail := q.nextAvail + 1 }
          match ← DescriptorChain.strictNew m q.descTable q.size (UInt16.ofNat head) with
          | .error cause => return (.error (.chain cause), q)
          | .ok chain => return (.ok (some chain), q)

def strictAddUsed (q : SplitQueue) (m : GuestMemory) (head : UInt16) (len : UInt32) :
    Checked (Except QueueError Unit × SplitQueue × GuestMemory) := do
  match ← m.strictWriteObject (← q.strictUsedSlotAddress q.nextUsed) (usedElement head len) with
  | .error cause => return (.error (.usedEntry cause), q, m)
  | .ok m =>
      let q := { q with nextUsed := q.nextUsed + 1 }
      match ← m.strictWriteNat (GuestAddress.wrappingAdd q.usedRing 2) 2 q.nextUsed.toNat with
      | .error cause => return (.error (.usedIndex cause), q, m)
      | .ok m => return (.ok (), q, m)

variable {q : SplitQueue}

theorem strictAreas_ok (size : UInt16) (desc avail used : GuestAddress) :
    strictAreas size desc avail used = .ok (areas size desc avail used) := by
  have small := size.toNat_lt
  unfold strictAreas
  rw [bind_ok (product_ok (by omega)), bind_ok (product_ok (by omega)), bind_ok (sum_ok (by omega)),
    bind_ok (product_ok (by omega)), bind_ok (sum_ok (by omega))]
  rfl

theorem strictNew_ok (c : QueueConfig) : strictNew c = .ok (new c) := by
  unfold strictNew new
  split
  · rfl
  rw [bind_ok (strictAreas_ok ..)]
  dsimp only
  generalize (areas c.size c.descTable c.availRing c.usedRing).find? _ = outside
  cases outside <;> rfl

theorem strictSlot_ok (power : isPowerOfTwo q.size = true) (position : UInt16) :
    q.strictSlot position = .ok (q.slot position) := by
  unfold strictSlot
  rw [bind_ok (ensure_ok power)]
  rfl

theorem strictReadAvailIndex_ok (q : SplitQueue) (m : GuestMemory) :
    q.strictReadAvailIndex m = .ok (q.readAvailIndex m) := by
  unfold strictReadAvailIndex readAvailIndex
  rw [bind_ok (m.strictReadNat_ok ..)]
  cases m.readNat (GuestAddress.wrappingAdd q.availRing 2) 2 <;> rfl

theorem strictAvailSlotAddress_ok (power : isPowerOfTwo q.size = true) (position : UInt16) :
    q.strictAvailSlotAddress position = .ok (q.availSlotAddress position) := by
  have small := (q.slot position).toNat_lt
  unfold strictAvailSlotAddress
  rw [bind_ok (strictSlot_ok power position), bind_ok (product_ok (by omega)),
    bind_ok (sum_ok (by omega))]
  rfl

theorem strictUsedSlotAddress_ok (power : isPowerOfTwo q.size = true) (position : UInt16) :
    q.strictUsedSlotAddress position = .ok (q.usedSlotAddress position) := by
  have small := (q.slot position).toNat_lt
  unfold strictUsedSlotAddress
  rw [bind_ok (strictSlot_ok power position), bind_ok (product_ok (by omega)),
    bind_ok (sum_ok (by omega))]
  rfl

theorem strictPop_ok (power : isPowerOfTwo q.size = true) (m : GuestMemory) :
    q.strictPop m = .ok (q.pop m) := by
  have available : (q.readAvailIndex m).map (· != q.nextAvail) = q.hasAvailable m := by
    unfold hasAvailable
    cases q.readAvailIndex m <;> rfl
  unfold strictPop pop
  rw [bind_ok (q.strictReadAvailIndex_ok m), available]
  rcases q.hasAvailable m with e | more
  · rfl
  cases more with
  | false => rfl
  | true =>
      dsimp only
      rw [bind_ok (strictAvailSlotAddress_ok power _), bind_ok (m.strictReadNat_ok ..)]
      cases m.readNat (q.availSlotAddress q.nextAvail) 2 with
      | error cause => rfl
      | ok head =>
          dsimp only
          rw [bind_ok (DescriptorChain.strictNew_ok ..)]
          cases DescriptorChain.new m q.descTable q.size (UInt16.ofNat head) <;> rfl

theorem strictAddUsed_ok (power : isPowerOfTwo q.size = true) (m : GuestMemory) (head : UInt16)
    (len : UInt32) : q.strictAddUsed m head len = .ok (q.addUsed m head len) := by
  unfold strictAddUsed addUsed
  rw [bind_ok (strictUsedSlotAddress_ok power _), bind_ok (m.strictWriteObject_ok ..)]
  cases m.writeObject (q.usedSlotAddress q.nextUsed) (usedElement head len) with
  | error cause => rfl
  | ok m' =>
      dsimp only
      rw [bind_ok (m'.strictWriteNat_ok ..)]
      cases m'.writeNat (GuestAddress.wrappingAdd q.usedRing 2) 2 (q.nextUsed + 1).toNat <;> rfl

end SplitQueue

namespace QueueConfig

def strictActivate (c : QueueConfig) : Checked (Except QueueError (SplitQueue × QueueConfig)) :=
  if c.size = 0 || !isPowerOfTwo c.size || c.maxSize < c.size then
    .ok (.error (.invalidSize c.size c.maxSize))
  else do return (← SplitQueue.strictNew c).map fun q => (q, { c with ready := true })

theorem strictActivate_ok (c : QueueConfig) : c.strictActivate = .ok c.activate := by
  unfold strictActivate activate
  split
  · rfl
  · rw [bind_ok (SplitQueue.strictNew_ok c)]
    cases SplitQueue.new c <;> rfl

end QueueConfig

end VmMonitor
