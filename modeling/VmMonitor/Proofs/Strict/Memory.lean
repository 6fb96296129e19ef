import VmMonitor.Proofs.Memory.Store
import VmMonitor.Proofs.Strict.Words

/-!
Guest memory with every operation checked. An address that a region holds is no lower than the start
of the region.
-/

namespace VmMonitor

open Checked

-- How far an address lies behind the start of the region.
def Region.strictOffset (r : Region) (a : GuestAddress) : Checked Nat := do
  return (← GuestAddress.offsetFrom a r.base).toNat

theorem Region.strictOffset_ok {r : Region} {a : GuestAddress} (inside : r.contains a = true) :
    r.strictOffset a = .ok (a.toNat - r.base.toNat) := by
  have low : r.base ≤ a :=
    UInt64.le_iff_toNat_le.mpr (of_decide_eq_true (Bool.and_eq_true_iff.mp inside).1)
  unfold strictOffset GuestAddress.offsetFrom
  rw [bind_ok (sub_ok low), UInt64.toNat_sub_of_le _ _ low]
  rfl

namespace GuestMemory

def strictValidRange (m : GuestMemory) (a : GuestAddress) (len : UInt64) : Checked Bool :=
  if len = 0 then .ok true
  else do
    let reach ← sub len 1
    return match GuestAddress.checkedAdd a reach with
      | none => false
      | some final => m.regions.any fun r => r.contains a && r.contains final

def strictRead (m : GuestMemory) (a : GuestAddress) (count : Nat) :
    Checked (Except MemoryError (List UInt8)) :=
  match m.region? a with
  | none => .ok (.error (.invalidAddress a))
  | some r => do
      match r.mapping.readSlice (← r.strictOffset a) count with
      | .ok data => return .ok data
      | .error cause => return .error (.access a cause)

def strictReadExact (m : GuestMemory) (a : GuestAddress) (count : Nat) :
    Checked (Except MemoryError (List UInt8)) := do
  match ← m.strictRead a count with
  | .error e => return .error e
  | .ok data =>
      if data.length = count then return .ok data
      else return .error (.shortRead count data.length)

def strictReadObject (m : GuestMemory) (a : GuestAddress) (count : Nat) :
    Checked (Except MemoryError (List UInt8)) :=
  match m.region? a with
  | none => .ok (.error (.invalidAddress a))
  | some r => do
      match r.mapping.readObject (← r.strictOffset a) count with
      | .ok data => return .ok data
      | .error cause => return .error (.access a cause)

def strictReadNat (m : GuestMemory) (a : GuestAddress) (count : Nat) :
    Checked (Except MemoryError Nat) := do
  return (← m.strictReadObject a count).map Bytes.toNat

def strictWrite (m : GuestMemory) (a : GuestAddress) (data : List UInt8) :
    Checked (Except MemoryError (Nat × GuestMemory)) :=
  match locate a m.regions with
  | none => .ok (.error (.invalidAddress a))
  | some (before, r, after) => do
      match r.mapping.writeSlice (← r.strictOffset a) data with
      | .ok (count, mapping) =>
          return .ok (count, ⟨before ++ { r with mapping := mapping } :: after⟩)
      | .error cause => return .error (.access a cause)

def strictWriteAll (m : GuestMemory) (a : GuestAddress) (data : List UInt8) :
    Checked (Except MemoryError Unit × GuestMemory) := do
  match ← m.strictWrite a data with
  | .error e => return (.error e, m)
  | .ok (count, m') =>
      if count = data.length then return (.ok (), m')
      else return (.error (.shortWrite data.length count), m')

def strictWriteObject (m : GuestMemory) (a : GuestAddress) (data : List UInt8) :
    Checked (Except MemoryError GuestMemory) :=
  match locate a m.regions with
  | none => .ok (.error (.invalidAddress a))
  | some (before, r, after) => do
      match r.mapping.writeObject (← r.strictOffset a) data with
      | .ok mapping => return .ok ⟨before ++ { r with mapping := mapping } :: after⟩
      | .error cause => return .error (.access a cause)

def strictWriteNat (m : GuestMemory) (a : GuestAddress) (count n : Nat) :
    Checked (Except MemoryError GuestMemory) :=
  m.strictWriteObject a (Bytes.ofNat n count)

variable (m : GuestMemory) (a : GuestAddress) (count : Nat) (data : List UInt8)

theorem strictValidRange_ok (len : UInt64) :
    m.strictValidRange a len = .ok (m.validRange a len) := by
  unfold strictValidRange validRange
  split
  · rfl
  · rename_i some
    have one : 1 ≤ len := UInt64.le_iff_toNat_le.mpr
      (Nat.pos_of_ne_zero fun zero => some (UInt64.toNat_inj.mp zero))
    rw [bind_ok (sub_ok one)]
    rfl

theorem strictRead_ok : m.strictRead a count = .ok (m.read a count) := by
  unfold strictRead read
  cases found : m.region? a with
  | none => rfl
  | some r =>
      dsimp only
      rw [bind_ok (Region.strictOffset_ok (region_mem found).2)]
      cases r.mapping.readSlice (a.toNat - r.base.toNat) count <;> rfl

theorem strictReadExact_ok : m.strictReadExact a count = .ok (m.readExact a count) := by
  unfold strictReadExact readExact
  rw [bind_ok (m.strictRead_ok a count)]
  cases m.read a count with
  | error e => rfl
  | ok data =>
      change _ = Except.ok (if data.length = count then _ else _)
      dsimp only
      split <;> rfl

theorem strictReadObject_ok : m.strictReadObject a count = .ok (m.readObject a count) := by
  unfold strictReadObject readObject
  cases found : m.region? a with
  | none => rfl
  | some r =>
      dsimp only
      rw [bind_ok (Region.strictOffset_ok (region_mem found).2)]
      cases r.mapping.readObject (a.toNat - r.base.toNat) count <;> rfl

theorem strictReadNat_ok : m.strictReadNat a count = .ok (m.readNat a count) := by
  unfold strictReadNat readNat
  rw [bind_ok (m.strictReadObject_ok a count)]
  cases m.readObject a count <;> rfl

theorem strictWrite_ok : m.strictWrite a data = .ok (m.write a data) := by
  unfold strictWrite write
  cases found : locate a m.regions with
  | none => rfl
  | some parts =>
      obtain ⟨before, r, after⟩ := parts
      dsimp only
      rw [bind_ok (Region.strictOffset_ok (locate_parts found).2)]
      cases r.mapping.writeSlice (a.toNat - r.base.toNat) data <;> rfl

theorem strictWriteAll_ok : m.strictWriteAll a data = .ok (m.writeAll a data) := by
  unfold strictWriteAll writeAll
  rw [bind_ok (m.strictWrite_ok a data)]
  cases m.write a data with
  | error e => rfl
  | ok done =>
      dsimp only
      split <;> rfl

theorem strictWriteObject_ok : m.strictWriteObject a data = .ok (m.writeObject a data) := by
  unfold strictWriteObject writeObject
  cases found : locate a m.regions with
  | none => rfl
  | some parts =>
      obtain ⟨before, r, after⟩ := parts
      dsimp only
      rw [bind_ok (Region.strictOffset_ok (locate_parts found).2)]
      cases r.mapping.writeObject (a.toNat - r.base.toNat) data <;> rfl

theorem strictWriteNat_ok (n : Nat) : m.strictWriteNat a count n = .ok (m.writeNat a count n) :=
  m.strictWriteObject_ok a _

end GuestMemory

end VmMonitor
