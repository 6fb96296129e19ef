import VmMonitor.Proofs.Register.Lanes
import VmMonitor.Proofs.Register.Space

/-!
Registers with every operation checked. The bit position of an access is worked out from sums that
could leave 64 bits in a block that reaches to the end of the offsets; no block of a device does.
-/

namespace VmMonitor

open Checked

namespace RegisterSpec

def strictSizeMask (s : RegisterSpec) : Checked UInt64 :=
  if 8 ≤ s.size then .ok 0xffffffffffffffff
  else do
    let bits ← mul s.size 8
    let power ← shiftLeft 1 bits.toNat
    sub power 1

theorem strictSizeMask_ok (s : RegisterSpec) : s.strictSizeMask = .ok s.sizeMask := by
  unfold strictSizeMask sizeMask
  split
  · rfl
  rename_i short
  have below : s.size.toNat < 8 := Nat.not_le.mp fun le => short (UInt64.le_iff_toNat_le.mpr le)
  have bits : (s.size * 8).toNat = s.size.toNat * 8 := by
    rw [UInt64.toNat_mul, show (8 : UInt64).toNat = 8 from rfl]
    omega
  have power : ∀ n < 64, (1 : UInt64) ≤ 1 <<< UInt64.ofNat n := by decide
  rw [bind_ok (mul_ok (by rw [show (8 : UInt64).toNat = 8 from rfl]; unfold UInt64.size; omega)),
    bind_ok (shiftLeft_ok (by omega)), sub_ok (power _ (by omega)), UInt64.ofNat_toNat]

end RegisterSpec

namespace Register

def strictSetBits (r : Register) (mask : UInt64) : Checked Register := do
  return { r with value := (r.value ||| mask) &&& (← r.spec.strictSizeMask) }

theorem strictSetBits_ok (r : Register) (mask : UInt64) :
    r.strictSetBits mask = .ok (r.setBits mask) := by
  unfold strictSetBits
  rw [bind_ok r.spec.strictSizeMask_ok]
  rfl

variable {r : Register} {offset value : UInt64} {width : Width}

-- A word register below the middle of the offsets.
structure Low (s : RegisterSpec) : Prop where
  offset : s.offset.toNat < 2 ^ 32
  size : s.size = 4

instance (s : RegisterSpec) : Decidable (Low s) :=
  decidable_of_iff (s.offset.toNat < 2 ^ 32 ∧ s.size = 4)
    ⟨fun both => ⟨both.1, both.2⟩, fun low => ⟨low.offset, low.size⟩⟩

theorem Low.sound {s : RegisterSpec} (low : Low s) : s.Sound where
  size := by
    rw [low.size]
    decide
  room := by
    have near := low.offset
    rw [low.size]
    change s.offset.toNat + 4 < 2 ^ 64
    omega

theorem shiftFor_ok (low : Low r.spec) (near : offset.toNat < 2 ^ 32) (width : Width) :
    ∃ answer, r.shiftFor offset width = .ok answer := by
  by_cases covers : r.spec.Covers offset width
  · obtain ⟨shift, place, _⟩ := shiftFor_covers low.sound covers
    exact ⟨_, place⟩
  · have few := width.bytes_le
    exact ⟨_, shiftFor_partial low.sound covers (by unfold UInt64.size; omega)⟩

theorem read_ok (low : Low r.spec) (near : offset.toNat < 2 ^ 32) :
    ∃ answer, r.read offset width = .ok answer := by
  obtain ⟨answer, done⟩ := shiftFor_ok low near width
  unfold read
  split
  · exact ⟨_, rfl⟩
  · rw [bind_ok done]
    cases answer <;> exact ⟨_, rfl⟩

theorem write_ok (low : Low r.spec) (near : offset.toNat < 2 ^ 32) (width : Width)
    (value : UInt64) : ∃ answer, r.write offset width value = .ok answer := by
  obtain ⟨answer, done⟩ := shiftFor_ok low near width
  unfold write
  split
  · exact ⟨_, rfl⟩
  · rw [bind_ok done]
    cases answer <;> exact ⟨_, rfl⟩

end Register

namespace RegisterSpace

variable {s : RegisterSpace} {offset : UInt64}

-- A block of word registers, no two in one place, that ends well before the offsets do.
structure Compact (s : RegisterSpace) : Prop where
  tidy : s.Tidy
  low : ∀ p ∈ s.shape, p.1.final.toNat < 2 ^ 32 ∧ Register.Low p.2

theorem Compact.congr {s' : RegisterSpace} (compact : s.Compact) (same : s'.shape = s.shape) :
    s'.Compact := by
  obtain ⟨tidy, low⟩ := compact
  unfold Tidy at tidy
  exact ⟨by unfold Tidy; rw [same]; exact tidy, by rw [same]; exact low⟩

theorem Compact.found (compact : s.Compact) {r : Register} (found : s.get? offset = some r) :
    Register.Low r.spec ∧ offset.toNat < 2 ^ 32 := by
  obtain ⟨t, slot, rfl⟩ := Option.map_eq_some_iff.mp found
  have here := slot_mem slot
  obtain ⟨final, low⟩ := compact.low (t.range, t.register.spec)
    (List.mem_map_of_mem (f := fun t => (t.range, t.register.spec)) here)
  have reach := UInt64.le_iff_toNat_le.mp (of_decide_eq_true (Option.filter_eq_some_iff.mp slot).2)
  exact ⟨low, Nat.lt_of_le_of_lt reach final⟩

theorem Compact.read_ok (compact : s.Compact) (offset : UInt64) (width : Width) :
    ∃ answer, s.read offset width = .ok answer := by
  unfold read
  split
  · exact ⟨_, rfl⟩
  · rename_i r found
    exact Register.read_ok (compact.found found).1 (compact.found found).2

theorem Compact.write_ok (compact : s.Compact) (offset value : UInt64) (width : Width) :
    ∃ answer, s.write offset width value = .ok answer := by
  unfold write
  split
  · exact ⟨_, rfl⟩
  · rename_i r found
    obtain ⟨low, near⟩ := compact.found found
    obtain ⟨answer, done⟩ := Register.write_ok low near width value
    rw [bind_ok done]
    cases answer <;> exact ⟨_, rfl⟩

-- Sets bits of the one register that holds the offset.
def strictSetBits (s : RegisterSpace) (offset mask : UInt64) : Checked RegisterSpace :=
  match s.get? offset with
  | none => .ok s
  | some r => do
      let r' ← r.strictSetBits mask
      return s.update offset fun _ => r'

theorem Compact.strictSetBits_ok (compact : s.Compact) (offset mask : UInt64) :
    s.strictSetBits offset mask = .ok (s.setBits offset mask) := by
  unfold strictSetBits setBits update get?
  cases found : s.slot? offset with
  | none => rfl
  | some t =>
      change (t.register.strictSetBits mask >>= _) = _
      rw [bind_ok (t.register.strictSetBits_ok mask)]
      refine congrArg (Except.ok ∘ RegisterSpace.mk) (List.map_congr_left fun u there => ?_)
      split
      · rename_i equal
        rw [compact.tidy.unique (slot_mem found) there equal]
      · rfl

end RegisterSpace

end VmMonitor
