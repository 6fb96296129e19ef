import VmMonitor.Proofs.Bits
import VmMonitor.Proofs.Bus.Owner
import VmMonitor.Proofs.Strict.Words
import VmMonitor.Register.Basic

/-!
What the guest sees of one register. An access that lies inside of it is a lane of its value: a load
answers the bits of the lane, and a store changes those of them that the guest may write and no other
bit. An access that does not lie inside is refused.
-/

namespace VmMonitor

open Checked

theorem Width.bytes_toNat (w : Width) : (UInt64.ofNat w.bytes).toNat = w.bytes := by
  cases w <;> rfl

namespace RegisterRange

-- The offsets come out as long as their end can be counted.
theorem of_ok {start count : UInt64} (some : 0 < count.toNat)
    (room : start.toNat + count.toNat < UInt64.size) :
    RegisterRange.of start count = .ok ⟨start, start + count - 1⟩ ∧
      (start + count - 1).toNat = start.toNat + count.toNat - 1 := by
  have sum : (start + count).toNat = start.toNat + count.toNat := by
    rw [UInt64.toNat_add]
    exact Nat.mod_eq_of_lt room
  have one : (1 : UInt64) ≤ start + count := by
    rw [UInt64.le_iff_toNat_le, sum]
    exact Nat.le_trans some (Nat.le_add_left ..)
  constructor
  · unfold RegisterRange.of
    rw [bind_ok (add_ok room), bind_ok (sub_ok one)]
    rfl
  · rw [UInt64.toNat_sub_of_le _ _ one, sum]
    rfl

-- The offsets of an access.
theorem of_width {offset : UInt64} {width : Width}
    (room : offset.toNat + width.bytes < UInt64.size) :
    RegisterRange.of offset (UInt64.ofNat width.bytes) =
        .ok ⟨offset, offset + UInt64.ofNat width.bytes - 1⟩ ∧
      (offset + UInt64.ofNat width.bytes - 1).toNat = offset.toNat + width.bytes - 1 := by
  have some := width.bytes_pos
  rw [← width.bytes_toNat] at room some
  have found := of_ok some room
  rwa [width.bytes_toNat] at found

end RegisterRange

namespace RegisterSpec

-- A size that there is, at an offset from which 64 bits can count to the end.
structure Sound (s : RegisterSpec) : Prop where
  size : s.size ∈ [(1 : UInt64), 2, 4, 8]
  room : s.offset.toNat + s.size.toNat < UInt64.size

-- No offset belongs to both.
def Apart (s t : RegisterSpec) : Prop :=
  s.offset.toNat + s.size.toNat ≤ t.offset.toNat ∨ t.offset.toNat + t.size.toNat ≤ s.offset.toNat

def Holds (s : RegisterSpec) (offset : UInt64) : Prop :=
  s.offset.toNat ≤ offset.toNat ∧ offset.toNat < s.offset.toNat + s.size.toNat

-- All bytes of an access are inside.
def Covers (s : RegisterSpec) (offset : UInt64) (w : Width) : Prop :=
  s.offset.toNat ≤ offset.toNat ∧ offset.toNat + w.bytes ≤ s.offset.toNat + s.size.toNat

-- The bit of the register at which an access begins, and the bits that the access is about.

def start (s : RegisterSpec) (offset : UInt64) : Nat := 8 * (offset.toNat - s.offset.toNat)

def Lane (s : RegisterSpec) (offset : UInt64) (w : Width) (k : Nat) : Prop :=
  s.start offset ≤ k ∧ k < s.start offset + 8 * w.bytes

-- What a store makes of a value: bits that it is about and that the guest may write are those of the
-- word that was stored.
structure Stored (s : RegisterSpec) (offset value : UInt64) (about : Nat → Prop)
    (before after : UInt64) : Prop where
  inside : ∀ k, about k → s.writeable.toNat.testBit k = true →
    after.toNat.testBit k = value.toNat.testBit (k - s.start offset)
  outside : ∀ k, ¬ (about k ∧ s.writeable.toNat.testBit k = true) →
    after.toNat.testBit k = before.toNat.testBit k

instance (s : RegisterSpec) : Decidable s.Sound :=
  decidable_of_iff (s.size ∈ [(1 : UInt64), 2, 4, 8] ∧
    s.offset.toNat + s.size.toNat < UInt64.size) ⟨fun both => ⟨both.1, both.2⟩,
      fun sound => ⟨sound.size, sound.room⟩⟩

instance (s t : RegisterSpec) : Decidable (s.Apart t) := inferInstanceAs (Decidable (_ ∨ _))

instance (s : RegisterSpec) (offset : UInt64) (w : Width) : Decidable (s.Covers offset w) :=
  inferInstanceAs (Decidable (_ ∧ _))

instance (s : RegisterSpec) (offset : UInt64) : Decidable (s.Holds offset) :=
  inferInstanceAs (Decidable (_ ∧ _))

variable {s : RegisterSpec} {offset value x y z : UInt64} {width : Width} {about more : Nat → Prop}

theorem Apart.symm {t : RegisterSpec} (apart : s.Apart t) : t.Apart s := Or.symm apart

theorem Sound.bytes (sound : s.Sound) : 0 < s.size.toNat ∧ s.size.toNat ≤ 8 := by
  have size := sound.size
  simp only [List.mem_cons, List.not_mem_nil, or_false] at size
  rcases size with size | size | size | size <;> rw [size] <;> decide

theorem Sound.mask (sound : s.Sound) : s.sizeMask.toNat = 2 ^ (8 * s.size.toNat) - 1 := by
  have size := sound.size
  simp only [List.mem_cons, List.not_mem_nil, or_false] at size
  rcases size with size | size | size | size <;> rw [sizeMask, size] <;> rfl

theorem Sound.span (sound : s.Sound) : s.range = .ok s.span ∧
    s.span.final.toNat = s.offset.toNat + s.size.toNat - 1 :=
  RegisterRange.of_ok sound.bytes.1 sound.room

-- Ranges that include their ends, as numbers.
theorem Sound.covers_iff (sound : s.Sound) (room : offset.toNat + width.bytes < UInt64.size) :
    s.span.covers ⟨offset, offset + UInt64.ofNat width.bytes - 1⟩ = true ↔
      s.Covers offset width := by
  have some := width.bytes_pos
  have positive := sound.bytes.1
  rw [RegisterRange.covers, Bool.and_eq_true, decide_eq_true_iff, decide_eq_true_iff,
    UInt64.le_iff_toNat_le, UInt64.le_iff_toNat_le, sound.span.2,
    (RegisterRange.of_width room).2]
  unfold Covers
  change s.offset.toNat ≤ offset.toNat ∧ _ ↔ _
  omega

-- The sum of an access inside can be counted, since that of the register can.
theorem Covers.room (covers : s.Covers offset width) (sound : s.Sound) :
    offset.toNat + width.bytes < UInt64.size :=
  Nat.lt_of_le_of_lt covers.2 sound.room

theorem Covers.holds (covers : s.Covers offset width) : s.Holds offset := by
  have some := width.bytes_pos
  unfold Covers at covers
  unfold Holds
  omega

-- An access inside a register lies among its bits.
theorem Covers.lane (covers : s.Covers offset width) :
    s.start offset + 8 * width.bytes ≤ 8 * s.size.toNat := by
  unfold Covers at covers
  unfold start
  omega

-- One byte of the access.
theorem Covers.byte (covers : s.Covers offset width) (sound : s.Sound) {i : Nat}
    (inside : i < width.bytes) : s.Covers (offset + UInt64.ofNat i) .byte ∧
      s.start (offset + UInt64.ofNat i) = s.start offset + 8 * i := by
  have room := sound.room
  have few := width.bytes_le
  unfold Covers at covers
  have sum : (offset + UInt64.ofNat i).toNat = offset.toNat + i := by
    rw [UInt64.toNat_add, UInt64.toNat_ofNat_of_lt' (by unfold UInt64.size; omega)]
    exact Nat.mod_eq_of_lt (by unfold UInt64.size at room; omega)
  unfold Covers start
  rw [sum, show Width.byte.bytes = 1 from rfl]
  omega

-- A store says of every bit what it becomes.
theorem Stored.unique (stored : s.Stored offset value about x y)
    (stored' : s.Stored offset value about x z) : y = z := by
  apply UInt64.toNat_inj.mp
  apply Nat.eq_of_testBit_eq
  intro k
  by_cases own : about k ∧ s.writeable.toNat.testBit k = true
  · rw [stored.inside k own.1 own.2, stored'.inside k own.1 own.2]
  · rw [stored.outside k own, stored'.outside k own]

theorem Stored.nothing (s : RegisterSpec) (offset value x : UInt64) :
    s.Stored offset value (fun _ => False) x x := ⟨nofun, fun _ _ => rfl⟩

-- One store after the other, of the same word.
theorem Stored.trans (first : s.Stored offset value about x y)
    (second : s.Stored offset value more y z) :
    s.Stored offset value (fun k => about k ∨ more k) x z := by
  constructor
  · intro k either may
    by_cases again : more k
    · exact second.inside k again may
    · rw [second.outside k fun own => again own.1]
      exact first.inside k (either.resolve_right again) may
  · intro k neither
    rw [second.outside k fun own => neither ⟨.inr own.1, own.2⟩]
    exact first.outside k fun own => neither ⟨.inl own.1, own.2⟩

theorem Stored.congr (stored : s.Stored offset value about x y) (same : ∀ k, about k ↔ more k) :
    s.Stored offset value more x y :=
  (funext fun k => propext (same k) : about = more) ▸ stored

-- A store leaves the value within the size.
theorem Stored.fits (stored : s.Stored offset value (s.Lane offset width) x y)
    (covers : s.Covers offset width) (small : x.toNat < 2 ^ (8 * s.size.toNat)) :
    y.toNat < 2 ^ (8 * s.size.toNat) := by
  have reach := covers.lane
  refine Nat.lt_pow_two_of_testBit _ fun k past => ?_
  rw [stored.outside k fun own => by have := own.1.2; omega]
  exact Bits.bit_past small past

end RegisterSpec

namespace Register

open RegisterSpec

variable {r : Register} {offset value : UInt64} {width : Width}

-- The bit position of an access is told just for the accesses that lie inside.

theorem shiftFor_covers (sound : r.spec.Sound) (covers : r.spec.Covers offset width) :
    ∃ shift, r.shiftFor offset width = .ok (.ok shift) ∧ shift.toNat = r.spec.start offset ∧
      shift.toNat < 64 := by
  have some := width.bytes_pos
  have few := sound.bytes.2
  have room := covers.room sound
  have lane : r.spec.start offset < 64 := by
    have reach := covers.lane
    omega
  have above : r.spec.offset ≤ offset := UInt64.le_iff_toNat_le.mpr covers.1
  have product : (offset - r.spec.offset).toNat * (8 : UInt64).toNat = r.spec.start offset := by
    rw [UInt64.toNat_sub_of_le _ _ above, Nat.mul_comm]
    rfl
  have shift : ((offset - r.spec.offset) * 8).toNat = r.spec.start offset := by
    rw [UInt64.toNat_mul, product]
    exact Nat.mod_eq_of_lt (by omega)
  have narrow : (offset - r.spec.offset) * 8 < 64 :=
    UInt64.lt_iff_toNat_lt.mpr (by rw [shift]; exact lane)
  refine ⟨(offset - r.spec.offset) * 8, ?_, shift, by omega⟩
  unfold shiftFor
  rw [bind_ok (RegisterRange.of_width room).1, bind_ok sound.span.1,
    (sound.covers_iff room).mpr covers]
  change (Checked.sub _ _ >>= _) = _
  rw [bind_ok (sub_ok above), bind_ok (mul_ok (by rw [product]; unfold UInt64.size; omega)),
    if_pos narrow]
  rfl

theorem shiftFor_partial (sound : r.spec.Sound) (part : ¬ r.spec.Covers offset width)
    (room : offset.toNat + width.bytes < UInt64.size) :
    r.shiftFor offset width = .ok (.error (.partialAccess r.spec.name offset width)) := by
  unfold shiftFor
  rw [bind_ok (RegisterRange.of_width room).1, bind_ok sound.span.1,
    Bool.eq_false_iff.mpr (mt (sound.covers_iff room).mp part)]
  rfl

theorem shiftFor_past (past : UInt64.size ≤ offset.toNat + width.bytes) :
    r.shiftFor offset width = .error .overflow := by
  have none : RegisterRange.of offset (UInt64.ofNat width.bytes) = .error .overflow := by
    unfold RegisterRange.of Checked.add
    rw [if_neg (by rw [width.bytes_toNat]; omega)]
    rfl
  unfold shiftFor
  rw [none]
  rfl

-- An access that is not inside gets an error, and no answer at all where its end cannot be counted.
theorem shiftFor_refused (sound : r.spec.Sound) (part : ¬ r.spec.Covers offset width) :
    (∃ e, r.shiftFor offset width = .ok (.error e)) ∨
      UInt64.size ≤ offset.toNat + width.bytes ∧
        r.shiftFor offset width = .error .overflow := by
  by_cases room : offset.toNat + width.bytes < UInt64.size
  · exact .inl ⟨_, shiftFor_partial sound part room⟩
  · have past := Nat.not_lt.mp room
    exact .inr ⟨past, shiftFor_past past⟩

theorem read_lane (sound : r.spec.Sound) (covers : r.spec.Covers offset width)
    (may : r.spec.access.readable = true) : ∃ v, r.read offset width = .ok (.ok v) ∧
      v.toNat = Bits.field r.value.toNat (r.spec.start offset) (8 * width.bytes) := by
  obtain ⟨shift, place, start, small⟩ := shiftFor_covers sound covers
  refine ⟨(r.value >>> shift) &&& width.mask, ?_, ?_⟩
  · unfold read
    rw [may, bind_ok place]
    rfl
  · rw [← start]
    exact Bits.field64 small (by cases width <;> rfl)

theorem read_refused (sound : r.spec.Sound)
    (refused : ¬ (r.spec.Covers offset width ∧ r.spec.access.readable = true)) :
    (∃ e, r.read offset width = .ok (.error e)) ∨
      UInt64.size ≤ offset.toNat + width.bytes ∧ r.read offset width = .error .overflow := by
  unfold read
  cases may : r.spec.access.readable with
  | false => exact .inl ⟨_, rfl⟩
  | true =>
      have outside : ¬ r.spec.Covers offset width := fun covers => refused ⟨covers, may⟩
      rcases shiftFor_refused sound outside with ⟨e, part⟩ | ⟨past, none⟩
      · rw [part]
        exact .inl ⟨_, rfl⟩
      · rw [none]
        exact .inr ⟨past, rfl⟩

-- The bits of a store are those of the lane under the writeable bits.
theorem write_lane (sound : r.spec.Sound) (covers : r.spec.Covers offset width)
    (may : r.spec.access.writeable = true) (value : UInt64) :
    ∃ x, r.write offset width value = .ok (.ok ⟨r.spec, x⟩) ∧
      r.spec.Stored offset value (r.spec.Lane offset width) r.value x := by
  obtain ⟨shift, place, start, small⟩ := shiftFor_covers sound covers
  have reach := covers.lane
  have few := sound.bytes.2
  have mask : width.mask.toNat = 2 ^ (8 * width.bytes) - 1 := by cases width <;> rfl
  let lane := (width.mask <<< shift) &&& r.spec.writeable
  have laneBit (k : Nat) : lane.toNat.testBit k = true ↔
      r.spec.Lane offset width k ∧ r.spec.writeable.toNat.testBit k = true := by
    rw [UInt64.toNat_and, Nat.testBit_and, Bool.and_eq_true]
    refine and_congr_left fun writeable => ?_
    have inside : k < 64 := by
      by_contra past
      rw [Bits.bit_past r.spec.writeable.toNat_lt (Nat.not_lt.mp past)] at writeable
      cases writeable
    rw [Bits.shifted_bit small inside, mask, Nat.testBit_two_pow_sub_one, Bool.and_eq_true,
      decide_eq_true_iff, decide_eq_true_iff, start, Lane]
    omega
  refine ⟨(r.value &&& ~~~lane) ||| ((value <<< shift) &&& lane), ?_, ?_, ?_⟩
  · unfold write
    rw [may, bind_ok place]
    rfl
  · intro k about writeable
    have inside := about
    unfold Lane at inside
    rw [Bits.merged_bit, if_pos ((laneBit k).mpr ⟨about, writeable⟩),
      Bits.shifted_bit small (by omega), start, decide_eq_true inside.1, Bool.true_and]
  · intro k outside
    rw [Bits.merged_bit, if_neg fun own => outside ((laneBit k).mp own)]

theorem write_refused (sound : r.spec.Sound)
    (refused : ¬ (r.spec.Covers offset width ∧ r.spec.access.writeable = true)) (value : UInt64) :
    (∃ e, r.write offset width value = .ok (.error e)) ∨
      UInt64.size ≤ offset.toNat + width.bytes ∧
        r.write offset width value = .error .overflow := by
  unfold write
  cases may : r.spec.access.writeable with
  | false => exact .inl ⟨_, rfl⟩
  | true =>
      have outside : ¬ r.spec.Covers offset width := fun covers => refused ⟨covers, may⟩
      rcases shiftFor_refused sound outside with ⟨e, part⟩ | ⟨past, none⟩
      · rw [part]
        exact .inl ⟨_, rfl⟩
      · rw [none]
        exact .inr ⟨past, rfl⟩

-- What the device makes of the value stays within the size as well.
def Fits (r : Register) : Prop := r.value.toNat < 2 ^ (8 * r.spec.size.toNat)

theorem masked_toNat {s : RegisterSpec} (sound : s.Sound) (x : UInt64) :
    (x &&& s.sizeMask).toNat = x.toNat % 2 ^ (8 * s.size.toNat) := by
  rw [UInt64.toNat_and, sound.mask, Nat.and_two_pow_sub_one_eq_mod]

theorem setValue_fits (sound : r.spec.Sound) (value : UInt64) : (r.setValue value).Fits := by
  unfold Fits setValue
  rw [masked_toNat sound]
  exact Nat.mod_lt _ (Nat.two_pow_pos _)

theorem new_fits {s : RegisterSpec} (sound : s.Sound) : (Register.new s).Fits :=
  setValue_fits (r := ⟨s, 0⟩) sound s.resetValue

theorem clearBits_fits (fits : r.Fits) (mask : UInt64) : (r.clearBits mask).Fits := by
  unfold Fits clearBits
  rw [UInt64.toNat_and]
  exact Nat.lt_of_le_of_lt Nat.and_le_left fits

end Register

end VmMonitor
