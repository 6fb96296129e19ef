import VmMonitor.Proofs.Memory.Handles

/-!
Ranges that can be accessed. The check of a range asks whether some region has both its first and its
last address; an access takes the region of the first address and goes as far as that reaches. Both
come to the same: one region holds the whole range.
-/

namespace VmMonitor.GuestMemory

open Checked

variable {m : GuestMemory} {a : GuestAddress} {len : UInt64} {ranges : List Range}

theorem validRange_iff (sound : m.Sound) (some : len ≠ 0) :
    m.validRange a len = true ↔ m.Holds a len.toNat := by
  refine ⟨fun valid => validRange_holds valid some, fun holds => ?_⟩
  have below := sound.fits holds
  obtain ⟨s, here, inside, fits⟩ := holds
  have low := (Region.contains_iff.mp inside).1
  have positive : 0 < len.toNat := Nat.pos_of_ne_zero fun zero => some (UInt64.toNat_inj.mp zero)
  have one : (1 : UInt64) ≤ len := UInt64.le_iff_toNat_le.mpr positive
  have reach : (len - 1).toNat = len.toNat - 1 := UInt64.toNat_sub_of_le _ _ one
  have room : a.toNat + (len - 1).toNat < UInt64.size := by omega
  have final : (a + (len - 1)).toNat = a.toNat + (len.toNat - 1) := by
    rw [UInt64.toNat_add, Nat.mod_eq_of_lt room, reach]
  have last : s.contains (a + (len - 1)) = true := Region.contains_iff.mpr (by omega)
  rw [validRange, if_neg some, GuestAddress.checkedAdd_eq_some.mpr ⟨room, rfl⟩]
  exact List.any_eq_true.mpr ⟨s, here, Bool.and_eq_true_iff.mpr ⟨inside, last⟩⟩

theorem readExact_iff {n : Nat} (sound : m.Sound) :
    (∃ data, m.readExact a n = .ok data) ↔ m.Holds a n := by
  refine ⟨fun ⟨data, done⟩ => ?_, fun holds => ⟨_, readExact_holds sound holds⟩⟩
  by_cases mapped : m.Mapped a
  · obtain ⟨s, here, inside⟩ := mapped_iff.mp mapped
    have high := (Region.contains_iff.mp inside).2
    rw [sound.readExact here inside] at done
    split at done
    · exact ⟨s, here, inside, by omega⟩
    · cases done
  · rw [readExact_unmapped mapped] at done
    cases done

theorem writeAll_iff {data : List UInt8} (sound : m.Sound) :
    (m.writeAll a data).1 = .ok () ↔ m.Holds a data.length := by
  constructor
  · intro done
    by_cases mapped : m.Mapped a
    · obtain ⟨s, here, inside⟩ := mapped_iff.mp mapped
      have high := (Region.contains_iff.mp inside).2
      obtain ⟨m', written, _⟩ := sound.writeAll here inside data
      rw [written] at done
      split at done
      · exact ⟨s, here, inside, by omega⟩
      · cases done
    · rw [writeAll_unmapped mapped] at done
      cases done
  · intro holds
    obtain ⟨m', written, _⟩ := writeAll_holds sound holds
    rw [written]

theorem holds_spanned {n : Nat} (laid : m.layout = (fresh ranges).layout) :
    m.Holds a n ↔ ∃ r ∈ ranges, r.Spans a ∧ a.toNat + n ≤ r.last := by
  have made : (fresh ranges).Holds a n ↔ ∃ r ∈ ranges, r.Spans a ∧ a.toNat + n ≤ r.last := by
    simp only [Holds, fresh, List.mem_map, exists_exists_and_eq_and, Range.region_contains,
      Range.region_last]
  exact ⟨fun holds => made.mp (holds.congr laid.symm), fun holds => (made.mpr holds).congr laid⟩

-- Neither the check nor an access takes the range.
structure Refused (m : GuestMemory) (a : GuestAddress) (len : UInt64) : Prop where
  invalid : m.validRange a len = false
  unread : ∀ data, m.readExact a len.toNat ≠ .ok data
  unwritten : ∀ data, data.length = len.toNat → (m.writeAll a data).1 ≠ .ok ()

theorem Sound.refused (sound : m.Sound) (some : len ≠ 0) (outside : ¬ m.Holds a len.toNat) :
    m.Refused a len where
  invalid := Bool.eq_false_iff.mpr fun valid => outside ((validRange_iff sound some).mp valid)
  unread _ done := outside ((readExact_iff sound).mp ⟨_, done⟩)
  unwritten _ sized done := outside (sized ▸ (writeAll_iff sound).mp done)

-- The check of a range that is not empty tells of a read and of a write whether they will succeed.
-- What begins in one region and does not end there is refused, whatever follows the region, and so
-- is what does not end below 2 ^ 64.
theorem validRange_accesses [Host] {uses : List Use} {h : Handles} {i : Nat}
    (admissible : Admissible ranges) (done : (Handles.of (fresh ranges)).run uses = some h)
    (named : h.memory? i = some m) (a : GuestAddress) (nonempty : len ≠ 0) :
    (m.validRange a len = true ↔ ∃ data, m.readExact a len.toNat = .ok data) ∧
    (∀ data, data.length = len.toNat →
      (m.validRange a len = true ↔ (m.writeAll a data).1 = .ok ())) ∧
    (m.validRange a len = true ↔ ∃ r ∈ ranges, r.Spans a ∧ a.toNat + len.toNat ≤ r.last) ∧
    (∀ r ∈ ranges, r.Spans a → r.last < a.toNat + len.toNat → m.Refused a len) ∧
    (UInt64.size ≤ a.toNat + len.toNat → m.Refused a len) := by
  have laid := Handles.run_laid admissible done named
  have sound : m.Sound := admissible.sound.congr laid
  have valid := validRange_iff (a := a) sound nonempty
  refine ⟨valid.trans (readExact_iff sound).symm, ?_, valid.trans (holds_spanned laid), ?_, ?_⟩
  · intro data sized
    rw [valid, ← sized]
    exact (writeAll_iff sound).symm
  · intro r here spans past
    obtain ⟨s, there, inside, last⟩ := region_spanned laid here spans
    refine sound.refused nonempty fun holds => ?_
    have fits := (sound.holds_iff there inside).mp holds
    omega
  · intro wraps
    exact sound.refused nonempty fun holds => Nat.not_lt.mpr wraps (sound.fits holds)

-- The last bytes of the first of two regions that touch, one byte more, and a range that wraps.
theorem validRange_accesses_touching :
    Admissible touching ∧
    (Handles.of (fresh touching)).run [] = some (Handles.of (fresh touching)) ∧
    (Handles.of (fresh touching)).memory? 0 = some (fresh touching) ∧
    (fresh touching).validRange 0x1ff0 0x10 = true ∧
    (∃ data, (fresh touching).readExact 0x1ff0 0x10 = .ok data) ∧
    (fresh touching).Refused 0x1ff0 0x11 ∧ (fresh touching).Refused 0xffffffffffffffff 2 := by
  have run : (Handles.of (fresh touching)).run [] = some (Handles.of (fresh touching)) := rfl
  have named : (Handles.of (fresh touching)).memory? 0 = some (fresh touching) := rfl
  have accesses (a : GuestAddress) {len : UInt64} (some : len ≠ 0) :=
    validRange_accesses touching_admissible run named a some
  have listed : (0x1000, 0x1000) ∈ touching := by decide
  obtain ⟨read, _, spanned, _⟩ := accesses 0x1ff0 (by decide : (0x10 : UInt64) ≠ 0)
  obtain ⟨_, _, _, past, _⟩ := accesses 0x1ff0 (by decide : (0x11 : UInt64) ≠ 0)
  obtain ⟨_, _, _, _, wraps⟩ := accesses 0xffffffffffffffff (by decide : (2 : UInt64) ≠ 0)
  have valid := spanned.mpr ⟨_, listed, by decide, by decide⟩
  exact ⟨touching_admissible, run, named, valid, read.mp valid, past _ listed (by decide) (by decide),
    wraps (by decide)⟩

end VmMonitor.GuestMemory
