import VmMonitor.Memory.Bytes
import VmMonitor.Proofs.Register.Laid

/-!
A block of registers over everything that is done with it. An access goes to the one register that
covers it or to none, the bytes of an access that succeeds are views of that register, and a refused
access changes nothing.
-/

namespace VmMonitor

open Checked

namespace RegisterSpace

-- What is done with a block, by the guest and by the device. Who is refused does nothing.

inductive Use where
  | read (offset : UInt64) (width : Width)
  | write (offset : UInt64) (width : Width) (value : UInt64)
  | setValue (offset value : UInt64)
  | setBits (offset mask : UInt64)
  | clearBits (offset mask : UInt64)
  | reset

def use (s : RegisterSpace) : Use → Checked RegisterSpace
  | .read offset width => do
      let _ ← s.read offset width
      return s
  | .write offset width value => do
      match ← s.write offset width value with
      | .ok (_, s') => return s'
      | .error _ => return s
  | .setValue offset value => .ok (s.setValue offset value)
  | .setBits offset mask => .ok (s.setBits offset mask)
  | .clearBits offset mask => .ok (s.clearBits offset mask)
  | .reset => .ok s.reset

def run (s : RegisterSpace) (uses : List Use) : Checked RegisterSpace := uses.foldlM use s

-- The end of an access can be counted.
def Use.Counted : Use → Prop
  | .read offset width | .write offset width _ => offset.toNat + width.bytes < UInt64.size
  | _ => True

instance (u : Use) : Decidable u.Counted :=
  match u with
  | .read .. | .write .. => inferInstanceAs (Decidable (_ < _))
  | .setValue .. | .setBits .. | .clearBits .. | .reset => inferInstanceAs (Decidable True)

-- The bytes of a store, each at its own offset.
def lanes (offset value : UInt64) (w : Width) : List (UInt64 × UInt8) :=
  (List.range w.bytes).map fun i =>
    (offset + UInt64.ofNat i, UInt8.ofNat (value.toNat / 256 ^ i))

-- Stores of single bytes, one after the other.
def storeBytes (s : RegisterSpace) :
    List (UInt64 × UInt8) → Checked (Except RegisterError RegisterSpace)
  | [] => .ok (.ok s)
  | (offset, byte) :: rest => do
      match ← s.write offset .byte byte.toUInt64 with
      | .error e => return .error e
      | .ok (_, s') => s'.storeBytes rest

variable {s s' : RegisterSpace} {specs : List RegisterSpec} {p : RegisterSpec} {r : Register}
  {offset value : UInt64} {width : Width}

-- The register that covers an access answers it, and without one nobody does.

theorem Laid.asked (laid : s.Laid) (here : r ∈ s.registers) (covers : r.spec.Covers offset width) :
    s.get? offset = some r := laid.get_iff.mpr ⟨here, covers.holds⟩

theorem Laid.read_covered (laid : s.Laid) (here : r ∈ s.registers)
    (covers : r.spec.Covers offset width) (may : r.spec.access.readable = true) :
    ∃ v, s.read offset width = .ok (.ok v) ∧
      v.toNat = Bits.field r.value.toNat (r.spec.start offset) (8 * width.bytes) := by
  unfold read
  rw [laid.asked here covers]
  exact Register.read_lane (laid.register here).1 covers may

theorem Laid.write_covered (laid : s.Laid) (here : r ∈ s.registers)
    (covers : r.spec.Covers offset width) (may : r.spec.access.writeable = true) (value : UInt64) :
    ∃ x, s.write offset width value = .ok (.ok (r.spec.offset, s.put ⟨r.spec, x⟩)) ∧
      r.spec.Stored offset value (r.spec.Lane offset width) r.value x := by
  obtain ⟨x, wrote, stored⟩ := Register.write_lane (laid.register here).1 covers may value
  have found := laid.asked here covers
  refine ⟨x, ?_, stored⟩
  rw [← laid.update_put (f := fun _ => ⟨r.spec, x⟩) found rfl]
  obtain ⟨t, held, rfl⟩ := Option.map_eq_some_iff.mp found
  exact write_slot held wrote

theorem Laid.read_refused (laid : s.Laid)
    (nobody : ¬ ∃ p ∈ s.specs, p.Covers offset width ∧ p.access.readable = true) :
    (∃ e, s.read offset width = .ok (.error e)) ∨
      UInt64.size ≤ offset.toNat + width.bytes ∧ s.read offset width = .error .overflow := by
  unfold read
  cases found : s.get? offset with
  | none => exact .inl ⟨_, rfl⟩
  | some r =>
      have here := (laid.get_iff.mp found).1
      exact Register.read_refused (laid.register here).1
        fun both => nobody ⟨r.spec, List.mem_map_of_mem here, both⟩

theorem Laid.write_refused (laid : s.Laid)
    (nobody : ¬ ∃ p ∈ s.specs, p.Covers offset width ∧ p.access.writeable = true) (value : UInt64) :
    (∃ e, s.write offset width value = .ok (.error e)) ∨
      UInt64.size ≤ offset.toNat + width.bytes ∧
        s.write offset width value = .error .overflow := by
  unfold write
  cases found : s.get? offset with
  | none => exact .inl ⟨_, rfl⟩
  | some r =>
      have here := (laid.get_iff.mp found).1
      rcases Register.write_refused (laid.register here).1
        (fun both => nobody ⟨r.spec, List.mem_map_of_mem here, both⟩) value with
        ⟨e, refused⟩ | ⟨past, none⟩
      · exact .inl ⟨e, bind_ok refused⟩
      · refine .inr ⟨past, ?_⟩
        change (r.write offset width value >>= _) = _
        rw [none]
        rfl

-- An access succeeds just where one register covers it and lets it pass.

theorem Laid.read_iff (laid : s.Laid) (offset : UInt64) (width : Width) :
    (∃ v, s.read offset width = .ok (.ok v)) ↔
      ∃ p ∈ s.specs, p.Covers offset width ∧ p.access.readable = true := by
  constructor
  · rintro ⟨v, answered⟩
    by_contra nobody
    rcases laid.read_refused nobody with ⟨e, refused⟩ | ⟨_, none⟩
    · rw [answered] at refused
      cases refused
    · rw [answered] at none
      cases none
  · rintro ⟨p, listed, covers, may⟩
    obtain ⟨r, here, rfl⟩ := List.mem_map.mp listed
    obtain ⟨v, answered, _⟩ := laid.read_covered here covers may
    exact ⟨v, answered⟩

theorem Laid.write_iff (laid : s.Laid) (offset : UInt64) (width : Width) (value : UInt64) :
    (∃ done, s.write offset width value = .ok (.ok done)) ↔
      ∃ p ∈ s.specs, p.Covers offset width ∧ p.access.writeable = true := by
  constructor
  · rintro ⟨done, wrote⟩
    by_contra nobody
    rcases laid.write_refused nobody value with ⟨e, refused⟩ | ⟨_, none⟩
    · rw [wrote] at refused
      cases refused
    · rw [wrote] at none
      cases none
  · rintro ⟨p, listed, covers, may⟩
    obtain ⟨r, here, rfl⟩ := List.mem_map.mp listed
    obtain ⟨x, wrote, _⟩ := laid.write_covered here covers may value
    exact ⟨_, wrote⟩

-- What a load that succeeds has met, and what a store that succeeds has done.

theorem Laid.read_done (laid : s.Laid) (done : s.read offset width = .ok (.ok value)) :
    ∃ r ∈ s.registers, r.spec.Covers offset width ∧ r.spec.access.readable = true ∧
      value.toNat = Bits.field r.value.toNat (r.spec.start offset) (8 * width.bytes) := by
  obtain ⟨p, listed, covers, may⟩ := (laid.read_iff offset width).mp ⟨value, done⟩
  obtain ⟨r, here, rfl⟩ := List.mem_map.mp listed
  obtain ⟨v, answered, bits⟩ := laid.read_covered here covers may
  rw [done] at answered
  cases answered
  exact ⟨r, here, covers, may, bits⟩

theorem Laid.write_done (laid : s.Laid) {base : UInt64}
    (done : s.write offset width value = .ok (.ok (base, s'))) :
    ∃ r ∈ s.registers, ∃ x, r.spec.Covers offset width ∧ r.spec.access.writeable = true ∧
      base = r.spec.offset ∧ s' = s.put ⟨r.spec, x⟩ ∧
      r.spec.Stored offset value (r.spec.Lane offset width) r.value x := by
  obtain ⟨p, listed, covers, may⟩ := (laid.write_iff offset width value).mp ⟨_, done⟩
  obtain ⟨r, here, rfl⟩ := List.mem_map.mp listed
  obtain ⟨x, wrote, stored⟩ := laid.write_covered here covers may value
  rw [done] at wrote
  cases wrote
  exact ⟨r, here, x, covers, may, rfl, rfl, stored⟩

-- The byte at a place of a word.
theorem byte_toNat (n i : Nat) :
    (UInt8.ofNat (n / 256 ^ i)).toUInt64.toNat = Bits.field n (8 * i) 8 := by
  rw [UInt8.toNat_toUInt64, UInt8.toNat_ofNat', show (256 : Nat) = 2 ^ 8 from rfl, ← Nat.pow_mul]
  rfl

-- A load is put together from loads of its bytes, the lowest first.
theorem Laid.read_bytes (laid : s.Laid) (done : s.read offset width = .ok (.ok value)) :
    ∃ bytes : List UInt8, bytes.length = width.bytes ∧ value.toNat = Bytes.toNat bytes ∧
      ∀ i, (inside : i < bytes.length) →
        s.read (offset + UInt64.ofNat i) .byte = .ok (.ok bytes[i].toUInt64) := by
  obtain ⟨r, here, covers, may, bits⟩ := laid.read_done done
  have sound := (laid.register here).1
  have fits : value.toNat < 256 ^ width.bytes := by
    rw [bits, show (256 : Nat) = 2 ^ 8 from rfl, ← Nat.pow_mul]
    exact Bits.field_lt ..
  refine ⟨Bytes.ofNat value.toNat width.bytes, Bytes.length_ofNat .., ?_, fun i inside => ?_⟩
  · rw [Bytes.toNat_ofNat]
    exact (Nat.mod_eq_of_lt fits).symm
  · rw [Bytes.length_ofNat] at inside
    obtain ⟨part, start⟩ := covers.byte sound inside
    obtain ⟨v, answered, lane⟩ := laid.read_covered here part may
    have same : v = (UInt8.ofNat (value.toNat / 256 ^ i)).toUInt64 := by
      apply UInt64.toNat_inj.mp
      rw [byte_toNat, bits, Bits.field_field (by omega), lane, start]
      rfl
    rw [answered, Bytes.getElem_ofNat, same]
    rfl

-- One byte of a store: where it goes and what its bits are.
structure Piece (p : RegisterSpec) (offset value : UInt64) (piece : UInt64 × UInt8) : Prop where
  covers : p.Covers piece.1 .byte
  bits : ∀ k, p.Lane piece.1 .byte k →
    piece.2.toUInt64.toNat.testBit (k - p.start piece.1) = value.toNat.testBit (k - p.start offset)

theorem lanes_piece (sound : p.Sound) (covers : p.Covers offset width) :
    ∀ piece ∈ lanes offset value width, Piece p offset value piece := by
  intro piece listed
  obtain ⟨i, inside, rfl⟩ := List.mem_map.mp listed
  obtain ⟨part, start⟩ := covers.byte sound (List.mem_range.mp inside)
  refine ⟨part, fun k lane => ?_⟩
  unfold RegisterSpec.Lane at lane
  rw [start, show Width.byte.bytes = 1 from rfl] at lane
  rw [byte_toNat, start, Bits.field, Nat.testBit_mod_two_pow, Nat.testBit_div_two_pow,
    decide_eq_true (by omega), Bool.true_and]
  congr 1
  omega

theorem lanes_bits (sound : p.Sound) (covers : p.Covers offset width) (k : Nat) :
    (∃ piece ∈ lanes offset value width, p.Lane piece.1 .byte k) ↔ p.Lane offset width k := by
  unfold RegisterSpec.Lane
  rw [show Width.byte.bytes = 1 from rfl]
  constructor
  · rintro ⟨piece, listed, lane⟩
    obtain ⟨i, inside, rfl⟩ := List.mem_map.mp listed
    have few := List.mem_range.mp inside
    have start := (covers.byte sound few).2
    dsimp only at lane
    omega
  · intro lane
    have few : (k - p.start offset) / 8 < width.bytes := by omega
    have start := (covers.byte sound few).2
    refine ⟨_, List.mem_map_of_mem (List.mem_range.mpr few), ?_⟩
    dsimp only
    omega

theorem Laid.storeBytes_put (laid : s.Laid) (here : r ∈ s.registers)
    (may : r.spec.access.writeable = true) {pieces : List (UInt64 × UInt8)}
    (parts : ∀ piece ∈ pieces, Piece r.spec offset value piece) :
    ∃ x, s.storeBytes pieces = .ok (.ok (s.put ⟨r.spec, x⟩)) ∧
      r.spec.Stored offset value (fun k => ∃ piece ∈ pieces, r.spec.Lane piece.1 .byte k)
        r.value x := by
  induction pieces generalizing s r with
  | nil =>
      refine ⟨r.value, congrArg (Except.ok ∘ Except.ok) (laid.put_self here).symm, ?_⟩
      exact (RegisterSpec.Stored.nothing ..).congr fun k => by simp
  | cons piece rest ih =>
      obtain ⟨own, others⟩ := List.forall_mem_cons.mp parts
      obtain ⟨x, wrote, stored⟩ := laid.write_covered here own.covers may piece.2.toUInt64
      have fits : (⟨r.spec, x⟩ : Register).Fits := stored.fits own.covers (laid.register here).2
      have first : r.spec.Stored offset value (r.spec.Lane piece.1 .byte) r.value x :=
        ⟨fun k about writeable => (stored.inside k about writeable).trans (own.bits k about),
          stored.outside⟩
      have listed : r.spec ∈ s.specs := List.mem_map_of_mem here
      have there : (⟨r.spec, x⟩ : Register) ∈ (s.put ⟨r.spec, x⟩).registers :=
        (mem_put (r := ⟨r.spec, x⟩) listed).mpr (.inl rfl)
      obtain ⟨y, done, second⟩ := ih (laid.put fits) there may others
      refine ⟨y, ?_, (first.trans second).congr fun k => by simp⟩
      rw [storeBytes, bind_ok wrote]
      exact done.trans (congrArg (Except.ok ∘ Except.ok) (put_put rfl))

-- A store is as good as the stores of its bytes, in whatever order.
theorem Laid.write_bytes (laid : s.Laid) {base : UInt64}
    (done : s.write offset width value = .ok (.ok (base, s'))) {pieces : List (UInt64 × UInt8)}
    (order : pieces.Perm (lanes offset value width)) : s.storeBytes pieces = .ok (.ok s') := by
  obtain ⟨r, here, x, covers, may, rfl, rfl, stored⟩ := laid.write_done done
  have sound := (laid.register here).1
  have parts : ∀ piece ∈ pieces, Piece r.spec offset value piece := fun piece listed =>
    lanes_piece sound covers piece (order.mem_iff.mp listed)
  obtain ⟨y, wrote, pieced⟩ := laid.storeBytes_put here may parts
  have all : ∀ k, (∃ piece ∈ pieces, r.spec.Lane piece.1 .byte k) ↔ r.spec.Lane offset width k := by
    intro k
    simp only [order.mem_iff]
    exact lanes_bits sound covers k
  rw [wrote, (pieced.congr all).unique stored]

theorem Laid.use (laid : s.Laid) {u : Use} (done : s.use u = .ok s') :
    s'.Laid ∧ s'.specs = s.specs := by
  cases u with
  | read offset width =>
      obtain ⟨answer, _, done⟩ := bind_eq_ok.mp done
      cases done
      exact ⟨laid, rfl⟩
  | write offset width value =>
      obtain ⟨answer, wrote, done⟩ := bind_eq_ok.mp done
      cases answer with
      | error e =>
          cases done
          exact ⟨laid, rfl⟩
      | ok found =>
          obtain ⟨base, written⟩ := found
          cases done
          obtain ⟨r, here, x, covers, _, _, rfl, stored⟩ := laid.write_done wrote
          have fits : (⟨r.spec, x⟩ : Register).Fits := stored.fits covers (laid.register here).2
          exact ⟨laid.put fits, put_specs ..⟩
  | setValue offset value =>
      cases done
      exact laid.update offset (fun _ => rfl) fun r sound _ => Register.setValue_fits sound _
  | setBits offset mask =>
      cases done
      exact laid.update offset (fun _ => rfl) fun r sound _ => Register.setValue_fits sound _
  | clearBits offset mask =>
      cases done
      exact laid.update offset (fun _ => rfl) fun r _ fits => Register.clearBits_fits fits _
  | reset =>
      cases done
      refine ⟨laid.reset, ?_⟩
      unfold RegisterSpace.specs
      rw [reset_registers, List.map_map]
      exact List.map_id _

theorem Laid.run (laid : s.Laid) {uses : List Use} (done : s.run uses = .ok s') :
    s'.Laid ∧ s'.specs = s.specs := by
  induction uses generalizing s with
  | nil =>
      cases done
      exact ⟨laid, rfl⟩
  | cons u rest ih =>
      unfold RegisterSpace.run at done
      rw [List.foldlM_cons] at done
      obtain ⟨middle, used, done⟩ := bind_eq_ok.mp done
      obtain ⟨laid', same⟩ := laid.use used
      obtain ⟨laid'', same'⟩ := ih laid' done
      exact ⟨laid'', same'.trans same⟩

-- As long as ends can be counted, everything that is done comes to an end.

theorem Laid.use_ok (laid : s.Laid) {u : Use} (counted : u.Counted) : ∃ s', s.use u = .ok s' := by
  cases u with
  | read offset width =>
      have answered : ∃ answer, s.read offset width = .ok answer := by
        by_cases may : ∃ p ∈ s.specs, p.Covers offset width ∧ p.access.readable = true
        · obtain ⟨v, answered⟩ := (laid.read_iff offset width).mpr may
          exact ⟨_, answered⟩
        · rcases laid.read_refused may with ⟨e, refused⟩ | ⟨past, _⟩
          · exact ⟨_, refused⟩
          · exact absurd counted (Nat.not_lt.mpr past)
      obtain ⟨answer, answered⟩ := answered
      exact ⟨s, bind_ok answered⟩
  | write offset width value =>
      by_cases may : ∃ p ∈ s.specs, p.Covers offset width ∧ p.access.writeable = true
      · obtain ⟨done, wrote⟩ := (laid.write_iff offset width value).mpr may
        exact ⟨done.2, bind_ok wrote⟩
      · rcases laid.write_refused may value with ⟨e, refused⟩ | ⟨past, _⟩
        · exact ⟨s, bind_ok refused⟩
        · exact absurd counted (Nat.not_lt.mpr past)
  | setValue offset value => exact ⟨_, rfl⟩
  | setBits offset mask => exact ⟨_, rfl⟩
  | clearBits offset mask => exact ⟨_, rfl⟩
  | reset => exact ⟨_, rfl⟩

theorem Laid.run_ok (laid : s.Laid) {uses : List Use} (counted : ∀ u ∈ uses, u.Counted) :
    ∃ s', s.run uses = .ok s' := by
  induction uses generalizing s with
  | nil => exact ⟨s, rfl⟩
  | cons u rest ih =>
      obtain ⟨own, others⟩ := List.forall_mem_cons.mp counted
      obtain ⟨middle, used⟩ := laid.use_ok own
      obtain ⟨s', done⟩ := ih (laid.use used).1 others
      refine ⟨s', ?_⟩
      unfold RegisterSpace.run
      rw [List.foldlM_cons, bind_ok used]
      exact done

-- What a block of registers is to its guest and its device.
structure Exact (specs : List RegisterSpec) (s : RegisterSpace) : Prop where
  reads : ∀ offset width, (∃ v, s.read offset width = .ok (.ok v)) ↔
    ∃ p ∈ specs, p.Covers offset width ∧ p.access.readable = true
  writes : ∀ offset width value, (∃ done, s.write offset width value = .ok (.ok done)) ↔
    ∃ p ∈ specs, p.Covers offset width ∧ p.access.writeable = true
  refused : ∀ offset width value, offset.toNat + width.bytes < UInt64.size →
    ((¬ ∃ v, s.read offset width = .ok (.ok v)) →
      (∃ e, s.read offset width = .ok (.error e)) ∧ s.use (.read offset width) = .ok s) ∧
    ((¬ ∃ done, s.write offset width value = .ok (.ok done)) →
      (∃ e, s.write offset width value = .ok (.error e)) ∧
        s.use (.write offset width value) = .ok s)
  loaded : ∀ offset width v, s.read offset width = .ok (.ok v) →
    ∃ bytes : List UInt8, bytes.length = width.bytes ∧ v.toNat = Bytes.toNat bytes ∧
      ∀ i, (inside : i < bytes.length) →
        s.read (offset + UInt64.ofNat i) .byte = .ok (.ok bytes[i].toUInt64)
  stored : ∀ offset width value base s', s.write offset width value = .ok (.ok (base, s')) →
    (∀ pieces, pieces.Perm (lanes offset value width) → s.storeBytes pieces = .ok (.ok s')) ∧
    ∃ p ∈ specs, p.Covers offset width ∧ base = p.offset ∧
      p.Stored offset value (p.Lane offset width) (s.value p.offset) (s'.value p.offset) ∧
      ∀ other, ¬ p.Holds other → s'.get? other = s.get? other
  within : ∀ p ∈ specs, ∃ x, s.get? p.offset = some ⟨p, x⟩ ∧ x.toNat < 2 ^ (8 * p.size.toNat)
  restored : ∀ p ∈ specs, ∃ x, s.reset.get? p.offset = some ⟨p, x⟩ ∧
    x.toNat = p.resetValue.toNat % 2 ^ (8 * p.size.toNat)

theorem Laid.value_own (laid : s.Laid) (here : r ∈ s.registers) :
    s.value r.spec.offset = r.value := by
  have own := holds_start (laid.register here).1
  unfold RegisterSpace.value
  rw [laid.get_iff.mpr ⟨here, own⟩]

theorem Laid.exact (laid : s.Laid) (same : s.specs.Perm specs) : Exact specs s where
  reads offset width := by
    simp only [← same.mem_iff]
    exact laid.read_iff offset width
  writes offset width value := by
    simp only [← same.mem_iff]
    exact laid.write_iff offset width value
  refused offset width value counted := by
    constructor
    · intro fails
      rcases laid.read_refused fun may => fails ((laid.read_iff offset width).mpr may) with
        ⟨e, refused⟩ | ⟨past, _⟩
      · exact ⟨⟨e, refused⟩, bind_ok refused⟩
      · exact absurd counted (Nat.not_lt.mpr past)
    · intro fails
      rcases laid.write_refused (fun may => fails ((laid.write_iff offset width value).mpr may))
        value with ⟨e, refused⟩ | ⟨past, _⟩
      · exact ⟨⟨e, refused⟩, bind_ok refused⟩
      · exact absurd counted (Nat.not_lt.mpr past)
  loaded _ _ _ done := laid.read_bytes done
  stored offset width value base s' done := by
    refine ⟨fun pieces order => laid.write_bytes done order, ?_⟩
    obtain ⟨r, here, x, covers, _, based, rfl, stored⟩ := laid.write_done done
    have listed : r.spec ∈ s.specs := List.mem_map_of_mem here
    have fits : (⟨r.spec, x⟩ : Register).Fits := stored.fits covers (laid.register here).2
    have there : (⟨r.spec, x⟩ : Register) ∈ (s.put ⟨r.spec, x⟩).registers :=
      (mem_put (r := ⟨r.spec, x⟩) listed).mpr (.inl rfl)
    refine ⟨r.spec, same.mem_iff.mp listed, covers, based, ?_, fun other foreign => ?_⟩
    · rw [laid.value_own here, (laid.put fits).value_own there]
      exact stored
    · rw [laid.put_get fits listed, if_neg foreign]
  within p listed := by
    obtain ⟨r, here, rfl⟩ := List.mem_map.mp (same.mem_iff.mpr listed)
    obtain ⟨sound, fits⟩ := laid.register here
    exact ⟨r.value, laid.get_iff.mpr ⟨here, holds_start sound⟩, fits⟩
  restored p listed := by
    have fresh : Register.new p ∈ s.reset.registers := by
      rw [reset_registers]
      exact List.mem_map_of_mem (same.mem_iff.mpr listed)
    have sound : p.Sound := (laid.reset.register fresh).1
    exact ⟨_, laid.reset.get_iff.mpr ⟨fresh, holds_start sound⟩, Register.masked_toNat sound _⟩

-- Whatever was done with a block since it was laid out from registers that lie apart.
theorem block_exact (sound : ∀ p ∈ specs, p.Sound) (apart : specs.Pairwise RegisterSpec.Apart) :
    build specs = .ok (ofSpecs specs) ∧ ∀ uses,
      ((∀ u ∈ uses, u.Counted) → ∃ s, (ofSpecs specs).run uses = .ok s) ∧
      ∀ s, (ofSpecs specs).run uses = .ok s → Exact specs s := by
  obtain ⟨built, laid, same⟩ := build_laid sound apart
  refine ⟨built, fun uses => ⟨laid.run_ok, fun s done => ?_⟩⟩
  obtain ⟨laid', kept⟩ := laid.run done
  exact laid'.exact (kept ▸ same)

-- The upper half of one register is stored, and the device raises a bit of its neighbour.
def neighbours : List RegisterSpec :=
  [.word "B" .readWrite 4 7 0xffffffffffffffff, .word "A" .readWrite 0 0 0xffffffffffffffff,
    .fixed "ID" 8 0x4d]

theorem block_exact_neighbours :
    (∀ p ∈ neighbours, p.Sound) ∧ neighbours.Pairwise RegisterSpec.Apart ∧
    build neighbours = .ok (ofSpecs neighbours) ∧
    ∃ s, (ofSpecs neighbours).run [.write 6 .half 0xffff, .setBits 0 0x10] = .ok s ∧
      Exact neighbours s ∧ s.read 4 .word = .ok (.ok 0xffff0007) ∧ s.value 0 = 0x10 := by
  have sound : ∀ p ∈ neighbours, p.Sound := by decide
  have apart : neighbours.Pairwise RegisterSpec.Apart := by decide
  obtain ⟨built, runs⟩ := block_exact sound apart
  obtain ⟨run, exact⟩ := runs [.write 6 .half 0xffff, .setBits 0 0x10]
  obtain ⟨s, done⟩ := run (by decide)
  refine ⟨sound, apart, built, s, done, exact s done, ?_⟩
  cases done
  decide

end RegisterSpace

end VmMonitor
