import Mathlib.Data.List.Perm.Basic
import VmMonitor.Proofs.Register.Lanes
import VmMonitor.Proofs.Register.Space

/-!
The layout of a block of registers that lie apart. The block keeps them in ascending order, so that
the last one that begins at or below an offset is the only one that can hold it; and whatever changes
the value of one register leaves the layout and the other registers alone.
-/

namespace VmMonitor

open Checked

namespace RegisterSpace

def build (specs : List RegisterSpec) : Checked RegisterSpace := specs.foldlM add empty

def registers (s : RegisterSpace) : List Register := s.slots.map (·.register)

def specs (s : RegisterSpace) : List RegisterSpec := s.registers.map (·.spec)

-- Another value for a register, which is told by its description.
def put (s : RegisterSpace) (r : Register) : RegisterSpace :=
  ⟨s.slots.map fun t => if t.register.spec = r.spec then { t with register := r } else t⟩

-- A register at its own offsets and within its size.
structure Kept (t : RegisterSlot) : Prop where
  sound : t.register.spec.Sound
  place : t.range = t.register.spec.span
  fits : t.register.Fits

-- The registers in ascending order and apart.
structure Laid (s : RegisterSpace) : Prop where
  ordered : s.slots.Pairwise fun t u =>
    t.register.spec.offset.toNat + t.register.spec.size.toNat ≤ u.register.spec.offset.toNat
  kept : ∀ t ∈ s.slots, Kept t

variable {s : RegisterSpace} {slots : List RegisterSlot} {specs : List RegisterSpec}
  {p : RegisterSpec} {r r' : Register} {t : RegisterSlot} {offset : UInt64}

theorem fresh_kept (sound : p.Sound) : Kept ⟨p.span, .new p⟩ :=
  ⟨sound, rfl, Register.new_fits sound⟩

theorem empty_laid : empty.Laid := ⟨.nil, nofun⟩

theorem Kept.first (kept : Kept t) : t.range.first = t.register.spec.offset := by
  rw [kept.place]
  rfl

-- Which of two registers that lie apart comes first.
theorem Kept.order (kept : Kept t) (sound : p.Sound) (apart : p.Apart t.register.spec) :
    p.span.order t.range = .lt ∧
        p.offset.toNat + p.size.toNat ≤ t.register.spec.offset.toNat ∨
      p.span.order t.range = .gt ∧
        t.register.spec.offset.toNat + t.register.spec.size.toNat ≤ p.offset.toNat := by
  have positive := sound.bytes.1
  have positive' := kept.sound.bytes.1
  unfold RegisterRange.order
  rw [kept.first, show p.span.first = p.offset from rfl]
  change compareOfLessAndEq _ _ = _ ∧ _ ∨ compareOfLessAndEq _ _ = _ ∧ _
  unfold compareOfLessAndEq
  rcases apart with below | above
  · have less : p.offset < t.register.spec.offset := UInt64.lt_iff_toNat_lt.mpr (by omega)
    exact .inl ⟨if_pos less, below⟩
  · have more : t.register.spec.offset.toNat < p.offset.toNat := by omega
    refine .inr ⟨?_, above⟩
    rw [if_neg fun less => Nat.lt_asymm more (UInt64.lt_iff_toNat_lt.mp less),
      if_neg fun equal => Nat.ne_of_gt more (congrArg UInt64.toNat equal)]

-- A register apart from all others gets a place of its own, between those below and those above.
theorem place_laid (sound : p.Sound) (laid : Laid ⟨slots⟩)
    (apart : ∀ t ∈ slots, p.Apart t.register.spec) :
    (place p.span (.new p) slots).Perm (⟨p.span, .new p⟩ :: slots) ∧
      Laid ⟨place p.span (.new p) slots⟩ := by
  induction slots with
  | nil =>
      exact ⟨.refl _, List.pairwise_singleton .., List.forall_mem_singleton.mpr (fresh_kept sound)⟩
  | cons t rest ih =>
      obtain ⟨first, later⟩ := List.pairwise_cons.mp laid.ordered
      obtain ⟨here, others⟩ := List.forall_mem_cons.mp laid.kept
      obtain ⟨beside, apart⟩ := List.forall_mem_cons.mp apart
      have some := here.sound.bytes.1
      unfold place
      rcases here.order sound beside with ⟨order, below⟩ | ⟨order, above⟩ <;> rw [order]
      · refine ⟨.refl _, List.pairwise_cons.mpr ⟨List.forall_mem_cons.mpr ⟨below, fun u old => ?_⟩,
          laid.ordered⟩, List.forall_mem_cons.mpr ⟨fresh_kept sound, laid.kept⟩⟩
        have next := first u old
        change p.offset.toNat + p.size.toNat ≤ _
        omega
      · obtain ⟨perm, placed⟩ := ih ⟨later, others⟩ apart
        refine ⟨(perm.cons t).trans (.swap ..), List.pairwise_cons.mpr ⟨fun u listed => ?_,
          placed.ordered⟩, List.forall_mem_cons.mpr ⟨here, placed.kept⟩⟩
        rcases List.mem_cons.mp (perm.mem_iff.mp listed) with rfl | old
        · exact above
        · exact first u old

theorem spec_mem (here : t ∈ s.slots) : t.register.spec ∈ s.specs :=
  List.mem_map_of_mem (List.mem_map_of_mem here)

theorem add_laid (laid : s.Laid) (sound : p.Sound) (apart : ∀ q ∈ s.specs, p.Apart q) :
    s.add p = .ok ⟨place p.span (.new p) s.slots⟩ ∧ Laid ⟨place p.span (.new p) s.slots⟩ ∧
      (⟨place p.span (.new p) s.slots⟩ : RegisterSpace).specs.Perm (p :: s.specs) := by
  obtain ⟨perm, placed⟩ := place_laid sound laid fun t here => apart _ (spec_mem here)
  refine ⟨?_, placed, (perm.map _).map _⟩
  unfold add
  rw [bind_ok sound.span.1]
  rfl

theorem adds_laid (laid : s.Laid) (sound : ∀ p ∈ specs, p.Sound)
    (apart : (s.specs ++ specs).Pairwise RegisterSpec.Apart) :
    let s' : RegisterSpace :=
      ⟨specs.foldl (fun slots p => place p.span (.new p) slots) s.slots⟩
    specs.foldlM add s = .ok s' ∧ s'.Laid ∧ s'.specs.Perm (s.specs ++ specs) := by
  induction specs generalizing s with
  | nil => exact ⟨rfl, laid, by rw [List.append_nil]; exact .refl _⟩
  | cons p rest ih =>
      obtain ⟨own, others⟩ := List.forall_mem_cons.mp sound
      have beside : ∀ q ∈ s.specs, p.Apart q := fun q here =>
        ((List.pairwise_append.mp apart).2.2 q here p (List.mem_cons_self ..)).symm
      obtain ⟨added, laid', perm⟩ := add_laid laid own beside
      have order := (perm.append_right rest).trans List.perm_middle.symm
      have apart' := (order.pairwise_iff RegisterSpec.Apart.symm).mpr apart
      obtain ⟨done, laid'', perm'⟩ := ih laid' others apart'
      refine ⟨?_, laid'', perm'.trans order⟩
      rw [List.foldlM_cons, bind_ok added]
      exact done

-- Registers that lie apart find their places in whatever order they are added.
theorem build_laid (sound : ∀ p ∈ specs, p.Sound) (apart : specs.Pairwise RegisterSpec.Apart) :
    build specs = .ok (ofSpecs specs) ∧ (ofSpecs specs).Laid ∧ (ofSpecs specs).specs.Perm specs :=
  adds_laid empty_laid sound apart

-- No two registers begin at one offset.
theorem Laid.tidy (laid : s.Laid) : s.Tidy := by
  unfold Tidy shape
  rw [List.map_map]
  refine List.pairwise_map.mpr (laid.ordered.imp_of_mem fun {t u} here there below equal => ?_)
  have positive := (laid.kept t here).sound.bytes.1
  simp only [Function.comp_apply, (laid.kept t here).first, (laid.kept u there).first] at equal
  rw [equal] at below
  omega

-- A register covers an offset if that lies between its first and its last one.
theorem Kept.holds_iff (kept : Kept t) : t.register.spec.Holds offset ↔
    t.range.first ≤ offset ∧ offset ≤ t.range.final := by
  have positive := kept.sound.bytes.1
  rw [kept.place, UInt64.le_iff_toNat_le, UInt64.le_iff_toNat_le, kept.sound.span.2]
  unfold RegisterSpec.Holds
  change _ ↔ t.register.spec.offset.toNat ≤ _ ∧ _
  omega

-- Of the registers that begin at or below an offset inside one of them, that one is the last.
theorem Laid.slot_iff (laid : s.Laid) :
    s.slot? offset = some t ↔ t ∈ s.slots ∧ t.register.spec.Holds offset := by
  constructor
  · intro found
    have here := slot_mem found
    obtain ⟨last, reaches⟩ := Option.filter_eq_some_iff.mp found
    have begins := (List.mem_filter.mp (List.mem_of_getLast? last)).2
    exact ⟨here, (laid.kept t here).holds_iff.mpr
      ⟨of_decide_eq_true begins, of_decide_eq_true reaches⟩⟩
  · rintro ⟨here, holds⟩
    obtain ⟨begins, reaches⟩ := (laid.kept t here).holds_iff.mp holds
    obtain ⟨before, after, split⟩ := List.append_of_mem here
    have ordered := laid.ordered
    rw [split] at ordered
    have past : after.filter (·.range.first ≤ offset) = [] := by
      refine List.filter_eq_nil_iff.mpr fun u later => ?_
      have next := List.rel_of_pairwise_cons (List.pairwise_append.mp ordered).2.1 later
      have kept := laid.kept u (by rw [split]; simp [later])
      have bound := holds.2
      rw [decide_eq_true_iff, kept.first, UInt64.le_iff_toNat_le]
      omega
    unfold slot?
    rw [split, List.filter_append, List.filter_cons_of_pos (by simpa using begins), past,
      List.getLast?_concat]
    exact Option.filter_eq_some_iff.mpr ⟨rfl, decide_eq_true reaches⟩

theorem Laid.get_iff (laid : s.Laid) :
    s.get? offset = some r ↔ r ∈ s.registers ∧ r.spec.Holds offset := by
  unfold get? registers
  rw [Option.map_eq_some_iff, List.mem_map]
  constructor
  · rintro ⟨t, found, rfl⟩
    obtain ⟨here, holds⟩ := laid.slot_iff.mp found
    exact ⟨⟨t, here, rfl⟩, holds⟩
  · rintro ⟨⟨t, here, rfl⟩, holds⟩
    exact ⟨t, laid.slot_iff.mpr ⟨here, holds⟩, rfl⟩

theorem Laid.register (laid : s.Laid) (here : r ∈ s.registers) : r.spec.Sound ∧ r.Fits := by
  obtain ⟨t, listed, rfl⟩ := List.mem_map.mp here
  exact ⟨(laid.kept t listed).sound, (laid.kept t listed).fits⟩

theorem holds_start (sound : p.Sound) : p.Holds p.offset :=
  ⟨Nat.le_refl _, Nat.lt_add_of_pos_right sound.bytes.1⟩

-- A register is all that there is under its description.
theorem Laid.unique (laid : s.Laid) (here : r ∈ s.registers) (there : r' ∈ s.registers)
    (same : r'.spec = r.spec) : r' = r := by
  have own := holds_start (laid.register here).1
  have found := laid.get_iff.mpr ⟨here, own⟩
  rw [laid.get_iff.mpr ⟨there, same ▸ own⟩] at found
  exact Option.some.inj found

-- To give a register another value changes neither the layout nor any other register.

theorem put_registers (s : RegisterSpace) (r : Register) :
    (s.put r).registers = s.registers.map fun q => if q.spec = r.spec then r else q := by
  simp only [registers, put, List.map_map]
  refine List.map_congr_left fun t _ => ?_
  simp only [Function.comp_apply]
  split <;> rfl

theorem put_specs (s : RegisterSpace) (r : Register) : (s.put r).specs = s.specs := by
  unfold RegisterSpace.specs
  rw [put_registers, List.map_map]
  refine List.map_congr_left fun q _ => ?_
  simp only [Function.comp_apply]
  split
  · rename_i same
    exact same.symm
  · rfl

theorem mem_put (listed : r.spec ∈ s.specs) :
    r' ∈ (s.put r).registers ↔ r' = r ∨ r' ∈ s.registers ∧ r'.spec ≠ r.spec := by
  rw [put_registers, List.mem_map]
  constructor
  · rintro ⟨q, here, rfl⟩
    split
    · exact .inl rfl
    · rename_i apart
      exact .inr ⟨here, apart⟩
  · rintro (rfl | ⟨here, apart⟩)
    · obtain ⟨q, here, same⟩ := List.mem_map.mp listed
      exact ⟨q, here, if_pos same⟩
    · exact ⟨r', here, if_neg apart⟩

theorem put_put (same : r'.spec = r.spec) : (s.put r).put r' = s.put r' := by
  simp only [put, List.map_map, same]
  refine congrArg RegisterSpace.mk (List.map_congr_left fun t _ => ?_)
  by_cases own : t.register.spec = r.spec <;> simp [own]

theorem Laid.put_self (laid : s.Laid) (here : r ∈ s.registers) : s.put r = s := by
  have kept : (s.put r).slots = s.slots := by
    refine (List.map_congr_left fun t listed => ?_).trans (List.map_id s.slots)
    split
    · rename_i same
      rw [← laid.unique here (List.mem_map_of_mem listed) same]
      rfl
    · rfl
  exact congrArg RegisterSpace.mk kept

theorem Laid.put (laid : s.Laid) (fits : r.Fits) : (s.put r).Laid := by
  have spec (t : RegisterSlot) : (if t.register.spec = r.spec then { t with register := r }
      else t).register.spec = t.register.spec := by
    split
    · rename_i same
      exact same.symm
    · rfl
  constructor
  · refine List.pairwise_map.mpr (laid.ordered.imp fun {t u} below => ?_)
    rw [spec, spec]
    exact below
  · intro t listed
    obtain ⟨u, here, rfl⟩ := List.mem_map.mp listed
    obtain ⟨sound, place, within⟩ := laid.kept u here
    split
    · rename_i same
      rw [same] at sound place
      exact ⟨sound, place, fits⟩
    · exact ⟨sound, place, within⟩

theorem Laid.put_get (laid : s.Laid) (fits : r.Fits) (listed : r.spec ∈ s.specs)
    (other : UInt64) :
    (s.put r).get? other = if r.spec.Holds other then some r else s.get? other := by
  split
  · rename_i own
    exact (laid.put fits).get_iff.mpr ⟨(mem_put listed).mpr (.inl rfl), own⟩
  · rename_i foreign
    apply Option.ext
    intro q
    rw [(laid.put fits).get_iff, laid.get_iff, mem_put listed]
    refine and_congr_left fun holds => ?_
    have apart : q.spec ≠ r.spec := fun same => foreign (same ▸ holds)
    have changed : q ≠ r := fun same => apart (congrArg Register.spec same)
    simp [apart, changed]

-- What the device does to the register that holds an offset.
theorem Laid.update_put (laid : s.Laid) (found : s.get? offset = some r)
    {f : Register → Register} (keeps : (f r).spec = r.spec) :
    s.update offset f = s.put (f r) := by
  obtain ⟨t, slot, rfl⟩ := Option.map_eq_some_iff.mp found
  have here := slot_mem slot
  unfold update
  rw [slot]
  refine congrArg RegisterSpace.mk (List.map_congr_left fun u there => ?_)
  by_cases same : u.range.first = t.range.first
  · cases laid.tidy.unique here there same
    rw [if_pos rfl, if_pos keeps.symm]
  · have apart : u.register.spec ≠ (f t.register).spec := fun equal => same <| by
      rw [(laid.kept u there).first, (laid.kept t here).first, equal, keeps]
    rw [if_neg same, if_neg apart]

theorem Laid.update (laid : s.Laid) (offset : UInt64) {f : Register → Register}
    (keeps : ∀ r, (f r).spec = r.spec)
    (fits : ∀ r, r.spec.Sound → r.Fits → (f r).Fits) :
    (s.update offset f).Laid ∧ (s.update offset f).specs = s.specs := by
  cases found : s.get? offset with
  | none =>
      unfold RegisterSpace.update
      rw [Option.map_eq_none_iff.mp found]
      exact ⟨laid, rfl⟩
  | some r =>
      have here := (laid.get_iff.mp found).1
      obtain ⟨sound, within⟩ := laid.register here
      rw [laid.update_put found (keeps r)]
      exact ⟨laid.put (fits r sound within), put_specs s _⟩

theorem Laid.reset (laid : s.Laid) : s.reset.Laid where
  ordered := List.pairwise_map.mpr laid.ordered
  kept t listed := by
    obtain ⟨u, here, rfl⟩ := List.mem_map.mp listed
    obtain ⟨sound, place, _⟩ := laid.kept u here
    exact ⟨sound, place, Register.new_fits sound⟩

theorem reset_registers (s : RegisterSpace) : s.reset.registers = s.specs.map .new := by
  simp only [registers, RegisterSpace.specs, RegisterSpace.reset, List.map_map]
  rfl

end RegisterSpace

end VmMonitor
