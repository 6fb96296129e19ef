import Mathlib.Data.List.Nodup
import VmMonitor.Register.Space

/-!
What an access can change in a block of registers. The layout of a block never changes, and a write
of the guest changes the value of one register, the one that it names.
-/

namespace VmMonitor

theorem Register.write_spec {r r' : Register} {offset value : UInt64} {width : Width}
    (done : r.write offset width value = .ok (.ok r')) :
    r.spec.access.writeable = true ∧ r'.spec = r.spec := by
  unfold write at done
  cases may : r.spec.access.writeable with
  | false =>
      simp only [may, Bool.not_false, if_true] at done
      cases done
  | true =>
      simp only [may, Bool.not_true, Bool.false_eq_true, if_false] at done
      obtain ⟨shift, _, done⟩ := Checked.bind_eq_ok.mp done
      cases shift <;> cases done
      exact ⟨rfl, rfl⟩

namespace RegisterSpace

variable {s s' : RegisterSpace} {offset k : UInt64}

-- All of a block but the values.
def shape (s : RegisterSpace) : List (RegisterRange × RegisterSpec) :=
  s.slots.map fun t => (t.range, t.register.spec)

-- No two places begin at one offset, so that a register can be told by where it begins.
def Tidy (s : RegisterSpace) : Prop := (s.shape.map (·.1.first)).Nodup

-- The register that holds `k` begins there.
def Starts (s : RegisterSpace) (k : UInt64) : Prop :=
  ∃ t, s.slot? k = some t ∧ t.register.spec.offset = k

-- The look-up of a place, whatever is kept beside the ranges.
def holding {α : Type} (range : α → RegisterRange) (offset : UInt64) (l : List α) : Option α :=
  (l.filter fun t => (range t).first ≤ offset).getLast?.filter fun t => offset ≤ (range t).final

-- Which place holds an offset is decided by the ranges alone.
theorem holding_map {α β : Type} {range : α → RegisterRange} {range' : β → RegisterRange}
    (f : α → β) (keeps : ∀ t, range' (f t) = range t) (l : List α) :
    holding range' offset (l.map f) = (holding range offset l).map f := by
  have same : (fun t => decide ((range' t).first ≤ offset)) ∘ f =
      fun t => decide ((range t).first ≤ offset) := by
    funext t
    simp only [Function.comp_apply, keeps]
  unfold holding
  rw [List.filter_map, same, List.getLast?_map]
  cases (l.filter fun t => (range t).first ≤ offset).getLast? with
  | none => rfl
  | some t =>
      simp only [Option.map_some, Option.filter_some, keeps]
      split <;> rfl

theorem slot_map (s : RegisterSpace) (offset : UInt64) (f : RegisterSlot → RegisterSlot)
    (keeps : ∀ t, (f t).range = t.range) :
    (⟨s.slots.map f⟩ : RegisterSpace).slot? offset = (s.slot? offset).map f :=
  holding_map f keeps s.slots

theorem slot_shape (s : RegisterSpace) (offset : UInt64) :
    holding (·.1) offset s.shape =
      (s.slot? offset).map fun t => (t.range, t.register.spec) :=
  holding_map _ (fun _ => rfl) s.slots

theorem slot_mem {t : RegisterSlot} (found : s.slot? offset = some t) : t ∈ s.slots := by
  have last := (Option.filter_eq_some_iff.mp found).1
  exact (List.mem_filter.mp (List.mem_of_getLast? last)).1

-- Changing registers in their places and under their descriptions leaves the layout alone.
theorem map_shape (s : RegisterSpace) (f : RegisterSlot → RegisterSlot)
    (range : ∀ t ∈ s.slots, (f t).range = t.range)
    (spec : ∀ t ∈ s.slots, (f t).register.spec = t.register.spec) :
    (⟨s.slots.map f⟩ : RegisterSpace).shape = s.shape := by
  simp only [shape, List.map_map]
  refine List.map_congr_left fun t present => ?_
  simp only [Function.comp_apply, range t present, spec t present]

theorem update_shape (s : RegisterSpace) (offset : UInt64) (f : Register → Register)
    (keeps : ∀ r, (f r).spec = r.spec) : (s.update offset f).shape = s.shape := by
  unfold update
  cases s.slot? offset with
  | none => rfl
  | some found =>
      refine s.map_shape _ (fun t _ => ?_) (fun t _ => ?_) <;> split
      · rfl
      · rfl
      · exact keeps _
      · rfl

@[simp] theorem setBits_shape (s : RegisterSpace) (offset mask : UInt64) :
    (s.setBits offset mask).shape = s.shape := s.update_shape _ _ fun _ => rfl

@[simp] theorem clearBits_shape (s : RegisterSpace) (offset mask : UInt64) :
    (s.clearBits offset mask).shape = s.shape := s.update_shape _ _ fun _ => rfl

theorem reset_shape (s : RegisterSpace) : s.reset.shape = s.shape :=
  s.map_shape _ (fun _ _ => rfl) fun _ _ => rfl

-- What a reset leaves is told by the layout alone.
theorem reset_congr (same : s.shape = s'.shape) : s.reset = s'.reset := by
  have fresh (s : RegisterSpace) :
      s.reset = ⟨s.shape.map fun p => ⟨p.1, .new p.2⟩⟩ := by
    unfold reset shape
    rw [List.map_map]
    rfl
  rw [fresh, fresh, same]

theorem Tidy.unique (tidy : s.Tidy) {t u : RegisterSlot} (here : t ∈ s.slots)
    (there : u ∈ s.slots) (equal : u.range.first = t.range.first) : u = t := by
  unfold Tidy shape at tidy
  rw [List.map_map] at tidy
  exact List.inj_on_of_nodup_map tidy there here equal

theorem write_parts {width : Width} {v written : UInt64}
    (done : s.write offset width v = .ok (.ok (written, s'))) :
    ∃ t r, s.slot? offset = some t ∧ t.register.spec.access.writeable = true ∧
      t.register.spec.offset = written ∧ r.spec = t.register.spec ∧
      s' = s.update offset fun _ => r := by
  unfold write get? at done
  cases found : s.slot? offset with
  | none =>
      rw [found] at done
      cases done
  | some t =>
      rw [found] at done
      obtain ⟨answer, wrote, done⟩ := Checked.bind_eq_ok.mp done
      cases answer with
      | error e => cases done
      | ok r =>
          cases done
          obtain ⟨may, same⟩ := Register.write_spec wrote
          exact ⟨t, r, rfl, may, rfl, same, rfl⟩

theorem write_slot {t : RegisterSlot} (held : s.slot? offset = some t) {r : Register}
    {width : Width} {v : UInt64} (wrote : t.register.write offset width v = .ok (.ok r)) :
    s.write offset width v =
      .ok (.ok (t.register.spec.offset, s.update offset fun _ => r)) := by
  simp only [write, get?, held, Option.map_some, wrote]
  rfl

theorem write_shape (tidy : s.Tidy) {width : Width} {v written : UInt64}
    (done : s.write offset width v = .ok (.ok (written, s'))) : s'.shape = s.shape := by
  obtain ⟨t, r, found, _, _, same, rfl⟩ := write_parts done
  simp only [update, found]
  refine s.map_shape _ (fun u _ => ?_) (fun u there => ?_) <;> split
  · rfl
  · rfl
  · rename_i equal
    rw [tidy.unique (slot_mem found) there equal, same]
  · rfl

-- What the device does to one register changes the value of that one and of no other.

theorem update_own {t : RegisterSlot} (held : s.slot? k = some t) (f : Register → Register) :
    (s.update k f).value k = (f t.register).value := by
  have moved := s.slot_map k
    (fun u => if u.range.first = t.range.first then { u with register := f u.register } else u)
    (fun u => by split <;> rfl)
  simp only [value, get?, update, held, moved, Option.map_some, if_true]

theorem update_other (tidy : s.Tidy) (start : s.Starts k) {t : RegisterSlot}
    (held : s.slot? offset = some t) (other : t.register.spec.offset ≠ k)
    (f : Register → Register) : (s.update offset f).value k = s.value k := by
  obtain ⟨u, found, begins⟩ := start
  have apart : u.range.first ≠ t.range.first := by
    intro equal
    rw [tidy.unique (slot_mem held) (slot_mem found) equal] at begins
    exact other begins
  have moved := s.slot_map k
    (fun u => if u.range.first = t.range.first then { u with register := f u.register } else u)
    (fun u => by split <;> rfl)
  simp only [value, get?, update, held, moved, found, Option.map_some, if_neg apart]

theorem write_value_other (tidy : s.Tidy) (start : s.Starts k) {width : Width}
    {v written : UInt64} (done : s.write offset width v = .ok (.ok (written, s')))
    (other : written ≠ k) : s'.value k = s.value k := by
  obtain ⟨t, r, found, _, named, same, rfl⟩ := write_parts done
  exact update_other tidy start found (named ▸ other) _

end RegisterSpace

end VmMonitor
