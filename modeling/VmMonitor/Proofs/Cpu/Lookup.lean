import Mathlib.Data.List.Nodup
import VmMonitor.SysReg.Table

/-!
The system registers as a table, and the ways into it. Every register is there once. The search by
halves finds a register by its key, since the table is in the order of the keys and no two keys are
the same.
-/

namespace VmMonitor

namespace IdRegister

theorem mem_all (i : IdRegister) : i ∈ all := by
  cases i <;> decide

end IdRegister

namespace SysReg

theorem mem_all (r : SysReg) : r ∈ all := by
  unfold all
  cases r with
  | ident i => exact List.mem_append_left _ (List.mem_map_of_mem i.mem_all)
  | _ => exact List.mem_append_right _ (by decide)

-- No two registers share the fields they are accessed by, and no two a name.
theorem keys_nodup : (all.map (·.id.issKey)).Nodup := by decide +kernel

theorem names_nodup : (all.map name).Nodup := by decide +kernel

-- Of the places searched, those behind `place` are past it and no others: the halves close in on it.
theorem narrow_place {past : Nat → Bool} {place last : Nat}
    (past_iff : ∀ i < last, past i = decide (place < i)) {rounds base size : Nat}
    (enough : size ≤ rounds) (low : base ≤ place) (high : place < base + size)
    (inside : base + size ≤ last) : narrow past rounds base size = place := by
  fun_induction narrow past rounds base size with
  | case1 base size => omega
  | case2 rounds base size more middle behind ih =>
      have here : middle = base + size / 2 := rfl
      rw [past_iff middle (by omega), decide_eq_true_eq] at behind
      exact ih (by omega) low (by omega) (by omega)
  | case3 rounds base size more middle ahead ih =>
      have here : middle = base + size / 2 := rfl
      rw [past_iff middle (by omega), decide_eq_true_eq] at ahead
      exact ih (by omega) (by omega) (by omega) (by omega)
  | case4 rounds base size single => omega

theorem place_perm (r : SysReg) (l : List SysReg) : (place r l).Perm (r :: l) := by
  fun_induction place r l with
  | case1 => exact .refl _
  | case2 => exact .refl _
  | case3 other rest behind ih => exact (ih.cons other).trans (.swap ..)

theorem foldr_place_perm (l : List SysReg) : (l.foldr place []).Perm l := by
  induction l with
  | nil => exact .refl _
  | cons r rest ih => exact (place_perm r _).trans (ih.cons r)

theorem place_ordered {r : SysReg} {l : List SysReg}
    (ordered : l.Pairwise fun r r' => r.id.issKey ≤ r'.id.issKey) :
    (place r l).Pairwise fun r r' => r.id.issKey ≤ r'.id.issKey := by
  fun_induction place r l with
  | case1 => exact List.pairwise_singleton ..
  | case2 other rest ahead =>
      refine List.pairwise_cons.mpr ⟨fun later here => ?_, ordered⟩
      rcases List.mem_cons.mp here with rfl | here
      · exact ahead
      · exact UInt32.le_trans ahead (List.rel_of_pairwise_cons ordered here)
  | case3 other rest behind ih =>
      have after : other.id.issKey ≤ r.id.issKey := UInt32.le_of_lt (UInt32.not_le.mp behind)
      refine List.pairwise_cons.mpr ⟨fun later here => ?_, ih ordered.of_cons⟩
      rcases List.mem_cons.mp ((place_perm r rest).mem_iff.mp here) with rfl | here
      · exact after
      · exact List.rel_of_pairwise_cons ordered here

theorem foldr_place_ordered (l : List SysReg) :
    (l.foldr place []).Pairwise fun r r' => r.id.issKey ≤ r'.id.issKey := by
  induction l with
  | nil => exact .nil
  | cons r rest ih => exact place_ordered ih

theorem mem_table (r : SysReg) : r ∈ table :=
  List.mem_toArray.mpr ((foldr_place_perm all).mem_iff.mpr r.mem_all)

-- All keys are different, so that the order is strict.
theorem table_ascending : table.toList.Pairwise fun r r' => r.id.issKey < r'.id.issKey := by
  have apart : ((all.foldr place []).map (·.id.issKey)).Nodup :=
    ((foldr_place_perm all).map _).nodup_iff.mpr keys_nodup
  have different := List.pairwise_map.mp apart
  exact ((foldr_place_ordered all).and different).imp fun both =>
    UInt32.lt_of_le_of_ne both.1 both.2

-- The order of the places is that of the keys.
theorem table_order {i j : Nat} (inside : i < table.size) (inside' : j < table.size) :
    table[i].id.issKey < table[j].id.issKey ↔ i < j := by
  have ascends {k m : Nat} (real : k < table.size) (real' : m < table.size) (before : k < m) :
      table[k].id.issKey < table[m].id.issKey :=
    List.pairwise_iff_getElem.mp table_ascending k m real real' before
  constructor
  · intro smaller
    by_contra behind
    rcases Nat.lt_or_eq_of_le (Nat.not_lt.mp behind) with later | rfl
    · exact UInt32.lt_asymm smaller (ascends inside' inside later)
    · exact UInt32.lt_irrefl _ smaller
  · exact ascends inside inside'

theorem find?_key {id : SysRegId} {r : SysReg} :
    find? id = some r ↔ r.id.issKey = id.issKey := by
  constructor
  · intro found
    simpa using (Option.filter_eq_some_iff.mp found).2
  · intro same
    obtain ⟨place, inside, rfl⟩ := Array.mem_iff_getElem.mp (mem_table r)
    have past_iff : ∀ i < table.size,
        ((table[i]?).any fun r => id.issKey < r.id.issKey) = decide (place < i) := by
      intro i real
      rw [Array.getElem?_eq_getElem real, Option.any_some, ← same]
      exact decide_eq_decide.mpr (table_order inside real)
    have reached : narrow (fun i => (table[i]?).any fun r => id.issKey < r.id.issKey) table.size 0
        table.size = place :=
      narrow_place past_iff (Nat.le_refl _) (Nat.zero_le _) (by omega) (by omega)
    unfold find?
    dsimp only
    rw [reached, Array.getElem?_eq_getElem inside]
    simp [same]

theorem find?_id (r : SysReg) : find? r.id = some r := find?_key.mpr rfl

theorem named?_some {name : String} {r : SysReg} (found : named? name = some r) : r.name = name := by
  simpa using List.find?_some found

theorem named?_name (r : SysReg) : named? r.name = some r := by
  have own : ∀ r' ∈ all, r'.name = r.name → r' = r := fun r' here same =>
    List.inj_on_of_nodup_map names_nodup here r.mem_all same
  cases found : named? r.name with
  | none => exact absurd (decide_eq_true rfl) (List.find?_eq_none.mp found r r.mem_all)
  | some r' => rw [own r' r'.mem_all (named?_some found)]

end SysReg

end VmMonitor
