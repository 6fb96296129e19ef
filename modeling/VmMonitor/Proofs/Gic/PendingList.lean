import Mathlib.Data.List.Nodup
import Mathlib.Data.List.TakeWhile
import VmMonitor.Gic.PendingList

/-!
What insertion and removal do to a pending list: its order, how often it names a line, and the
entries it has. A list that holds exactly what is due stays so when one line changes.
-/

namespace VmMonitor.Gic.PendingList

variable {l : PendingList} {p : UInt8} {n : Nat} {due due' : Nat → Option UInt8}

-- The answer and the rest of a removal, each told by itself.
theorem take_eq (l : PendingList) (n : Nat) :
    l.take n = (l.contains n, ⟨l.entries.eraseP fun e => e.number = n⟩) := by
  unfold take contains
  rw [List.eraseP_eq_eraseIdx, ← List.findIdx?_isSome]
  cases l.entries.findIdx? fun e => decide (e.number = n) <;> rfl

theorem remove_eq (l : PendingList) (n : Nat) :
    l.remove n = ⟨l.entries.eraseP fun e => e.number = n⟩ := congrArg Prod.snd (l.take_eq n)

def Ordered (l : PendingList) : Prop := l.entries.Pairwise fun e f => e.priority ≤ f.priority

theorem insert_perm (l : PendingList) (p : UInt8) (n : Nat) :
    (l.insert p n).entries.Perm (⟨p, n⟩ :: l.entries) := by
  have moved : (l.insert p n).entries.Perm
      (⟨p, n⟩ :: (l.entries.takeWhile (fun e => e.priority ≤ p) ++
        l.entries.dropWhile (fun e => e.priority ≤ p))) := List.perm_middle
  rwa [List.takeWhile_append_dropWhile] at moved

theorem mem_insert {e : Entry} : e ∈ (l.insert p n).entries ↔ e = ⟨p, n⟩ ∨ e ∈ l.entries := by
  rw [(insert_perm l p n).mem_iff, List.mem_cons]

theorem insert_numbers (l : PendingList) (p : UInt8) (n : Nat) :
    (l.insert p n).numbers.Perm (n :: l.numbers) := (insert_perm l p n).map _

theorem remove_numbers (l : PendingList) (n : Nat) : (l.remove n).numbers = l.numbers.erase n := by
  unfold numbers
  rw [remove_eq, List.erase_eq_eraseP', List.eraseP_map]
  rfl

theorem mem_of_remove {e : Entry} (h : e ∈ (l.remove n).entries) : e ∈ l.entries := by
  rw [remove_eq] at h
  exact List.mem_of_mem_eraseP h

theorem mem_numbers {e : Entry} (h : e ∈ l.entries) : e.number ∈ l.numbers :=
  List.mem_map_of_mem h

-- What an insertion goes ahead of is larger.
theorem behind_larger {es : List Entry} (ordered : es.Pairwise fun e f => e.priority ≤ f.priority) :
    ∀ e ∈ es.dropWhile (fun e => e.priority ≤ p), p < e.priority := by
  induction es with
  | nil => simp
  | cons first rest ih =>
      intro e present
      by_cases small : first.priority ≤ p
      · rw [List.dropWhile_cons_of_pos (by simpa using small)] at present
        exact ih ordered.of_cons e present
      · have large : p < first.priority := UInt8.not_le.mp small
        rw [List.dropWhile_cons_of_neg (by simpa using small)] at present
        rcases List.mem_cons.mp present with rfl | later
        · exact large
        · exact UInt8.lt_of_lt_of_le large (List.rel_of_pairwise_cons ordered later)

-- What stays ahead of the new entry is no larger, and what goes behind it is larger.
theorem insert_ordered (h : l.Ordered) : (l.insert p n).Ordered := by
  have ahead : ∀ e ∈ l.entries.takeWhile (fun e => e.priority ≤ p), e.priority ≤ p := by
    intro e present
    simpa using List.mem_takeWhile_imp present
  have behind : ∀ e ∈ l.entries.dropWhile (fun e => e.priority ≤ p), p ≤ e.priority :=
    fun e present => UInt8.le_of_lt (behind_larger h e present)
  refine List.pairwise_append.mpr ⟨h.sublist (List.takeWhile_sublist _), ?_, ?_⟩
  · exact List.pairwise_cons.mpr ⟨behind, h.sublist (List.dropWhile_sublist _)⟩
  · intro e before f after
    rcases List.mem_cons.mp after with rfl | later
    · exact ahead e before
    · exact UInt8.le_trans (ahead e before) (behind f later)

theorem remove_ordered (h : l.Ordered) : (l.remove n).Ordered := by
  rw [remove_eq]
  exact h.sublist List.eraseP_sublist

-- The list is in order and has, under its present priority, exactly one entry for each line that
-- is due, and no other entry.
structure Holds (l : PendingList) (due : Nat → Option UInt8) : Prop where
  ordered : l.Ordered
  once : ∀ k, l.numbers.count k = if (due k).isSome then 1 else 0
  keyed : ∀ e ∈ l.entries, due e.number = some e.priority

theorem empty_holds (none : ∀ k, due k = none) : empty.Holds due where
  ordered := List.Pairwise.nil
  once := by intro k; simp [empty, numbers, none k]
  keyed := by intro e present; cases present

theorem Holds.congr (h : l.Holds due) (same : ∀ k, due' k = due k) : l.Holds due' := by
  have equal : due' = due := funext same
  rwa [equal]

theorem Holds.nodup (h : l.Holds due) : l.numbers.Nodup := by
  refine List.nodup_iff_count_le_one.mpr fun k => ?_
  rw [h.once]
  split <;> omega

theorem Holds.entry (h : l.Holds due) (now : due n = some p) : ⟨p, n⟩ ∈ l.entries := by
  have named : n ∈ l.numbers := List.count_pos_iff.mp (by rw [h.once]; simp [now])
  obtain ⟨⟨q, k⟩, present, rfl⟩ := List.mem_map.mp named
  have key := h.keyed _ present
  simp only [now, Option.some.injEq] at key
  rwa [key]

theorem Holds.insert (h : l.Holds due) (absent : due n = none) (now : due' n = some p)
    (rest : ∀ k, k ≠ n → due' k = due k) : (l.insert p n).Holds due' where
  ordered := insert_ordered h.ordered
  once := by
    intro k
    rw [(insert_numbers l p n).count_eq, List.count_cons, h.once]
    by_cases equal : k = n
    · subst k; simp [absent, now]
    · simp [rest k equal, Ne.symm equal]
  keyed := by
    intro e present
    rcases mem_insert.mp present with rfl | old
    · exact now
    · have key := h.keyed e old
      have other : e.number ≠ n := by
        intro equal
        rw [equal, absent] at key
        cases key
      rw [rest _ other, key]

theorem Holds.remove (h : l.Holds due) (gone : due' n = none)
    (rest : ∀ k, k ≠ n → due' k = due k) : (l.remove n).Holds due' := by
  have once : ∀ k, (l.remove n).numbers.count k = if (due' k).isSome then 1 else 0 := by
    intro k
    rw [remove_numbers]
    by_cases equal : k = n
    · subst k
      rw [List.count_erase_self, h.once, gone]
      split <;> simp
    · rw [List.count_erase_of_ne equal, h.once, rest k equal]
  refine ⟨remove_ordered h.ordered, once, ?_⟩
  intro e present
  have other : e.number ≠ n := by
    intro equal
    have absent : (l.remove n).numbers.count n = 0 := by rw [once, gone]; rfl
    have named := mem_numbers present
    rw [equal] at named
    exact List.count_eq_zero.mp absent named
  rw [rest _ other, h.keyed e (mem_of_remove present)]

-- The first entry whose line passes a test.
def first? (l : PendingList) (ok : Nat → Bool) : Option Entry :=
  l.entries.find? fun e => ok e.number

theorem first_passes {ok : Nat → Bool} {e : Entry} (found : l.first? ok = some e) :
    e ∈ l.entries ∧ ok e.number = true :=
  ⟨List.mem_of_find?_eq_some found,
    List.find?_some (p := fun f : Entry => ok f.number) found⟩

theorem first_none {ok : Nat → Bool} :
    l.first? ok = none ↔ ∀ e ∈ l.entries, ok e.number = false := by
  simp [first?]

theorem first_exists {ok : Nat → Bool} {e : Entry} (present : e ∈ l.entries)
    (passes : ok e.number = true) : ∃ f, l.first? ok = some f := by
  cases met : l.first? ok with
  | some f => exact ⟨f, rfl⟩
  | none =>
      rw [first_none.mp met e present] at passes
      cases passes

-- Among all that pass it has the least priority, and it is the earliest of its equals.
theorem first_least {ok : Nat → Bool} {e f : Entry} (h : l.Holds due)
    (found : l.first? ok = some e) (present : f ∈ l.entries) (passes : ok f.number = true) :
    e.priority ≤ f.priority ∧ l.numbers.idxOf e.number ≤ l.numbers.idxOf f.number := by
  obtain ⟨_, ahead, behind, parts, refused⟩ := List.find?_eq_some_iff_append.mp found
  have ordered := h.ordered
  have distinct := h.nodup
  unfold Ordered at ordered
  unfold numbers at distinct ⊢
  rw [parts] at ordered distinct present ⊢
  simp only [List.map_append, List.map_cons] at distinct ⊢
  have split := List.nodup_append.mp distinct
  have unlike : e.number ∉ ahead.map (·.number) := by
    intro early
    exact split.2.2 _ early _ (List.mem_cons_self ..) rfl
  rcases List.mem_append.mp present with early | late
  · have refusal := refused f early
    rw [passes] at refusal
    cases refusal
  · rcases List.mem_cons.mp late with rfl | later
    · exact ⟨UInt8.le_refl _, Nat.le_refl _⟩
    · have unlike' : f.number ∉ ahead.map (·.number) := by
        intro early
        exact split.2.2 _ early _ (List.mem_cons_of_mem _ (List.mem_map_of_mem later)) rfl
      refine ⟨List.rel_of_pairwise_cons (List.pairwise_append.mp ordered).2.1 later, ?_⟩
      rw [List.idxOf_append_of_notMem unlike, List.idxOf_append_of_notMem unlike',
        List.idxOf_cons_self]
      omega

-- Entries of other lines stay, in their order.
theorem remove_others (l : PendingList) (n : Nat) :
    (l.remove n).entries.filter (·.number ≠ n) = l.entries.filter (·.number ≠ n) := by
  rw [remove_eq]
  dsimp only
  induction l.entries with
  | nil => rfl
  | cons e rest ih =>
      by_cases equal : e.number = n
      · rw [List.eraseP_cons_of_pos (by simpa using equal),
          List.filter_cons_of_neg (by simpa using equal)]
      · rw [List.eraseP_cons_of_neg (by simpa using equal),
          List.filter_cons_of_pos (by simpa using equal),
          List.filter_cons_of_pos (by simpa using equal), ih]

end VmMonitor.Gic.PendingList
