import Mathlib.Data.List.Infix
import VmMonitor.Proofs.Gic.Levels

/-!
A pending list under any calls. It is at all times the stable sort by priority of what still waits, in
the order of insertion: more urgent entries come first, and equals stay in the order in which they
came. As long as no number is queued twice at a time, the calls alone tell what still waits.
-/

namespace VmMonitor.Gic.PendingList

variable {l : PendingList} {w : List Entry} {p r : UInt8} {n : Nat}

inductive Call where
  | insert (priority : UInt8) (number : Nat)
  | remove (number : Nat)
  deriving DecidableEq, Repr

-- The list that a call leaves, and what a removal answers.
def call (l : PendingList) : Call → PendingList × Option Bool
  | .insert p n => (l.insert p n, none)
  | .remove n =>
      let (found, rest) := l.take n
      (rest, some found)

def after (history : List Call) : PendingList := history.foldl (fun l c => (l.call c).1) empty

-- Of the entries of one number the most urgent is taken out, and of its equals the earliest.
def takeUrgent (w : List Entry) (n : Nat) : List Entry :=
  match ((w.filter (·.number = n)).map (·.priority)).min? with
  | some p => w.erase ⟨p, n⟩
  | none => w

-- What waits, in the order of insertion.
def await (w : List Entry) : Call → List Entry
  | .insert p n => w ++ [⟨p, n⟩]
  | .remove n => takeUrgent w n

def waiting (history : List Call) : List Entry := history.foldl await []

-- The insertions that are not followed by a removal of their number.
def outstanding : List Call → List Entry
  | [] => []
  | .insert p n :: later =>
      if .remove n ∈ later then outstanding later else ⟨p, n⟩ :: outstanding later
  | .remove _ :: later => outstanding later

def byPriority (e f : Entry) : Bool := e.priority ≤ f.priority

theorem byPriority_trans (e f g : Entry) (first : byPriority e f) (second : byPriority f g) :
    byPriority e g :=
  decide_eq_true (UInt8.le_trans (of_decide_eq_true first) (of_decide_eq_true second))

theorem byPriority_total (e f : Entry) : (byPriority e f || byPriority f e) = true := by
  simpa [byPriority] using UInt8.le_total e.priority f.priority

-- To sort moves no entry past one of its own priority.
theorem mergeSort_filter (w : List Entry) (r : UInt8) :
    (w.mergeSort byPriority).filter (·.priority = r) = w.filter (·.priority = r) := by
  have equals : (w.filter (·.priority = r)).Pairwise fun e f => byPriority e f := by
    refine List.pairwise_of_forall_mem_list fun e here f there => ?_
    have same : e.priority = f.priority :=
      (of_decide_eq_true (List.mem_filter.mp here).2).trans
        (of_decide_eq_true (List.mem_filter.mp there).2).symm
    exact decide_eq_true (same ▸ UInt8.le_refl _)
  have kept := (List.sublist_mergeSort byPriority_trans byPriority_total equals
    List.filter_sublist).filter (·.priority = r)
  rw [List.filter_filter] at kept
  simp only [Bool.and_self] at kept
  exact (kept.eq_of_length ((List.mergeSort_perm w byPriority).filter _).length_eq.symm).symm

theorem mergeSort_ordered (w : List Entry) : Ordered ⟨w.mergeSort byPriority⟩ :=
  (List.pairwise_mergeSort byPriority_trans byPriority_total w).imp of_decide_eq_true

theorem erase_level (w : List Entry) (p : UInt8) (n : Nat) (r : UInt8) :
    level ⟨w.erase ⟨p, n⟩⟩ r = if r = p then (level ⟨w⟩ r).erase n else level ⟨w⟩ r := by
  induction w with
  | nil => simp [level]
  | cons e rest ih =>
      by_cases here : e = ⟨p, n⟩
      · subst here
        rw [List.erase_cons_head, level_cons]
        by_cases own : r = p
        · simp [own]
        · simp [own, Ne.symm own]
      · rw [List.erase_cons_tail (by simpa using here), level_cons, level_cons, ih]
        by_cases own : e.priority = r
        · by_cases same : r = p
          · have other : e.number ≠ n := by
              rintro rfl
              exact here (by rw [← same, ← own])
            rw [if_pos own, if_pos own, if_pos same, if_pos same,
              List.erase_cons_tail (by simpa using other)]
          · rw [if_pos own, if_pos own, if_neg same, if_neg same]
        · rw [if_neg own, if_neg own]

-- In a list in order the first entry of a number is the most urgent of them.
theorem remove_urgent (ordered : l.Ordered) (here : ⟨p, n⟩ ∈ l.entries)
    (least : ∀ q, ⟨q, n⟩ ∈ l.entries → p ≤ q) : (l.remove n).entries = l.entries.erase ⟨p, n⟩ := by
  rw [remove_eq]
  obtain ⟨es⟩ := l
  change es.eraseP (fun e => e.number = n) = es.erase ⟨p, n⟩
  induction es with
  | nil => rfl
  | cons e rest ih =>
      by_cases own : e.number = n
      · have urgent : p ≤ e.priority := least _ (own ▸ List.mem_cons_self)
        have first : e.priority ≤ p := head_least ordered (mem_level.mpr here)
        have same : e = ⟨p, n⟩ := by
          cases own
          cases UInt8.le_antisymm first urgent
          rfl
        rw [List.eraseP_cons_of_pos (by simpa using own), same, List.erase_cons_head]
      · have other : e ≠ ⟨p, n⟩ := fun same => own (congrArg Entry.number same)
        rw [List.eraseP_cons_of_neg (by simpa using own),
          List.erase_cons_tail (by simpa using other)]
        refine congrArg (e :: ·) (ih ordered.of_cons ?_ fun q later => ?_)
        · exact (List.mem_cons.mp here).resolve_left (Ne.symm other)
        · exact least q (List.mem_cons_of_mem _ later)

theorem remove_absent (absent : n ∉ l.numbers) : l.remove n = l := by
  rw [remove_eq]
  refine congrArg PendingList.mk (List.eraseP_of_forall_not fun e here => ?_)
  have other : e.number ≠ n := fun same => absent (same ▸ mem_numbers here)
  simpa using other

theorem takeUrgent_cases (w : List Entry) (n : Nat) :
    (∃ p, takeUrgent w n = w.erase ⟨p, n⟩ ∧ ⟨p, n⟩ ∈ w ∧ ∀ q, ⟨q, n⟩ ∈ w → p ≤ q) ∨
    takeUrgent w n = w ∧ ∀ e ∈ w, e.number ≠ n := by
  unfold takeUrgent
  cases urgent : ((w.filter (·.number = n)).map (·.priority)).min? with
  | some p =>
      obtain ⟨listed, least⟩ := List.min?_eq_some_iff.mp urgent
      obtain ⟨e, present, rfl⟩ := List.mem_map.mp listed
      obtain ⟨here, own⟩ := List.mem_filter.mp present
      cases of_decide_eq_true own
      refine .inl ⟨_, rfl, here, fun q there => least q ?_⟩
      exact List.mem_map.mpr ⟨_, List.mem_filter.mpr ⟨there, decide_eq_true rfl⟩, rfl⟩
  | none =>
      refine .inr ⟨rfl, fun e here own => ?_⟩
      have none := List.map_eq_nil_iff.mp (List.min?_eq_none_iff.mp urgent)
      exact List.filter_eq_nil_iff.mp none e here (decide_eq_true own)

-- The list is in order and has, under each priority, what waits in the order of insertion.
structure Sorts (l : PendingList) (w : List Entry) : Prop where
  ordered : l.Ordered
  levels : ∀ r, l.level r = level ⟨w⟩ r

theorem Sorts.mem (h : l.Sorts w) {e : Entry} : e ∈ l.entries ↔ e ∈ w := by
  have here : e ∈ l.entries ↔ e.number ∈ l.level e.priority := mem_level.symm
  rw [here, h.levels]
  exact mem_level

theorem Sorts.call (h : l.Sorts w) (c : Call) : (l.call c).1.Sorts (await w c) := by
  cases c with
  | insert p n =>
      refine ⟨insert_ordered h.ordered, fun r => ?_⟩
      change (l.insert p n).level r = level ⟨w ++ [⟨p, n⟩]⟩ r
      rw [insert_level h.ordered, h.levels]
      unfold level
      dsimp only
      rw [List.filter_append, List.map_append]
      by_cases own : r = p
      · simp [own]
      · simp [own, Ne.symm own]
  | remove n =>
      refine ⟨remove_ordered h.ordered, fun r => ?_⟩
      change (l.remove n).level r = level ⟨takeUrgent w n⟩ r
      rcases takeUrgent_cases w n with ⟨p, taken, here, least⟩ | ⟨kept, absent⟩
      · have first := remove_urgent h.ordered (h.mem.mpr here) fun q there => least q (h.mem.mp there)
        have removed : l.remove n = ⟨l.entries.erase ⟨p, n⟩⟩ := congrArg PendingList.mk first
        rw [taken, removed, erase_level, erase_level]
        split
        · rw [← h.levels r]
        · exact h.levels r
      · have unlisted : n ∉ l.numbers := by
          intro listed
          obtain ⟨e, here, own⟩ := List.mem_map.mp listed
          exact absent e (h.mem.mp here) own
        rw [kept, remove_absent unlisted]
        exact h.levels r

theorem Sorts.calls (h : l.Sorts w) (history : List Call) :
    (history.foldl (fun l c => (l.call c).1) l).Sorts (history.foldl await w) := by
  induction history generalizing l w with
  | nil => exact h
  | cons c rest ih => exact ih (h.call c)

theorem after_sorts (history : List Call) : (after history).Sorts (waiting history) :=
  Sorts.calls ⟨.nil, fun _ => rfl⟩ history

theorem Sorts.entries (h : l.Sorts w) : l.entries = w.mergeSort byPriority := by
  have whole : l = ⟨w.mergeSort byPriority⟩ := by
    refine level_ext h.ordered (mergeSort_ordered w) fun r => ?_
    rw [h.levels]
    unfold level
    dsimp only
    rw [mergeSort_filter]
  exact congrArg PendingList.entries whole

-- No number is queued twice at a time.
def EachOnce (history : List Call) : Prop :=
  ∀ earlier ∈ history.inits, (after earlier).numbers.Nodup

instance (history : List Call) : Decidable (EachOnce history) :=
  inferInstanceAs (Decidable (∀ earlier ∈ history.inits, (after earlier).numbers.Nodup))

theorem outstanding_insert (history : List Call) (p : UInt8) (n : Nat) :
    outstanding (history ++ [.insert p n]) = outstanding history ++ [⟨p, n⟩] := by
  induction history with
  | nil => rfl
  | cons c rest ih =>
      cases c with
      | insert q k =>
          simp only [List.cons_append, outstanding, ih, List.mem_append, List.mem_singleton,
            reduceCtorEq, or_false]
          split <;> rfl
      | remove k => exact ih

theorem outstanding_remove (history : List Call) (n : Nat) :
    outstanding (history ++ [.remove n]) = (outstanding history).filter (·.number ≠ n) := by
  induction history with
  | nil => rfl
  | cons c rest ih =>
      cases c with
      | insert q k =>
          simp only [List.cons_append, outstanding, ih, List.mem_append, List.mem_singleton,
            Call.remove.injEq]
          by_cases later : Call.remove k ∈ rest
          · rw [if_pos (.inl later), if_pos later]
          · by_cases own : k = n
            · rw [if_pos (.inr own), if_neg later, List.filter_cons_of_neg (by simpa using own)]
            · rw [if_neg (not_or.mpr ⟨later, own⟩), if_neg later,
                List.filter_cons_of_pos (by simpa using own)]
      | remove k => exact ih

-- Where a number waits once, its entries go with a removal.
theorem takeUrgent_once (once : (w.map (·.number)).Nodup) (n : Nat) :
    takeUrgent w n = w.filter (·.number ≠ n) := by
  rcases takeUrgent_cases w n with ⟨p, taken, here, -⟩ | ⟨kept, absent⟩
  · rw [taken, once.of_map.erase_eq_filter]
    refine List.filter_congr fun e there => ?_
    have same : e = ⟨p, n⟩ ↔ e.number = n :=
      ⟨congrArg Entry.number, List.inj_on_of_nodup_map once there here⟩
    rw [Bool.eq_iff_iff]
    simp [same]
  · rw [kept]
    refine (List.filter_eq_self.mpr fun e here => ?_).symm
    simpa using absent e here

theorem waiting_outstanding {history : List Call} (once : EachOnce history) :
    waiting history = outstanding history := by
  induction history using List.reverseRecOn with
  | nil => rfl
  | append_singleton earlier c ih =>
      have before : EachOnce earlier := fun first here => once first
        ((List.mem_inits ..).mpr
          (((List.mem_inits ..).mp here).trans (List.prefix_append earlier [c])))
      have step : waiting (earlier ++ [c]) = await (outstanding earlier) c := by
        rw [← ih before]
        exact List.foldl_append
      rw [step]
      cases c with
      | insert p n => rw [outstanding_insert]; rfl
      | remove n =>
          have queued := once earlier ((List.mem_inits ..).mpr (List.prefix_append ..))
          unfold numbers at queued
          rw [(after_sorts earlier).entries, ih before,
            ((List.mergeSort_perm _ byPriority).map _).nodup_iff] at queued
          rw [outstanding_remove, ← takeUrgent_once queued]
          rfl

-- The first entry of number `n` goes and nothing else, and the answer is whether there was one.
def Removes (l : PendingList) (n : Nat) (result : PendingList × Option Bool) : Prop :=
  (∃ ahead e behind, l.entries = ahead ++ e :: behind ∧ e.number = n ∧
    (∀ f ∈ ahead, f.number ≠ n) ∧ result = (⟨ahead ++ behind⟩, some true)) ∨
  (∀ e ∈ l.entries, e.number ≠ n) ∧ result = (l, some false)

theorem call_removes (l : PendingList) (n : Nat) : l.Removes n (l.call (.remove n)) := by
  have answer : l.call (.remove n) = (l.remove n, some (l.contains n)) := by
    rw [call, remove, take_eq]
  rw [answer]
  by_cases queued : ∃ e ∈ l.entries, e.number = n
  · obtain ⟨e, here, own⟩ := queued
    obtain ⟨first, ahead, behind, others, first_own, parts, rest⟩ :=
      List.exists_of_eraseP (p := fun e : Entry => e.number = n) here (by simpa using own)
    have found : l.contains n = true := List.any_eq_true.mpr ⟨e, here, decide_eq_true own⟩
    refine .inl ⟨ahead, first, behind, parts, of_decide_eq_true first_own, fun f early => ?_, ?_⟩
    · simpa using others f early
    · exact Prod.ext ((l.remove_eq n).trans (congrArg PendingList.mk rest)) (congrArg some found)
  · have absent : ∀ e ∈ l.entries, e.number ≠ n := fun e here own => queued ⟨e, here, own⟩
    have missing : l.contains n = false :=
      List.any_eq_false.mpr fun e here => by simpa using absent e here
    have kept : l.remove n = l := remove_absent fun listed => by
      obtain ⟨e, here, own⟩ := List.mem_map.mp listed
      exact absent e here own
    exact .inr ⟨absent, Prod.ext kept (congrArg some missing)⟩

theorem call_inserts (l : PendingList) (p : UInt8) (n : Nat) : ∃ ahead behind,
    l.entries = ahead ++ behind ∧ l.call (.insert p n) = (⟨ahead ++ ⟨p, n⟩ :: behind⟩, none) :=
  ⟨_, _, List.takeWhile_append_dropWhile.symm, rfl⟩

-- A list after some calls, and what the next call does to it.
structure Arranged (history : List Call) (l : PendingList) : Prop where
  ordered : l.Ordered
  arrival : ∀ p, l.entries.filter (·.priority = p) = (waiting history).filter (·.priority = p)
  stable : l.entries = (waiting history).mergeSort byPriority
  inserted : ∀ p n, ∃ ahead behind, l.entries = ahead ++ behind ∧
    l.call (.insert p n) = (⟨ahead ++ ⟨p, n⟩ :: behind⟩, none)
  removed : ∀ n, l.Removes n (l.call (.remove n))
  single : EachOnce history → l.entries = (outstanding history).mergeSort byPriority

theorem after_arranged (history : List Call) : Arranged history (after history) := by
  have sorted := after_sorts history
  refine ⟨sorted.ordered, fun p => ?_, sorted.entries, call_inserts _, call_removes _,
    fun once => ?_⟩
  · rw [sorted.entries, mergeSort_filter]
  · rw [sorted.entries, waiting_outstanding once]

-- Line 41 leaves its queue and joins it again, behind its equal 44; line 7 never waits.
def rejoining : List Call :=
  [.insert 0x80 40, .insert 0x10 41, .insert 0x80 42, .insert 0 43, .insert 0x10 44, .remove 41,
    .remove 7, .insert 0x10 41]

theorem after_arranged_rejoining : EachOnce rejoining ∧
    (after rejoining).entries = (outstanding rejoining).mergeSort byPriority ∧
    outstanding rejoining = [⟨0x80, 40⟩, ⟨0x80, 42⟩, ⟨0, 43⟩, ⟨0x10, 44⟩, ⟨0x10, 41⟩] ∧
    (after rejoining).numbers = [43, 44, 41, 40, 42] := by
  have once : EachOnce rejoining := by decide
  exact ⟨once, (after_arranged rejoining).single once, by decide, by decide⟩

end VmMonitor.Gic.PendingList
