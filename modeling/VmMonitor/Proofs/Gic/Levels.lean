import VmMonitor.Proofs.Gic.Served

/-!
A pending list as one queue for each priority. A line that begins to wait goes to the end of the
queue of its priority. A line that is given a priority, be it the one that it has, goes to the end as
well, and so lets its equals pass.
-/

namespace VmMonitor.Gic

namespace PendingList

variable {l l' : PendingList} {p r : UInt8} {n : Nat}

-- The lines that wait under one priority, the earliest first.
def level (l : PendingList) (p : UInt8) : List Nat :=
  (l.entries.filter (·.priority = p)).map (·.number)

theorem insert_level (ordered : l.Ordered) (p : UInt8) (n : Nat) (r : UInt8) :
    (l.insert p n).level r = l.level r ++ if r = p then [n] else [] := by
  have whole : l.level r =
      ((l.entries.takeWhile (fun e => e.priority ≤ p)).filter (·.priority = r)).map (·.number) ++
      ((l.entries.dropWhile (fun e => e.priority ≤ p)).filter (·.priority = r)).map (·.number) := by
    rw [← List.map_append, ← List.filter_append, List.takeWhile_append_dropWhile]
    rfl
  rw [whole]
  unfold level insert
  rw [List.filter_append, List.map_append]
  by_cases own : r = p
  · subst own
    have none : (l.entries.dropWhile (fun e => e.priority ≤ r)).filter (·.priority = r) = [] := by
      refine List.filter_eq_nil_iff.mpr fun e late same => ?_
      have larger := behind_larger ordered e late
      rw [of_decide_eq_true same] at larger
      exact UInt8.lt_irrefl _ larger
    simp [none]
  · simp [own, Ne.symm own]

-- As each number stands in the list once, all its entries go with the first one.
theorem remove_entries (once : l.numbers.Nodup) (n : Nat) :
    (l.remove n).entries = l.entries.filter (·.number ≠ n) := by
  unfold numbers at once
  rw [remove_eq]
  generalize l.entries = es at once
  dsimp only
  induction es with
  | nil => rfl
  | cons e rest ih =>
      obtain ⟨alone, once⟩ := List.nodup_cons.mp once
      by_cases here : e.number = n
      · have others : rest.filter (·.number ≠ n) = rest := by
          refine List.filter_eq_self.mpr fun f later => ?_
          have apart : f.number ≠ n := fun same =>
            alone (List.mem_map.mpr ⟨f, later, same.trans here.symm⟩)
          simpa using apart
        rw [List.eraseP_cons_of_pos (by simpa using here),
          List.filter_cons_of_neg (by simpa using here), others]
      · rw [List.eraseP_cons_of_neg (by simpa using here),
          List.filter_cons_of_pos (by simpa using here), ih once]

theorem remove_level (once : l.numbers.Nodup) (n : Nat) (r : UInt8) :
    (l.remove n).level r = (l.level r).filter (· ≠ n) := by
  unfold level
  rw [remove_entries once, List.filter_filter, List.filter_map, List.filter_filter]
  simp only [Function.comp_def, Bool.and_comm]

theorem mem_level : n ∈ l.level p ↔ ⟨p, n⟩ ∈ l.entries := by
  simp only [level, List.mem_map, List.mem_filter, decide_eq_true_eq]
  constructor
  · rintro ⟨⟨q, k⟩, ⟨present, rfl⟩, rfl⟩
    exact present
  · exact fun present => ⟨_, ⟨present, rfl⟩, rfl⟩

theorem level_nodup (once : l.numbers.Nodup) (p : UInt8) : (l.level p).Nodup :=
  once.sublist (List.filter_sublist.map _)

theorem level_cons (e : Entry) (rest : List Entry) (r : UInt8) : level ⟨e :: rest⟩ r =
    if e.priority = r then e.number :: level ⟨rest⟩ r else level ⟨rest⟩ r := by
  unfold level
  dsimp only
  split
  · rw [List.filter_cons_of_pos (by simpa), List.map_cons]
  · rw [List.filter_cons_of_neg (by simpa)]

-- The head of a list in order has the least priority of which there is a level.
theorem head_least {e : Entry} {rest : List Entry} (ordered : Ordered ⟨e :: rest⟩)
    (present : n ∈ level ⟨e :: rest⟩ p) : e.priority ≤ p := by
  rcases List.mem_cons.mp (mem_level.mp present) with same | later
  · rw [← same]
    exact UInt8.le_refl p
  · exact (List.pairwise_cons.mp ordered).1 _ later

theorem head_same {e f : Entry} {rest rest' : List Entry} (ordered : Ordered ⟨e :: rest⟩)
    (ordered' : Ordered ⟨f :: rest'⟩) (same : ∀ r, level ⟨e :: rest⟩ r = level ⟨f :: rest'⟩ r) :
    e = f := by
  have here : e.number ∈ level ⟨e :: rest⟩ e.priority := mem_level.mpr (List.mem_cons_self ..)
  have there : f.number ∈ level ⟨f :: rest'⟩ f.priority := mem_level.mpr (List.mem_cons_self ..)
  rw [← same] at there
  have below := head_least ordered there
  rw [same] at here
  have priority : e.priority = f.priority := UInt8.le_antisymm below (head_least ordered' here)
  have heads := same e.priority
  rw [level_cons, level_cons, if_pos rfl, if_pos priority.symm] at heads
  have number : e.number = f.number := (List.cons.inj heads).1
  cases e
  cases f
  cases priority
  cases number
  rfl

-- A list in order is nothing but its levels.
theorem level_ext (ordered : l.Ordered) (ordered' : l'.Ordered)
    (same : ∀ r, l.level r = l'.level r) : l = l' := by
  obtain ⟨es⟩ := l
  obtain ⟨fs⟩ := l'
  refine congrArg PendingList.mk ?_
  induction es generalizing fs with
  | nil =>
      cases fs with
      | nil => rfl
      | cons f rest =>
          have first := same f.priority
          rw [level_cons, if_pos rfl] at first
          cases first
  | cons e rest ih =>
      cases fs with
      | nil =>
          have first := same e.priority
          rw [level_cons, if_pos rfl] at first
          cases first
      | cons f rest' =>
          cases head_same ordered ordered' same
          refine congrArg (e :: ·) (ih ordered.of_cons rest' ordered'.of_cons fun r => ?_)
          have tails := same r
          rw [level_cons, level_cons] at tails
          split at tails
          · exact (List.cons.inj tails).2
          · exact tails

-- The last of its level can be taken out and put in again, and nothing has changed.
theorem requeue_last (ordered : l.Ordered) (once : l.numbers.Nodup)
    (last : (l.level p).getLast? = some n) : (l.remove n).insert p n = l := by
  obtain ⟨ahead, level⟩ := List.getLast?_eq_some_iff.mp last
  have distinct := level_nodup once p
  rw [level] at distinct
  have unlike : ∀ k ∈ ahead, k ≠ n := fun k before same =>
    (List.nodup_append.mp distinct).2.2 k before n (List.mem_singleton_self n) same
  have here : ⟨p, n⟩ ∈ l.entries := mem_level.mp (by rw [level]; simp)
  refine level_ext (insert_ordered (remove_ordered ordered)) ordered fun r => ?_
  rw [insert_level (remove_ordered ordered), remove_level once]
  by_cases own : r = p
  · rw [own, level, if_pos rfl, List.filter_append,
      List.filter_eq_self.mpr fun k before => by simpa using unlike k before]
    simp
  · have elsewhere : ∀ k ∈ l.level r, k ≠ n := by
      intro k listed same
      subst same
      have entry := List.inj_on_of_nodup_map once (mem_level.mp listed) here rfl
      exact own (congrArg Entry.priority entry)
    rw [if_neg own, List.append_nil,
      List.filter_eq_self.mpr fun k listed => by simpa using elsewhere k listed]

end PendingList

variable {g : Gic} {n : Nat}

-- The lines of one list, the private or the shared one, that wait under one priority.
def queue (g : Gic) (own : Bool) (p : UInt8) : List Nat :=
  (if own then g.privateList else g.sharedList).level p

theorem queue_congr {g' : Gic} (own : g'.privateList = g.privateList)
    (shared : g'.sharedList = g.sharedList) (side : Bool) (p : UInt8) :
    g'.queue side p = g.queue side p := by
  unfold queue
  rw [own, shared]

theorem Queued.side (q : g.Queued) (own : Bool) :
    (if own then g.privateList else g.sharedList).Holds (if own then g.ownDue else g.sharedDue) := by
  cases own
  · exact q.shared
  · exact q.own

-- Who stands in a queue waits, and belongs to that list.
theorem mem_queue (q : g.Queued) {own : Bool} {p : UInt8} :
    n ∈ g.queue own p ↔ own = decide (n < numPrivate) ∧ g.due n = some p := by
  unfold queue
  rw [PendingList.mem_level]
  have due : (if own then g.ownDue else g.sharedDue) n =
      if own = decide (n < numPrivate) then g.due n else none := by
    cases own <;> by_cases mine : n < numPrivate <;> simp [ownDue, sharedDue, mine]
  constructor
  · intro present
    have keyed := (q.side own).keyed _ present
    dsimp only at keyed
    rw [due, Option.ite_none_right_eq_some] at keyed
    exact keyed
  · rintro ⟨side, now⟩
    exact (q.side own).entry (by rw [due, if_pos side, now])

theorem adjustList_queue (g : Gic) (n : Nat) (f : PendingList → PendingList) (own : Bool)
    (p : UInt8) : (g.adjustList n f).queue own p =
      if own = decide (n < numPrivate) then
        (f (if own then g.privateList else g.sharedList)).level p
      else g.queue own p := by
  unfold queue adjustList
  by_cases mine : n < numPrivate <;> cases own <;> simp [mine]

-- A line that waits goes to the end of the queue of its priority, wherever it was before. A line
-- that does not wait is in no queue.
theorem setPriority_queue (q : g.Queued) (n : Nat) (p : UInt8) (own : Bool) (r : UInt8) :
    (g.setPriority n p).queue own r = (g.queue own r).filter (· ≠ n) ++
      if g.waits n ∧ own = decide (n < numPrivate) ∧ r = p then [n] else [] := by
  have absent (out : n ∉ g.queue own r) : (g.queue own r).filter (· ≠ n) = g.queue own r :=
    List.filter_eq_self.mpr fun k listed => by
      have other : k ≠ n := fun same => out (same ▸ listed)
      simpa using other
  have idle (rests : g.due n = none) : n ∉ g.queue own r := fun listed => by
    rw [((mem_queue q).mp listed).2] at rests
    cases rests
  unfold setPriority
  cases found : g.line? n with
  | none =>
      have rests : g.waits n = false := by simp [waits, found]
      rw [absent (idle (by simp [due, found])), rests]
      simp
  | some l =>
      have waiting : g.waits n = l.state.isPending := by simp [waits, found]
      dsimp only
      rw [waiting]
      split
      · rename_i waits
        rw [adjustList_queue]
        by_cases side : own = decide (n < numPrivate)
        · have held := q.side own
          rw [if_pos side, setLine_privateList, setLine_sharedList,
            PendingList.insert_level (PendingList.remove_ordered held.ordered),
            PendingList.remove_level held.nodup]
          simp [waits, side, queue]
        · rw [if_neg side, absent fun listed => side ((mem_queue q).mp listed).1,
            queue_congr (setLine_privateList ..) (setLine_sharedList ..)]
          simp [side]
      · rename_i rests
        rw [absent (idle (by rw [due_of_line found, if_neg rests])),
          queue_congr (setLine_privateList ..) (setLine_sharedList ..)]
        simp [rests]

theorem setPriority_waits (g : Gic) (n k : Nat) (p : UInt8) :
    (g.setPriority n p).waits k = g.waits k := by
  unfold waits
  rw [setPriority_line]
  by_cases same : k = n
  · subst same
    cases g.line? k <;> simp
  · rw [if_neg same]

-- Several lines are given priorities, one line after the other: they leave their queues and go to the
-- ends of their new ones in that order.
theorem setPriorities_queue {ns : List Nat} (q : g.Queued) (once : ns.Nodup) (p : Nat → UInt8)
    (own : Bool) (r : UInt8) : (ns.foldl (fun g n => g.setPriority n (p n)) g).queue own r =
      (g.queue own r).filter (· ∉ ns) ++
        ns.filter fun n => g.waits n ∧ own = decide (n < numPrivate) ∧ r = p n := by
  induction ns generalizing g with
  | nil => simp
  | cons n rest ih =>
      obtain ⟨alone, once⟩ := List.nodup_cons.mp once
      have later : rest.filter (fun k => (g.setPriority n (p n)).waits k ∧
          own = decide (k < numPrivate) ∧ r = p k) =
          rest.filter fun k => g.waits k ∧ own = decide (k < numPrivate) ∧ r = p k := by
        simp only [setPriority_waits]
      have stays : (g.queue own r).filter (· ∉ n :: rest) =
          ((g.queue own r).filter (· ≠ n)).filter (· ∉ rest) := by
        rw [List.filter_filter]
        simp [List.mem_cons, not_or, Bool.and_comm]
      rw [List.foldl_cons, ih (setPriority_queued (p n) q) once, later, setPriority_queue q,
        List.filter_append, stays, List.append_assoc, List.filter_cons]
      congr 1
      by_cases moved : g.waits n ∧ own = decide (n < numPrivate) ∧ r = p n
      · simp [moved, alone]
      · simp [moved]

-- Nothing that the line itself tells is different, so only its place can be.
theorem setPriority_same {l : Line} (found : g.line? n = some l) :
    g.setPriority n l.priority = if l.state.isPending then
      g.adjustList n fun q => (q.remove n).insert l.priority n else g := by
  have same : g.setLine n l = g := by
    have lines : g.lines.setIfInBounds n l = g.lines := by
      ext i inside
      by_cases here : n = i
      · subst here
        rw [Vector.getElem_setIfInBounds_self]
        exact (Vector.getElem_eq_iff.mpr found).symm
      · rw [Vector.getElem_setIfInBounds_ne _ here]
    unfold setLine
    rw [lines]
  unfold setPriority
  rw [found]
  dsimp only
  rw [same]

-- What comes of giving a line once more the priority that it has. It stays where it is only if it does
-- not wait or waits behind all its equals.
structure Renewed (g : Gic) (n : Nat) (l : Line) : Prop where
  -- No more than the list of the line changes.
  rest : ∃ f, g.setPriority n l.priority = g.adjustList n f
  queue : ∀ own r, (g.setPriority n l.priority).queue own r = (g.queue own r).filter (· ≠ n) ++
    if g.waits n ∧ own = decide (n < numPrivate) ∧ r = l.priority then [n] else []
  kept : g.setPriority n l.priority = g ↔
    (g.waits n → (g.queue (n < numPrivate) l.priority).getLast? = some n)

theorem setPriority_kept {l : Line} (q : g.Queued) (found : g.line? n = some l) :
    g.setPriority n l.priority = g ↔
      (g.waits n → (g.queue (n < numPrivate) l.priority).getLast? = some n) := by
  have waiting : g.waits n = l.state.isPending := by simp [waits, found]
  constructor
  · intro same waits
    have moved := setPriority_queue q n l.priority (n < numPrivate) l.priority
    rw [same, if_pos ⟨waits, rfl, rfl⟩] at moved
    rw [moved, List.getLast?_concat]
  · intro last
    rw [setPriority_same found, ← waiting]
    split
    · rename_i waits
      have held := q.side (n < numPrivate)
      have back := PendingList.requeue_last held.ordered held.nodup (last waits)
      unfold adjustList
      split <;> rename_i mine
      · simp only [mine, decide_true, if_true] at back
        simp only [back]
      · simp only [mine, decide_false, Bool.false_eq_true, if_false] at back
        simp only [back]
    · rfl

theorem setPriority_renewed {l : Line} (q : g.Queued) (found : g.line? n = some l) :
    g.Renewed n l where
  rest := by
    rw [setPriority_same found]
    split
    · exact ⟨_, rfl⟩
    · refine ⟨id, ?_⟩
      unfold adjustList
      split <;> rfl
  queue := setPriority_queue q n l.priority
  kept := setPriority_kept q found

end VmMonitor.Gic
