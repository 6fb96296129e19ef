import VmMonitor.Proofs.Gic.Queued

/-!
Which interrupt is presented. The controller looks at the first suitable entry of each list only;
in a queued controller that entry is the most urgent of all lines that can be delivered.
-/

namespace VmMonitor.Gic

variable {g g' : Gic} {n k : Nat}

-- Line `n` waits and nothing keeps it from the guest. Only shared lines depend on the switch of
-- the distributor and on being aimed at the one CPU.
def Deliverable (g : Gic) (n : Nat) : Prop :=
  ∃ l, g.line? n = some l ∧ l.state.isPending = true ∧ l.enabled = true ∧
    (numPrivate ≤ n → g.enabled = true ∧ l.target &&& 1 ≠ 0)

-- Nothing of the line itself is in the way.
def eligible (g : Gic) (n : Nat) : Bool :=
  (g.line? n).any fun l => l.enabled && (n < numPrivate || l.target &&& 1 != 0)

theorem deliverable_iff : g.Deliverable n ↔
    (g.due n).isSome = true ∧ g.eligible n = true ∧ (numPrivate ≤ n → g.enabled = true) := by
  unfold Deliverable due eligible
  cases found : g.line? n with
  | none => simp
  | some l =>
      by_cases mine : n < numPrivate
      · have below : ¬ numPrivate ≤ n := by omega
        simp [mine, below]
      · have above : numPrivate ≤ n := by omega
        simp [mine, above, and_comm, and_left_comm]

instance : Decidable (g.Deliverable n) := decidable_of_iff _ deliverable_iff.symm

theorem Queued.own_entry (q : g.Queued) {e : Entry} (present : e ∈ g.privateList.entries) :
    e.number < numPrivate ∧ g.due e.number = some e.priority := by
  have key := q.own.keyed e present
  unfold ownDue at key
  split at key
  · exact ⟨‹_›, key⟩
  · cases key

theorem Queued.shared_entry (q : g.Queued) {e : Entry} (present : e ∈ g.sharedList.entries) :
    numPrivate ≤ e.number ∧ g.due e.number = some e.priority := by
  have key := q.shared.keyed e present
  unfold sharedDue at key
  split at key
  · cases key
  · exact ⟨by omega, key⟩

theorem due_line {p : UInt8} (waits : g.due n = some p) :
    ∃ l, g.line? n = some l ∧ l.state.isPending = true ∧ l.priority = p := by
  obtain ⟨l, found, now⟩ := Option.bind_eq_some_iff.mp waits
  split at now
  · exact ⟨l, found, ‹_›, Option.some.inj now⟩
  · cases now

-- The two walks over the lists, with their look-ups, as plain searches.

theorem enabledPrivate_first (es : List Entry)
    (known : ∀ e ∈ es, e.number < numPrivate ∧ ∃ l, g.line? e.number = some l) :
    g.enabledPrivate es = .ok (es.find? fun e => g.eligible e.number) := by
  induction es with
  | nil => rfl
  | cons e rest ih =>
      obtain ⟨mine, l, found⟩ := known e (List.mem_cons_self ..)
      have later := ih fun f present => known f (List.mem_cons_of_mem _ present)
      have test : g.eligible e.number = l.enabled := by simp [eligible, found, mine]
      simp only [enabledPrivate, mine, found, if_true, List.find?_cons, test]
      cases l.enabled with
      | true => rfl
      | false => exact later

theorem enabledShared_first (es : List Entry)
    (known : ∀ e ∈ es, numPrivate ≤ e.number ∧ ∃ l, g.line? e.number = some l) :
    g.enabledShared es = .ok (es.find? fun e => g.eligible e.number) := by
  induction es with
  | nil => rfl
  | cons e rest ih =>
      obtain ⟨shared, l, found⟩ := known e (List.mem_cons_self ..)
      have later := ih fun f present => known f (List.mem_cons_of_mem _ present)
      have other : ¬ e.number < numPrivate := by omega
      have test : g.eligible e.number = (l.enabled && l.target &&& 1 != 0) := by
        simp [eligible, found, other]
      simp only [enabledShared, other, found, if_false, List.find?_cons, test]
      cases l.enabled && l.target &&& 1 != 0 with
      | true => rfl
      | false => exact later

def choice (g : Gic) : Option Entry :=
  moreUrgent (g.privateList.first? g.eligible)
    (if g.enabled then g.sharedList.first? g.eligible else none)

-- Every look-up on the way finds its line.
theorem candidate_choice (q : g.Queued) : g.candidate = .ok g.choice := by
  have own := enabledPrivate_first (g := g) g.privateList.entries fun e present =>
    ⟨(q.own_entry present).1, (due_line (q.own_entry present).2).imp fun _ h => h.1⟩
  have shared := enabledShared_first (g := g) g.sharedList.entries fun e present =>
    ⟨(q.shared_entry present).1, (due_line (q.shared_entry present).2).imp fun _ h => h.1⟩
  unfold candidate choice
  rw [own, shared]
  cases g.enabled <;> rfl

theorem arbitrate_held (held : g.presented ≠ spurious) :
    g.arbitrate = .ok (some g.presented, g) := by
  simp only [arbitrate, if_pos held]; rfl

def present (g : Gic) (e : Entry) : Gic := { g.acknowledge e.number with presented := e.number }

theorem arbitrate_free (q : g.Queued) (free : g.presented = spurious) :
    g.arbitrate = .ok (match g.choice with
      | none => (none, g)
      | some e => (some e.number, g.present e)) := by
  simp only [arbitrate, free, ne_eq, not_true_eq_false, if_false, candidate_choice q]
  cases g.choice <;> rfl

theorem moreUrgent_none {p s : Option Entry} : moreUrgent p s = none ↔ p = none ∧ s = none := by
  cases p <;> cases s <;> simp [moreUrgent]
  split <;> simp

theorem moreUrgent_some {p s : Option Entry} {e : Entry} (won : moreUrgent p s = some e) :
    (p = some e ∧ ∀ f, s = some f → e.priority ≤ f.priority) ∨
      (s = some e ∧ ∀ f, p = some f → e.priority < f.priority) := by
  cases p with
  | none => exact .inr ⟨won, by simp⟩
  | some a =>
      cases s with
      | none => exact .inl ⟨won, by simp⟩
      | some b =>
          by_cases le : a.priority ≤ b.priority
          · simp only [moreUrgent, if_pos le] at won
            cases Option.some.inj won
            refine .inl ⟨rfl, ?_⟩
            rintro f ⟨⟩
            exact le
          · simp only [moreUrgent, if_neg le] at won
            cases Option.some.inj won
            refine .inr ⟨rfl, ?_⟩
            rintro f ⟨⟩
            exact UInt8.not_le.mp le

-- What a line that can be delivered looks like from the lists: a suitable entry of its own list.
theorem Queued.waiting (q : g.Queued) (can : g.Deliverable n) :
    ∃ p, g.due n = some p ∧ g.eligible n = true ∧ ⟨p, n⟩ ∈ (g.listOf n).entries := by
  obtain ⟨waits, suitable, _⟩ := deliverable_iff.mp can
  obtain ⟨p, now⟩ := Option.isSome_iff_exists.mp waits
  refine ⟨p, now, suitable, ?_⟩
  unfold listOf
  split
  · exact q.own.entry (by simp [ownDue, *])
  · exact q.shared.entry (by simp [sharedDue, *])

theorem choice_none (q : g.Queued) : g.choice = none ↔ ∀ n, ¬ g.Deliverable n := by
  unfold choice
  rw [moreUrgent_none]
  constructor
  · rintro ⟨own, shared⟩ n can
    obtain ⟨p, _, suitable, present⟩ := q.waiting can
    unfold listOf at present
    split at present
    · obtain ⟨f, met⟩ := PendingList.first_exists present suitable
      rw [own] at met
      cases met
    · have on := (deliverable_iff.mp can).2.2 (by omega)
      obtain ⟨f, met⟩ := PendingList.first_exists present suitable
      rw [if_pos on, met] at shared
      cases shared
  · intro nothing
    constructor
    · refine PendingList.first_none.mpr fun e present => ?_
      by_contra suitable
      obtain ⟨mine, now⟩ := q.own_entry present
      refine nothing e.number (deliverable_iff.mpr ⟨by simp [now], by simpa using suitable, ?_⟩)
      omega
    · cases on : g.enabled with
      | false => rfl
      | true =>
          refine PendingList.first_none.mpr fun e present => ?_
          by_contra suitable
          obtain ⟨_, now⟩ := q.shared_entry present
          exact nothing e.number
            (deliverable_iff.mpr ⟨by simp [now], by simpa using suitable, fun _ => on⟩)

-- Where the winner comes from, and what it beat.
theorem choice_some (q : g.Queued) {e : Entry} (won : g.choice = some e) :
    (e.number < numPrivate ∧ g.privateList.first? g.eligible = some e ∧
      ∀ f, g.enabled = true → g.sharedList.first? g.eligible = some f →
        e.priority ≤ f.priority) ∨
    (numPrivate ≤ e.number ∧ g.enabled = true ∧ g.sharedList.first? g.eligible = some e ∧
      ∀ f, g.privateList.first? g.eligible = some f → e.priority < f.priority) := by
  rcases moreUrgent_some won with ⟨own, beaten⟩ | ⟨shared, beaten⟩
  · refine .inl ⟨(q.own_entry (PendingList.first_passes own).1).1, own, ?_⟩
    intro f on found
    exact beaten f (by rw [if_pos on]; exact found)
  · cases on : g.enabled with
    | false =>
        rw [on] at shared
        cases shared
    | true =>
        rw [if_pos on] at shared
        exact .inr ⟨(q.shared_entry (PendingList.first_passes shared).1).1, rfl, shared, beaten⟩

theorem choice_deliverable (q : g.Queued) {e : Entry} (won : g.choice = some e) :
    g.Deliverable e.number ∧ g.due e.number = some e.priority := by
  rcases choice_some q won with ⟨mine, found, _⟩ | ⟨_, on, found, _⟩
  · obtain ⟨present, suitable⟩ := PendingList.first_passes found
    have now := (q.own_entry present).2
    exact ⟨deliverable_iff.mpr ⟨by simp [now], suitable, by omega⟩, now⟩
  · obtain ⟨present, suitable⟩ := PendingList.first_passes found
    have now := (q.shared_entry present).2
    exact ⟨deliverable_iff.mpr ⟨by simp [now], suitable, fun _ => on⟩, now⟩

def priorityOf (g : Gic) (n : Nat) : UInt8 := (g.line? n).elim 0 (·.priority)

theorem due_priority {p : UInt8} (waits : g.due n = some p) : g.priorityOf n = p := by
  obtain ⟨l, found, _, rfl⟩ := due_line waits
  simp [priorityOf, found]

-- The line that should be presented: of all that can be delivered one with the least priority
-- value, private before shared, and among equals of one list the one that has waited longest.
structure Best (g : Gic) (n : Nat) : Prop where
  deliverable : g.Deliverable n
  least : ∀ k, g.Deliverable k → g.priorityOf n ≤ g.priorityOf k
  ownFirst : ∀ k, g.Deliverable k → g.priorityOf k = g.priorityOf n → k < numPrivate →
    n < numPrivate
  earliest : ∀ k, g.Deliverable k → g.priorityOf k = g.priorityOf n →
    (k < numPrivate ↔ n < numPrivate) →
    (g.listOf n).numbers.idxOf n ≤ (g.listOf n).numbers.idxOf k

-- Every line that can be delivered has an entry that the winner was measured against.
theorem choice_rival (q : g.Queued) {e : Entry} (won : g.choice = some e)
    (other : g.Deliverable k) : e.priority ≤ g.priorityOf k ∧
      (k < numPrivate → e.priority = g.priorityOf k → e.number < numPrivate) ∧
      ((k < numPrivate ↔ e.number < numPrivate) →
        (g.listOf e.number).numbers.idxOf e.number ≤ (g.listOf e.number).numbers.idxOf k) := by
  obtain ⟨p, waits, suitable, present⟩ := q.waiting other
  have on := (deliverable_iff.mp other).2.2
  rw [due_priority waits]
  unfold listOf at present
  rcases choice_some q won with ⟨own, found, beaten⟩ | ⟨shared, _, found, beaten⟩
  · by_cases low : k < numPrivate
    · rw [if_pos low] at present
      have first := PendingList.first_least q.own found present suitable
      refine ⟨first.1, fun _ _ => own, fun _ => ?_⟩
      simpa [listOf, own] using first.2
    · rw [if_neg low] at present
      refine ⟨?_, fun _ _ => own, fun same => absurd (same.mpr own) low⟩
      obtain ⟨f, met⟩ := PendingList.first_exists present suitable
      have first := PendingList.first_least q.shared met present suitable
      exact UInt8.le_trans (beaten f (on (by omega)) met) first.1
  · by_cases low : k < numPrivate
    · rw [if_pos low] at present
      obtain ⟨f, met⟩ := PendingList.first_exists present suitable
      have first := PendingList.first_least q.own met present suitable
      have less := UInt8.lt_of_lt_of_le (beaten f met) first.1
      refine ⟨UInt8.le_of_lt less, ?_, fun same => ?_⟩
      · intro _ equal
        rw [equal] at less
        exact absurd less (UInt8.lt_irrefl _)
      · have below := same.mp low
        omega
    · rw [if_neg low] at present
      have first := PendingList.first_least q.shared found present suitable
      refine ⟨first.1, fun below => absurd below low, fun _ => ?_⟩
      have above : ¬ e.number < numPrivate := by omega
      simpa [listOf, above] using first.2

theorem choice_best (q : g.Queued) {e : Entry} (won : g.choice = some e) : g.Best e.number := by
  obtain ⟨can, now⟩ := choice_deliverable q won
  have mine := due_priority now
  refine ⟨can, ?_, ?_, ?_⟩
  · intro k other
    rw [mine]
    exact (choice_rival q won other).1
  · intro k other equal low
    exact (choice_rival q won other).2.1 low (by rw [equal, mine])
  · intro k other _ same
    exact (choice_rival q won other).2.2 same

-- What presenting line `n` does to the controller, and that it does no more.
structure Presents (g : Gic) (n : Nat) (g' : Gic) : Prop where
  presented : g'.presented = n
  winner : g'.line? n = (g.line? n).map fun l => { l with state := l.state.acknowledged }
  lines : ∀ k, k ≠ n → g'.line? k = g.line? k
  own : g'.privateList.entries.filter (·.number ≠ n) =
    g.privateList.entries.filter (·.number ≠ n)
  shared : g'.sharedList.entries.filter (·.number ≠ n) =
    g.sharedList.entries.filter (·.number ≠ n)
  enabled : g'.enabled = g.enabled
  notifications : g'.notifications = g.notifications

-- Where nothing is queued anew, at most the entry of the one line goes from its list.
theorem requeue_others (p : UInt8) {o : ListOp} (nothing : o ≠ .insert) :
    ((g.requeue n p o).privateList.entries.filter (·.number ≠ n) =
      g.privateList.entries.filter (·.number ≠ n)) ∧
    ((g.requeue n p o).sharedList.entries.filter (·.number ≠ n) =
      g.sharedList.entries.filter (·.number ≠ n)) := by
  cases o with
  | keep => exact ⟨rfl, rfl⟩
  | insert => exact absurd rfl nothing
  | remove =>
      unfold requeue adjustList
      dsimp only
      split
      · exact ⟨PendingList.remove_others _ _, rfl⟩
      · exact ⟨rfl, PendingList.remove_others _ _⟩

theorem acknowledged_stays (s : State) : ListOp.between s s.acknowledged ≠ .insert := by
  cases s <;> decide

theorem present_presents {e : Entry} (can : g.Deliverable e.number) :
    g.Presents e.number (g.present e) := by
  have lines := fun k => move_line g e.number k .acknowledge
  obtain ⟨l, found, _⟩ := can
  obtain ⟨own, shared⟩ := requeue_others
    (g := g.setLine e.number { l with state := l.state.acknowledged }) (n := e.number)
    l.priority (acknowledged_stays l.state)
  refine ⟨rfl, ?winner, fun k other => ?lines, ?own, ?shared, ?enabled, ?notifications⟩
  case winner => exact (lines e.number).trans (if_pos rfl)
  case lines => exact (lines k).trans (if_neg other)
  case own =>
    change (g.move e.number .acknowledge).privateList.entries.filter _ = _
    rw [move_found _ found, notify_privateList]
    exact own
  case shared =>
    change (g.move e.number .acknowledge).sharedList.entries.filter _ = _
    rw [move_found _ found, notify_sharedList]
    exact shared
  case enabled => exact move_enabled ..
  case notifications => exact move_notifications g e.number (by decide)

theorem present_queued {e : Entry} (q : g.Queued) (can : g.Deliverable e.number) :
    (g.present e).Queued := by
  obtain ⟨l, found, _⟩ := can
  have moved : (g.acknowledge e.number).Queued := move_queued _ q
  exact ⟨moved.own, moved.shared, .inr (line_exists found)⟩

-- Everything that arbitration can do to a queued controller.
theorem arbitrate_cases (q : g.Queued) :
    (g.presented ≠ spurious ∧ g.arbitrate = .ok (some g.presented, g)) ∨
    (g.presented = spurious ∧ (∀ n, ¬ g.Deliverable n) ∧ g.arbitrate = .ok (none, g)) ∨
    (g.presented = spurious ∧ ∃ e, g.Best e.number ∧
      g.arbitrate = .ok (some e.number, g.present e)) := by
  by_cases free : g.presented = spurious
  · have done := arbitrate_free q free
    cases won : g.choice with
    | none =>
        rw [won] at done
        exact .inr (.inl ⟨free, (choice_none q).mp won, done⟩)
    | some e =>
        rw [won] at done
        exact .inr (.inr ⟨free, e, choice_best q won, done⟩)
  · exact .inl ⟨free, arbitrate_held free⟩

theorem arbitrate_queued (q : g.Queued) :
    ∃ answer g', g.arbitrate = .ok (answer, g') ∧ g'.Queued := by
  rcases arbitrate_cases q with ⟨_, done⟩ | ⟨_, _, done⟩ | ⟨_, e, best, done⟩
  · exact ⟨_, _, done, q⟩
  · exact ⟨_, _, done, q⟩
  · exact ⟨_, _, done, present_queued q best.deliverable⟩

theorem completePresented_queued (q : g.Queued) : g.completePresented.Queued := by
  have free (g' : Gic) (q' : g'.Queued) : ({ g' with presented := spurious } : Gic).Queued :=
    ⟨q'.own, q'.shared, .inl rfl⟩
  unfold completePresented
  split
  · exact q
  · dsimp only
    split
    · exact free _ (move_queued _ q)
    · exact free _ (move_queued _ q)

theorem takeNotifications_queued (q : g.Queued) : g.takeNotifications.2.Queued :=
  ⟨q.own, q.shared, q.presented⟩

end VmMonitor.Gic
