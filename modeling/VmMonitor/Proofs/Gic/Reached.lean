import VmMonitor.Proofs.Gic.Arbitration

/-!
The controller over a whole history. After any sequence of operations every line that waits is
queued once, under its present priority, and arbitration answers with the best line there is.
-/

namespace VmMonitor.Gic

variable {g g' : Gic}

-- Everything that the owner of a controller can do to it.
inductive Operation where
  | request (r : Request)
  | arbitrate
  | complete
  | take
  deriving DecidableEq, Repr

def perform (g : Gic) : Operation → Checked Gic
  | .request r => .ok (g.apply r)
  | .arbitrate => do return (← g.arbitrate).2
  | .complete => .ok g.completePresented
  | .take => .ok g.takeNotifications.2

def run (g : Gic) : List Operation → Checked Gic
  | [] => .ok g
  | op :: rest => do (← g.perform op).run rest

def Reached (g : Gic) : Prop := ∃ ops, initial.run ops = .ok g

theorem perform_queued (q : g.Queued) (op : Operation) :
    ∃ g', g.perform op = .ok g' ∧ g'.Queued := by
  cases op with
  | request r => exact ⟨_, rfl, apply_queued r q⟩
  | arbitrate =>
      obtain ⟨answer, g', done, q'⟩ := arbitrate_queued q
      exact ⟨g', by simp only [perform, done]; rfl, q'⟩
  | complete => exact ⟨_, rfl, completePresented_queued q⟩
  | take => exact ⟨_, rfl, takeNotifications_queued q⟩

theorem run_queued (q : g.Queued) (ops : List Operation) :
    ∃ g', g.run ops = .ok g' ∧ g'.Queued := by
  induction ops generalizing g with
  | nil => exact ⟨g, rfl, q⟩
  | cons op rest ih =>
      obtain ⟨middle, done, q'⟩ := perform_queued q op
      obtain ⟨g', ran, q''⟩ := ih q'
      exact ⟨g', by simp only [run, done]; exact ran, q''⟩

theorem reached_queued (reached : g.Reached) : g.Queued := by
  obtain ⟨ops, ran⟩ := reached
  obtain ⟨g', ran', q⟩ := run_queued initial_queued ops
  rw [ran] at ran'
  cases ran'
  exact q

theorem run_append (g : Gic) (earlier later : List Operation) :
    g.run (earlier ++ later) = (g.run earlier).bind fun g => g.run later := by
  induction earlier generalizing g with
  | nil => rfl
  | cons op rest ih =>
      simp only [List.cons_append, run]
      cases g.perform op with
      | error e => rfl
      | ok middle => exact ih middle

theorem reached_perform (reached : g.Reached) (op : Operation) (done : g.perform op = .ok g') :
    g'.Reached := by
  obtain ⟨ops, ran⟩ := reached
  refine ⟨ops ++ [op], ?_⟩
  rw [run_append, ran]
  simp only [Except.bind, run, done]
  rfl

theorem reached_apply (reached : g.Reached) (r : Request) : (g.apply r).Reached :=
  reached_perform reached (.request r) rfl

theorem reached_complete (reached : g.Reached) : g.completePresented.Reached :=
  reached_perform reached .complete rfl

theorem reached_take (reached : g.Reached) : g.takeNotifications.2.Reached :=
  reached_perform reached .take rfl

theorem reached_arbitrate (reached : g.Reached) {answer : Option Nat}
    (done : g.arbitrate = .ok (answer, g')) : g'.Reached :=
  reached_perform reached .arbitrate (by simp only [perform, done]; rfl)

def waits (g : Gic) (n : Nat) : Bool := (g.line? n).any (·.state.isPending)

-- The two records of what waits agree: by line, by priority and by order.
structure Agreeing (g : Gic) : Prop where
  own : ∀ n, g.privateList.numbers.count n = if n < numPrivate ∧ g.waits n then 1 else 0
  shared : ∀ n, g.sharedList.numbers.count n =
    if numPrivate ≤ n ∧ n < numLines ∧ g.waits n then 1 else 0
  priority : ∀ e ∈ g.privateList.entries ++ g.sharedList.entries,
    ∃ l, g.line? e.number = some l ∧ l.priority = e.priority
  ownOrdered : g.privateList.Ordered
  sharedOrdered : g.sharedList.Ordered

theorem due_waits (g : Gic) (n : Nat) : (g.due n).isSome = g.waits n := by
  unfold due waits
  cases g.line? n with
  | none => rfl
  | some l => cases waiting : l.state.isPending <;> simp [waiting]

theorem waits_exists {n : Nat} (h : g.waits n = true) : n < numLines := by
  unfold waits at h
  cases found : g.line? n with
  | none => simp [found] at h
  | some l => exact line_exists found

theorem queued_agreeing (q : g.Queued) : g.Agreeing where
  own := by
    intro n
    rw [q.own.once, ownDue]
    by_cases mine : n < numPrivate
    · simp [mine, due_waits]
    · simp [mine]
  shared := by
    intro n
    rw [q.shared.once, sharedDue]
    by_cases mine : n < numPrivate
    · have below : ¬ numPrivate ≤ n := by omega
      simp [mine, below]
    · have above : numPrivate ≤ n := by omega
      cases waiting : g.waits n with
      | false => simp [mine, due_waits, waiting]
      | true => simp [mine, above, due_waits, waiting, waits_exists waiting]
  priority := by
    intro e present
    have now : g.due e.number = some e.priority := by
      rcases List.mem_append.mp present with own | shared
      · exact (q.own_entry own).2
      · exact (q.shared_entry shared).2
    obtain ⟨l, found, _, equal⟩ := due_line now
    exact ⟨l, found, equal⟩
  ownOrdered := q.own.ordered
  sharedOrdered := q.shared.ordered

-- No sequence of operations faults, and none leaves the lists out of step with the lines.
theorem run_agreeing (ops : List Operation) :
    ∃ g, initial.run ops = .ok g ∧ g.Agreeing ∧
      ∃ answer g', g.arbitrate = .ok (answer, g') := by
  obtain ⟨g, ran, q⟩ := run_queued initial_queued ops
  obtain ⟨answer, g', done, _⟩ := arbitrate_queued q
  exact ⟨g, ran, queued_agreeing q, answer, g', done⟩

theorem arbitration_best (reached : g.Reached) :
    (g.presented ≠ spurious → g.arbitrate = .ok (some g.presented, g)) ∧
    (g.presented = spurious →
      (g.arbitrate = .ok (none, g) ↔ ∀ n, ¬ g.Deliverable n) ∧
      ((∃ n, g.Deliverable n) →
        ∃ n g', g.arbitrate = .ok (some n, g') ∧ g.Best n ∧ g.Presents n g')) := by
  rcases arbitrate_cases (reached_queued reached) with
    ⟨held, done⟩ | ⟨free, nothing, done⟩ | ⟨free, e, best, done⟩
  · exact ⟨fun _ => done, fun free => absurd free held⟩
  · refine ⟨fun held => absurd free held, fun _ => ⟨⟨fun _ => nothing, fun _ => done⟩, ?_⟩⟩
    rintro ⟨n, can⟩
    exact absurd can (nothing n)
  · refine ⟨fun held => absurd free held, fun _ => ⟨⟨?_, ?_⟩, fun _ => ?_⟩⟩
    · intro none
      rw [done] at none
      cases none
    · intro nothing
      exact absurd best.deliverable (nothing _)
    · exact ⟨_, _, done, best, present_presents best.deliverable⟩

-- A private and a shared line wait. The private one came first, but the shared one is more urgent.
def rivals : List Operation :=
  [.request .enableDistributor,
    .request (.setPriority timerLine 0xa0), .request (.enable timerLine),
    .request (.assert timerLine),
    .request (.setPriority 40 0x80), .request (.enable 40), .request (.assert 40)]

theorem arbitration_best_rivals :
    ∃ g, initial.run rivals = .ok g ∧ g.presented = spurious ∧
      g.Deliverable timerLine ∧ g.Deliverable 40 ∧
      g.priorityOf 40 < g.priorityOf timerLine ∧
      ∃ g', g.arbitrate = .ok (some 40, g') ∧ g.Best 40 ∧ g.Presents 40 g' := by
  have ran : (initial.run rivals).toOption.any fun g => g.presented = spurious ∧
      g.Deliverable timerLine ∧ g.Deliverable 40 ∧ g.priorityOf 40 < g.priorityOf timerLine ∧
      g.arbitrate.toOption.any fun (answer, _) => answer = some 40 := by
    rw [initial_listed]
    decide +kernel
  obtain ⟨g, ran, now⟩ := Checked.ok_of_any ran
  obtain ⟨free, own, shared, less, now⟩ := of_decide_eq_true now
  obtain ⟨⟨_, g'⟩, chosen, now⟩ := Checked.ok_of_any now
  cases of_decide_eq_true now
  obtain ⟨n, g'', same, best, presents⟩ := ((arbitration_best ⟨_, ran⟩).2 free).2 ⟨_, own⟩
  rw [chosen] at same
  cases same
  exact ⟨g, ran, free, own, shared, less, g', chosen, best, presents⟩

end VmMonitor.Gic
