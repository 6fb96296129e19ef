import VmMonitor.Proofs.Gic.Engaged
import VmMonitor.Proofs.Gic.Reached

/-!
One line between the moment the guest is given it and the moment the guest is done with it. What an
operation does to a line hangs on the state of the line and on whether it is the one presented, and
on nothing else. From this follow what becomes of a line that is asserted while it is served, and
that the guest is never given a line more often than somebody asserted it.
-/

namespace VmMonitor.Gic

variable {g g' : Gic} {n k : Nat} {op : Operation}

-- A line that does not exist counts as one at rest.
def stateOf (g : Gic) (n : Nat) : State := ((g.line? n).map (·.state)).getD .inactive

theorem stateOf_line {l : Line} (found : g.line? n = some l) : g.stateOf n = l.state := by
  simp [stateOf, found]

theorem waits_stateOf (g : Gic) (n : Nat) : g.waits n = (g.stateOf n).isPending := by
  unfold waits stateOf
  cases g.line? n <;> rfl

theorem line_found (g : Gic) (listed : n < numLines) : ∃ l, g.line? n = some l :=
  ⟨g.lines[n], Vector.getElem?_eq_getElem listed⟩

theorem pendingLines_count (q : g.Queued) (n : Nat) :
    g.pendingLines.count n = if (g.stateOf n).isPending then 1 else 0 := by
  have agree := queued_agreeing q
  rw [pendingLines, List.count_append, agree.own, agree.shared, ← waits_stateOf]
  cases waiting : g.waits n with
  | false => simp
  | true =>
      have inside := waits_exists waiting
      by_cases mine : n < numPrivate
      · have below : ¬ numPrivate ≤ n := by omega
        simp [mine, below]
      · have above : numPrivate ≤ n := by omega
        simp [mine, above, inside]

-- The transition that a request puts the line it is about through.
def Request.transition : Request → State → State
  | .assert _ => .asserted
  | .withdraw _ => .withdrawn
  | .acknowledge _ => .acknowledged
  | .deactivate _ => .completed
  | .clearPending _ => .cleared
  | .enableDistributor | .disableDistributor | .enable _ | .disable _ | .setPriority .. |
    .setTarget .. | .setTrigger .. | .setLevel .. | .setHandler .. => id

def Request.effect (n : Nat) (r : Request) (s : State) : State :=
  if r.subject = some n then r.transition s else s

theorem stateOf_at {f : Line → Line} {s : State → State} (listed : n < numLines)
    (changed : g'.line? n = if n = k then (g.line? k).map f else g.line? n)
    (moved : ∀ l, (f l).state = s l.state) :
    g'.stateOf n = if k = n then s (g.stateOf n) else g.stateOf n := by
  obtain ⟨l, found⟩ := line_found g listed
  by_cases equal : n = k
  · subst k
    rw [if_pos rfl, found, Option.map_some] at changed
    rw [if_pos rfl, stateOf_line changed, stateOf_line found, moved]
  · rw [if_neg equal, found] at changed
    rw [if_neg (Ne.symm equal), stateOf_line changed, stateOf_line found]

theorem stateOf_move (g : Gic) (k : Nat) (m : Move) (listed : n < numLines) :
    (g.move k m).stateOf n = if k = n then m.leads (g.stateOf n) else g.stateOf n :=
  stateOf_at listed (move_line g k n m) fun _ => rfl

theorem stateOf_adjust (g : Gic) (k : Nat) {f : Line → Line} (listed : n < numLines)
    (keeps : ∀ l, (f l).state = l.state) : (g.adjust k f).stateOf n = g.stateOf n := by
  rw [stateOf_at (s := id) listed (adjust_line g k n f) keeps, id, ite_self]

theorem stateOf_congr (same : g'.line? n = g.line? n) : g'.stateOf n = g.stateOf n := by
  simp [stateOf, same]

theorem stateOf_setLevel (g : Gic) (k : Nat) (level : Bool) (listed : n < numLines) :
    (g.setLevel k level).stateOf n = g.stateOf n := by
  have adjusted := stateOf_adjust g k (f := fun l => { l with level := level }) listed fun _ => rfl
  rw [← adjusted]
  unfold setLevel adjust
  cases g.line? k with
  | none => rfl
  | some l => exact stateOf_congr (notify_line ..)

theorem effect_still {r : Request} (still : r.transition = id) (n : Nat) (s : State) :
    r.effect n s = s := by
  rw [Request.effect, still, id, ite_self]

theorem apply_stateOf (g : Gic) (r : Request) (listed : n < numLines) :
    (g.apply r).stateOf n = r.effect n (g.stateOf n) := by
  cases r with
  | enableDistributor | disableDistributor => exact stateOf_congr rfl
  | enable k | disable k | setTrigger k trigger | setHandler k handler =>
      rw [effect_still rfl]
      exact stateOf_adjust g k listed fun _ => rfl
  | assert k | withdraw k | acknowledge k | deactivate k | clearPending k =>
      simp only [Request.effect, Request.subject, Option.some.injEq]
      exact stateOf_move g k _ listed
  | setPriority k p =>
      rw [effect_still rfl]
      refine (stateOf_at (s := id) listed (setPriority_line g k n p) fun _ => rfl).trans ?_
      rw [id, ite_self]
  | setTarget k target =>
      rw [effect_still rfl]
      change (g.setTarget k target).stateOf n = _
      unfold setTarget
      split
      · rfl
      · exact stateOf_adjust g k listed fun _ => rfl
  | setLevel k level =>
      rw [effect_still rfl]
      exact stateOf_setLevel g k level listed

theorem apply_presented (g : Gic) (r : Request) : (g.apply r).presented = g.presented := by
  cases r with
  | enableDistributor | disableDistributor => rfl
  | enable k | disable k | setTrigger k trigger | setHandler k handler => exact adjust_presented ..
  | assert k | withdraw k | acknowledge k | deactivate k | clearPending k => exact move_presented ..
  | setPriority k p =>
      change (g.setPriority k p).presented = _
      unfold setPriority
      split
      · rfl
      · dsimp only
        split
        · rw [adjustList_presented, setLine_presented]
        · rfl
  | setTarget k target =>
      change (g.setTarget k target).presented = _
      unfold setTarget
      split
      · rfl
      · exact adjust_presented ..
  | setLevel k level =>
      change (g.setLevel k level).presented = _
      unfold setLevel
      split
      · rfl
      · rw [notify_presented, setLine_presented]

-- All that the fate of a line hangs on.
structure Standing where
  state : State
  served : Bool
  deriving DecidableEq

def standing (g : Gic) (n : Nat) : Standing := ⟨g.stateOf n, g.presented = n⟩

theorem standing_served (state : g.stateOf n = s) (presented : g.presented = n) :
    g.standing n = ⟨s, true⟩ := by
  simp [standing, state, presented]

theorem standing_unserved (state : g.stateOf n = s) (presented : g.presented ≠ n) :
    g.standing n = ⟨s, false⟩ := by
  simp [standing, state, presented]

-- How line `n` can come through one operation.
inductive Passes (n : Nat) : Operation → Standing → Standing → Prop where
  | request {s : Standing} (r : Request) :
      Passes n (.request r) s ⟨r.effect n s.state, s.served⟩
  | untouched {s : Standing} : Passes n .take s s
  | unchosen {s : Standing} : Passes n .arbitrate s s
  | chosen {s : State} (due : s.isPending = true) :
      Passes n .arbitrate ⟨s, false⟩ ⟨s.acknowledged, true⟩
  | unserved {s : State} : Passes n .complete ⟨s, false⟩ ⟨s, false⟩
  | requeued : Passes n .complete ⟨.activePending, true⟩ ⟨.pending, false⟩
  | ended {s : State} (once : s ≠ .activePending) :
      Passes n .complete ⟨s, true⟩ ⟨.inactive, false⟩

theorem listed_real (listed : n < numLines) : spurious ≠ n := by
  unfold numLines at listed
  unfold spurious
  omega

theorem present_stateOf (g : Gic) (e : Entry) (listed : n < numLines) : (g.present e).stateOf n =
    if e.number = n then (g.stateOf n).acknowledged else g.stateOf n :=
  stateOf_move g e.number .acknowledge listed

theorem Best.pending (best : g.Best n) : (g.stateOf n).isPending = true := by
  obtain ⟨l, found, waits, _⟩ := best.deliverable
  rwa [stateOf_line found]

theorem arbitrate_passes (q : g.Queued) (listed : n < numLines) {answer : Option Nat}
    (done : g.arbitrate = .ok (answer, g')) :
    Passes n .arbitrate (g.standing n) (g'.standing n) := by
  rcases arbitrate_cases q with ⟨_, ran⟩ | ⟨_, _, ran⟩ | ⟨free, e, best, ran⟩ <;>
    rw [ran] at done <;> cases done
  · exact .unchosen
  · exact .unchosen
  · have idle : g.presented ≠ n := by rw [free]; exact listed_real listed
    have now := present_stateOf g e listed
    rw [standing_unserved rfl idle]
    by_cases winner : e.number = n
    · rw [if_pos winner] at now
      rw [standing_served now winner]
      exact .chosen (by rw [← winner]; exact best.pending)
    · rw [if_neg winner] at now
      rw [standing_unserved now winner]
      exact .unchosen

-- What arbitration newly presents was waiting.
theorem arbitrate_chosen (q : g.Queued) (free : g.presented = spurious)
    (done : g.arbitrate = .ok (some n, g')) :
    n < numLines ∧ (g.stateOf n).isPending = true ∧ g'.presented = n ∧
      g'.stateOf n = (g.stateOf n).acknowledged := by
  rcases arbitrate_cases q with ⟨held, _⟩ | ⟨_, _, ran⟩ | ⟨_, e, best, ran⟩
  · exact absurd free held
  · rw [ran] at done; cases done
  · rw [ran] at done
    cases done
    have listed := line_exists best.deliverable.choose_spec.1
    refine ⟨listed, best.pending, rfl, ?_⟩
    rw [present_stateOf g e listed, if_pos rfl]

-- Completion of a line that exists, one way or the other.
theorem complete_branch {l : Line} (held : g.presented ≠ spurious)
    (found : g.line? g.presented = some l) :
    g.completePresented =
      { (if l.state = .activePending then g.deactivate g.presented
          else g.withdraw g.presented) with presented := spurious } := by
  simp only [completePresented, if_neg held, found, Option.map_some]
  cases l.state <;> rfl

theorem complete_passes (q : g.Queued) (listed : n < numLines) :
    Passes n .complete (g.standing n) (g.completePresented.standing n) := by
  by_cases free : g.presented = spurious
  · have idle : g.presented ≠ n := by rw [free]; exact listed_real listed
    simp only [completePresented, if_pos free, standing_unserved rfl idle]
    exact .unserved
  obtain ⟨l, found⟩ := line_found g (q.presented.resolve_left free)
  have after : g.completePresented.standing n =
      ⟨(if l.state = .activePending then g.deactivate g.presented
          else g.withdraw g.presented).stateOf n, false⟩ := by
    rw [complete_branch free found]
    exact standing_unserved (stateOf_congr rfl) (listed_real listed)
  have again := stateOf_move g g.presented .deactivate listed
  have rest := stateOf_move g g.presented .withdraw listed
  rw [after]
  by_cases served : g.presented = n
  · rw [if_pos served] at again rest
    have state : g.stateOf n = l.state := by rw [← served, stateOf_line found]
    rw [standing_served state served]
    by_cases twice : l.state = .activePending
    · rw [if_pos twice, deactivate, again, state, twice]
      exact .requeued
    · rw [if_neg twice, withdraw, rest]
      exact .ended twice
  · rw [if_neg served] at again rest
    rw [standing_unserved rfl served]
    split
    · rw [deactivate, again]; exact .unserved
    · rw [withdraw, rest]; exact .unserved

theorem perform_passes (q : g.Queued) (listed : n < numLines) (done : g.perform op = .ok g') :
    Passes n op (g.standing n) (g'.standing n) := by
  cases op with
  | request r =>
      cases done
      have now : (g.apply r).standing n =
          ⟨r.effect n (g.standing n).state, (g.standing n).served⟩ := by
        simp only [standing, apply_stateOf g r listed, apply_presented]
      rw [now]
      exact .request r
  | arbitrate =>
      obtain ⟨⟨answer, middle⟩, ran, equal⟩ := Checked.bind_eq_ok.mp done
      cases equal
      exact arbitrate_passes q listed ran
  | complete => cases done; exact complete_passes q listed
  | take => cases done; exact .untouched

-- One step of a run that is known to go through.
theorem run_cons {rest : List Operation} (ran : g.run (op :: rest) = .ok g') :
    ∃ middle, g.perform op = .ok middle ∧ middle.run rest = .ok g' := Checked.bind_eq_ok.mp ran

theorem perform_keeps_queued (q : g.Queued) (done : g.perform op = .ok g') : g'.Queued := by
  obtain ⟨next, done', q'⟩ := perform_queued q op
  rw [done] at done'
  cases done'
  exact q'

-- What can end, or take over, the request of a served line.
def Operation.settles (n : Nat) : Operation → Bool
  | .complete => true
  | .arbitrate | .take => false
  | .request r =>
      match r with
      | .withdraw k | .clearPending k | .acknowledge k => k = n
      | .enableDistributor | .disableDistributor | .enable _ | .disable _ | .assert _
      | .deactivate _ | .setPriority .. | .setTarget .. | .setTrigger .. | .setLevel ..
      | .setHandler .. => false

-- A served line that waits goes on waiting, and of the operations that leave it its request only
-- a deactivation shows.
theorem Passes.waiting {s : State} {after : Standing} (passed : Passes n op ⟨s, true⟩ after)
    (due : s.isPending = true) (spared : op.settles n = false) :
    after = ⟨if op = .request (.deactivate n) then .pending else s, true⟩ := by
  cases passed with
  | untouched | unchosen => rfl
  | requeued | ended once => cases spared
  | request r =>
      by_cases mine : r.subject = some n
      · cases s <;> cases r <;>
          simp_all [Request.effect, Request.subject, Request.transition, State.isPending,
            State.asserted, State.completed, Operation.settles]
      · have other : r ≠ .deactivate n := fun equal => mine (by rw [equal]; rfl)
        simp [Request.effect, mine, other]

theorem run_waiting {s : State} {ops : List Operation} (q : g.Queued) (listed : n < numLines)
    (stands : g.standing n = ⟨s, true⟩) (due : s.isPending = true)
    (spared : ∀ op ∈ ops, op.settles n = false) (ran : g.run ops = .ok g') :
    g'.standing n =
      ⟨if .request (.deactivate n) ∈ ops then .pending else s, true⟩ := by
  induction ops generalizing g s with
  | nil => cases ran; simpa using stands
  | cons op rest ih =>
      obtain ⟨middle, done, ran⟩ := run_cons ran
      have passed := perform_passes q listed done
      rw [stands] at passed
      have next := passed.waiting due (spared op (List.mem_cons_self ..))
      have later := ih (perform_keeps_queued q done) next (by split <;> trivial)
        (fun op present => spared op (List.mem_cons_of_mem _ present)) ran
      rw [later]
      by_cases now : op = .request (.deactivate n) <;> simp [now, eq_comm]

-- Only what was asserted while it was active survives completion.
theorem Passes.completion {s : State} {after : Standing}
    (passed : Passes n .complete ⟨s, true⟩ after) :
    after = ⟨if s = .activePending then .pending else .inactive, false⟩ := by
  cases passed with
  | requeued => rfl
  | ended once => rw [if_neg once]

-- A line that ends by completion is announced to its listener.
theorem completion_told {h : Handler} (held : g.presented ≠ spurious) (up : g.Engaged g.presented)
    (once : g.stateOf g.presented ≠ .activePending)
    (heard : g.handlerOf g.presented = some h) :
    ⟨g.presented, h, .completed⟩ ∈ g.completePresented.notifications := by
  obtain ⟨l, found, busy⟩ := up
  rw [stateOf_line found] at once
  rw [complete_branch held found, if_neg once]
  exact withdraw_told ⟨l, found, busy⟩ heard

theorem engaged_stateOf (busy : g.stateOf n ≠ .inactive) : g.Engaged n := by
  cases found : g.line? n with
  | none => exact absurd (by simp [stateOf, found]) busy
  | some l => exact ⟨l, found, by rwa [stateOf_line found] at busy⟩

-- A served line that was asserted again is queued anew by completion exactly if it was active when
-- it was asserted and has not been deactivated since. Otherwise completion ends it, and says so.
theorem reassertion_kept_iff (reached : g.Reached) (served : g.presented = n)
    (real : n ≠ spurious) {later : List Operation}
    (spared : ∀ op ∈ later, op.settles n = false) :
    ∃ g', (g.apply (.assert n)).run later = .ok g' ∧ g'.presented = n ∧
      ((g.stateOf n).isActive = true ∧ .request (.deactivate n) ∉ later →
        g'.completePresented.stateOf n = .pending ∧
        g'.completePresented.pendingLines.count n = 1) ∧
      (¬ ((g.stateOf n).isActive = true ∧ .request (.deactivate n) ∉ later) →
        g'.completePresented.stateOf n = .inactive ∧ n ∉ g'.completePresented.pendingLines ∧
        ∀ h, g'.handlerOf n = some h →
          ⟨n, h, .completed⟩ ∈ g'.completePresented.notifications) := by
  have q := reached_queued (reached_apply reached (.assert n))
  have listed : n < numLines := by
    rw [← served] at real ⊢
    exact (reached_queued reached).presented.resolve_left real
  have stands : (g.apply (.assert n)).standing n = ⟨(g.stateOf n).asserted, true⟩ := by
    refine standing_served ?_ (by rw [apply_presented, served])
    rw [apply_stateOf g _ listed]
    exact if_pos rfl
  obtain ⟨g', ran, q'⟩ := run_queued q later
  have ends := run_waiting q listed stands (by cases g.stateOf n <;> rfl) spared ran
  have presented : g'.presented = n := of_decide_eq_true (congrArg Standing.served ends)
  have before : g'.stateOf n = if .request (.deactivate n) ∈ later then .pending
      else (g.stateOf n).asserted := congrArg Standing.state ends
  have passed := complete_passes q' listed
  rw [ends] at passed
  have after := congrArg Standing.state passed.completion
  have queued := pendingLines_count (completePresented_queued q') n
  change g'.completePresented.stateOf n = _ at after
  refine ⟨g', ran, presented, ?_, ?_⟩
  · rintro ⟨active, open_⟩
    have twice : (g.stateOf n).asserted = .activePending := by
      cases state : g.stateOf n <;> simp_all [State.isActive, State.asserted]
    rw [if_neg open_, twice, if_pos rfl] at after
    exact ⟨after, by rw [queued, after]; rfl⟩
  · intro lost
    have once : g'.stateOf n = .pending := by
      rw [before]
      cases state : g.stateOf n <;> simp_all [State.isActive, State.asserted]
    rw [← before, once, if_neg (by decide)] at after
    refine ⟨after, ?_, fun h heard => ?_⟩
    · rw [← List.count_eq_zero, queued, after]
      rfl
    · rw [← presented] at once heard ⊢
      exact completion_told (by rw [presented]; exact real)
        (engaged_stateOf (by rw [once]; decide)) (by rw [once]; decide) heard

theorem reassertion_kept_software :
    ∃ g g', initial.run [.request (.enable 5), .request (.assert 5), .arbitrate] = .ok g ∧
      g.presented = 5 ∧ (5 : Nat) ≠ spurious ∧ (g.stateOf 5).isActive = true ∧
      (∀ op ∈ [Operation.take, .arbitrate], op.settles 5 = false) ∧
      (g.apply (.assert 5)).run [.take, .arbitrate] = .ok g' ∧ g'.presented = 5 ∧
      g'.completePresented.stateOf 5 = .pending ∧
      g'.completePresented.pendingLines.count 5 = 1 := by
  have ran : (initial.run [.request (.enable 5), .request (.assert 5),
      .arbitrate]).toOption.any fun g => g.presented = 5 ∧ (g.stateOf 5).isActive = true := by
    rw [initial_listed]
    decide +kernel
  obtain ⟨g, ran, now⟩ := Checked.ok_of_any ran
  obtain ⟨served, active⟩ := of_decide_eq_true now
  have spared : ∀ op ∈ [Operation.take, .arbitrate], op.settles 5 = false := by decide
  obtain ⟨g', later, still, kept, _⟩ :=
    reassertion_kept_iff ⟨_, ran⟩ served (by decide) spared
  obtain ⟨pending, once⟩ := kept ⟨active, by decide⟩
  exact ⟨g, g', ran, served, by decide, active, spared, later, still, pending, once⟩

-- The guest deactivates the interrupt that it is serving, and only then it is asserted again:
-- completion drops the new request.
theorem reassertion_lost :
    ∃ g g', initial.run [.request (.enable 5), .request (.assert 5), .arbitrate] = .ok g ∧
      g.presented = 5 ∧ g.run [.request (.deactivate 5), .request (.assert 5)] = .ok g' ∧
      g'.presented = 5 ∧ g'.stateOf 5 = .pending ∧
      g'.completePresented.stateOf 5 = .inactive ∧ g'.completePresented.pendingLines = [] := by
  have ran : (initial.run [.request (.enable 5), .request (.assert 5),
      .arbitrate]).toOption.any fun g => g.presented = 5 ∧
        (g.run [.request (.deactivate 5), .request (.assert 5)]).toOption.any fun g' =>
          g'.presented = 5 ∧ g'.stateOf 5 = .pending ∧
          g'.completePresented.stateOf 5 = .inactive ∧
          g'.completePresented.pendingLines = [] := by
    rw [initial_listed]
    decide +kernel
  obtain ⟨g, ran, now⟩ := Checked.ok_of_any ran
  obtain ⟨served, again⟩ := of_decide_eq_true now
  obtain ⟨g', later, now⟩ := Checked.ok_of_any again
  exact ⟨g, g', ran, served, later, of_decide_eq_true now⟩

-- How often the guest can still be given a line before somebody has to assert it again. An active
-- line that was never given to the guest got there by a write of the guest, out of a request that
-- nobody has seen.
def Standing.credit : Standing → Nat
  | ⟨.inactive, _⟩ | ⟨.active, true⟩ => 0
  | ⟨.pending, _⟩ | ⟨.active, false⟩ | ⟨.activePending, true⟩ => 1
  | ⟨.activePending, false⟩ => 2

-- Line `n` is given to the guest.
def Given (n : Nat) (before after : Gic) : Prop := before.presented ≠ n ∧ after.presented = n

instance : Decidable (Given n g g') := by unfold Given; infer_instance

-- How often that happens in a run.
def given (n : Nat) (g : Gic) : List Operation → Nat
  | [] => 0
  | op :: rest =>
      match g.perform op with
      | .ok g' => (if Given n g g' then 1 else 0) + given n g' rest
      | .error _ => 0

-- Being given costs one unit, and only an assertion pays one in.
theorem Passes.credit {before after : Standing} (passed : Passes n op before after) :
    (if before.served = false ∧ after.served = true then 1 else 0) + after.credit ≤
      before.credit + if op = .request (.assert n) then 1 else 0 := by
  obtain ⟨s, served⟩ := before
  cases passed with
  | untouched | unchosen | unserved => simp
  | requeued | ended once => simp [Standing.credit]
  | chosen due => cases s <;> simp_all [Standing.credit, State.isPending, State.acknowledged]
  | request r =>
      by_cases mine : r.subject = some n
      · cases r <;> cases s <;> cases served <;>
          simp_all [Request.effect, Request.subject, Request.transition, Standing.credit,
            State.asserted, State.withdrawn, State.acknowledged, State.completed, State.cleared]
      · have idle : r.effect n s = s := if_neg mine
        simp [idle]

theorem run_credit {ops : List Operation} (q : g.Queued) (listed : n < numLines)
    (ran : g.run ops = .ok g') :
    given n g ops + (g'.standing n).credit ≤
      (g.standing n).credit + ops.count (.request (.assert n)) := by
  induction ops generalizing g with
  | nil => cases ran; simp [given]
  | cons op rest ih =>
      obtain ⟨middle, done, ran⟩ := run_cons ran
      have step := (perform_passes q listed done).credit
      have later := ih (perform_keeps_queued q done) ran
      have cost : (if (g.standing n).served = false ∧ (middle.standing n).served = true
          then 1 else 0) = if Given n g middle then 1 else 0 := by
        simp [standing, Given]
      rw [cost] at step
      simp only [given, done, List.count_cons, beq_iff_eq]
      omega

-- A line is active without being served only where somebody made it so by a write.
theorem Passes.active_served {before after : Standing} (passed : Passes n op before after)
    (other : op ≠ .request (.acknowledge n))
    (sound : before.state.isActive = true → before.served = true) :
    after.state.isActive = true → after.served = true := by
  cases passed with
  | untouched | unchosen | unserved => exact sound
  | requeued | ended once => intro active; cases active
  | chosen due => exact fun _ => rfl
  | @request before r =>
      by_cases mine : r.subject = some n
      · obtain ⟨s, served⟩ := before
        cases r <;> cases s <;>
          simp_all [Request.effect, Request.subject, Request.transition, State.isActive,
            State.asserted, State.withdrawn, State.completed, State.cleared]
      · simpa [Request.effect, mine] using sound

theorem run_active_served {ops : List Operation} (q : g.Queued) (listed : n < numLines)
    (ran : g.run ops = .ok g') (others : .request (.acknowledge n) ∉ ops)
    (sound : (g.standing n).state.isActive = true → (g.standing n).served = true) :
    (g'.standing n).state.isActive = true → (g'.standing n).served = true := by
  induction ops generalizing g with
  | nil => cases ran; exact sound
  | cons op rest ih =>
      obtain ⟨middle, done, ran⟩ := run_cons ran
      have other : op ≠ .request (.acknowledge n) := fun equal => others (by simp [equal])
      exact ih (perform_keeps_queued q done) ran
        (fun later => others (List.mem_cons_of_mem _ later))
        ((perform_passes q listed done).active_served other sound)

theorem initial_standing (listed : n < numLines) : initial.standing n = ⟨.inactive, false⟩ := by
  refine standing_unserved ?_ (listed_real listed)
  rw [stateOf_line (l := Line.initial n) (by rw [initial_line, if_pos listed])]
  rfl

-- What is presented was pending or pending behind an active bit that the guest wrote itself. The
-- first is used up. The second stays as it is; even so, the guest is never given a line more often
-- than the line was asserted.
theorem presentation_consumes {ops : List Operation} (ran : initial.run ops = .ok g)
    (free : g.presented = spurious) (chosen : g.arbitrate = .ok (some n, g')) :
    (.request (.acknowledge n) ∉ ops → g.stateOf n = .pending) ∧
    (g.stateOf n = .pending ∧ g'.stateOf n = .active ∧ n ∉ g'.pendingLines ∨
      g.stateOf n = .activePending ∧ g'.stateOf n = .activePending ∧
        g'.pendingLines.count n = 1) ∧
    given n initial (ops ++ [.arbitrate]) ≤ ops.count (.request (.assert n)) := by
  have q := reached_queued ⟨ops, ran⟩
  obtain ⟨listed, waits, _, now⟩ := arbitrate_chosen q free chosen
  have q' := reached_queued (reached_arbitrate ⟨ops, ran⟩ chosen)
  have listing := pendingLines_count q' n
  have stood := initial_standing listed
  refine ⟨fun others => ?_, ?_, ?_⟩
  · have sound := run_active_served initial_queued listed ran others
      (by rw [stood]; intro active; cases active)
    have idle : g.presented ≠ n := by rw [free]; exact listed_real listed
    rw [standing_unserved rfl idle] at sound
    cases state : g.stateOf n <;> simp_all [State.isPending, State.isActive]
  · cases state : g.stateOf n with
    | inactive | active => rw [state] at waits; cases waits
    | pending =>
        rw [state] at now
        refine .inl ⟨rfl, now, ?_⟩
        rw [← List.count_eq_zero, listing, now]
        rfl
    | activePending =>
        rw [state] at now
        exact .inr ⟨rfl, now, by rw [listing, now]; rfl⟩
  · have whole : initial.run (ops ++ [.arbitrate]) = .ok g' := by
      rw [run_append, ran]
      simp only [Except.bind, run, perform, chosen]
      rfl
    have spent := run_credit initial_queued listed whole
    rw [stood, List.count_append] at spent
    simp only [Standing.credit, List.count_singleton, beq_iff_eq, reduceCtorEq, if_false] at spent
    omega

-- The guest marks a line active that waits and was never presented; the line is asserted once more
-- and presented. One that stays pending behind its active bit is presented without being consumed.
theorem presentation_kept :
    ∃ g g', initial.run [.request (.enable 5), .request (.assert 5), .request (.acknowledge 5),
        .request (.assert 5)] = .ok g ∧
      g.presented = spurious ∧ g.arbitrate = .ok (some 5, g') ∧
      g'.stateOf 5 = .activePending ∧ g'.pendingLines = [5] := by
  have ran : (initial.run [.request (.enable 5), .request (.assert 5), .request (.acknowledge 5),
      .request (.assert 5)]).toOption.any fun g => g.presented = spurious ∧
        g.arbitrate.toOption.any fun (answer, g') => answer = some 5 ∧
          g'.stateOf 5 = .activePending ∧ g'.pendingLines = [5] := by
    rw [initial_listed]
    decide +kernel
  obtain ⟨g, ran, now⟩ := Checked.ok_of_any ran
  obtain ⟨free, now⟩ := of_decide_eq_true now
  obtain ⟨⟨_, g'⟩, chosen, now⟩ := Checked.ok_of_any now
  obtain ⟨rfl, stays⟩ := of_decide_eq_true now
  exact ⟨g, g', ran, free, chosen, stays⟩

theorem presentation_consumes_timer :
    ∃ g g', initial.run [.request (.enable timerLine), .request (.assert timerLine)] = .ok g ∧
      g.presented = spurious ∧ g.arbitrate = .ok (some timerLine, g') ∧
      g'.stateOf timerLine = .active ∧ timerLine ∉ g'.pendingLines ∧
      given timerLine initial [.request (.enable timerLine), .request (.assert timerLine),
        .arbitrate] ≤ 1 := by
  have ran : (initial.run [.request (.enable timerLine),
      .request (.assert timerLine)]).toOption.any fun g => g.presented = spurious ∧
        g.arbitrate.toOption.any fun (answer, _) => answer = some timerLine := by
    rw [initial_listed]
    decide +kernel
  obtain ⟨g, ran, now⟩ := Checked.ok_of_any ran
  obtain ⟨free, now⟩ := of_decide_eq_true now
  obtain ⟨⟨_, g'⟩, chosen, now⟩ := Checked.ok_of_any now
  cases of_decide_eq_true now
  obtain ⟨own, after, taken⟩ := presentation_consumes ran free chosen
  have pending := own (by decide)
  rcases after with ⟨_, active, gone⟩ | ⟨both, _⟩
  · exact ⟨g, g', ran, free, chosen, active, gone, taken⟩
  · rw [pending] at both
    cases both

end VmMonitor.Gic
