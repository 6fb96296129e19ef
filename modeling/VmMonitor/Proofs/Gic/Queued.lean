import VmMonitor.Gic.Controller
import VmMonitor.Proofs.Gic.PendingList

/-!
The state of a line and its place in the pending lists are two records of one fact. Here they agree
after every sequence of operations on the controller, whichever lines the operations name.
-/

namespace VmMonitor.Gic

-- Where each transition leads.

namespace State

def asserted : State → State
  | inactive | pending => pending
  | active | activePending => activePending

def withdrawn : State → State := fun _ => inactive

def acknowledged : State → State
  | pending => active
  | s => s

def completed : State → State
  | active => inactive
  | activePending => pending
  | s => s

def cleared : State → State
  | pending => inactive
  | activePending => active
  | s => s

end State

-- Queue membership follows the pending part of the state.
def ListOp.between (before after : State) : ListOp :=
  match before.isPending, after.isPending with
  | false, true => .insert
  | true, false => .remove
  | _, _ => .keep

namespace Move

def leads : Move → State → State
  | assert => .asserted
  | withdraw => .withdrawn
  | acknowledge => .acknowledged
  | deactivate => .completed
  | clearPending => .cleared

-- The list goes along with each state, and only what takes an interrupt back says that it is
-- complete.
theorem transition_eq (m : Move) (s : State) :
    m.transition s = ⟨m.leads s, .between s (m.leads s), m = .withdraw ∧ s ≠ .inactive⟩ := by
  cases m <;> cases s <;> rfl

end Move

variable {g g' : Gic} {n k : Nat}

-- The priority under which line `n` waits, if it waits.
def due (g : Gic) (n : Nat) : Option UInt8 :=
  (g.line? n).bind fun l => if l.state.isPending then some l.priority else none

def ownDue (g : Gic) (n : Nat) : Option UInt8 := if n < numPrivate then g.due n else none

def sharedDue (g : Gic) (n : Nat) : Option UInt8 := if n < numPrivate then none else g.due n

structure Queued (g : Gic) : Prop where
  own : g.privateList.Holds g.ownDue
  shared : g.sharedList.Holds g.sharedDue
  presented : g.presented = spurious ∨ g.presented < numLines

section Frame

variable (g : Gic) (n k : Nat) (l : Line) (f : PendingList → PendingList)

@[simp] theorem setLine_privateList : (g.setLine n l).privateList = g.privateList := rfl
@[simp] theorem setLine_sharedList : (g.setLine n l).sharedList = g.sharedList := rfl
@[simp] theorem setLine_presented : (g.setLine n l).presented = g.presented := rfl
@[simp] theorem setLine_enabled : (g.setLine n l).enabled = g.enabled := rfl
@[simp] theorem setLine_notifications : (g.setLine n l).notifications = g.notifications := rfl

@[simp] theorem adjustList_presented : (g.adjustList n f).presented = g.presented := by
  unfold adjustList; split <;> rfl
@[simp] theorem adjustList_enabled : (g.adjustList n f).enabled = g.enabled := by
  unfold adjustList; split <;> rfl
@[simp] theorem adjustList_notifications :
    (g.adjustList n f).notifications = g.notifications := by
  unfold adjustList; split <;> rfl
@[simp] theorem adjustList_line : (g.adjustList n f).line? k = g.line? k := by
  unfold adjustList; split <;> rfl

variable (p : UInt8) (o : ListOp)

@[simp] theorem requeue_presented : (g.requeue n p o).presented = g.presented := by
  cases o <;> simp [requeue]
@[simp] theorem requeue_enabled : (g.requeue n p o).enabled = g.enabled := by
  cases o <;> simp [requeue]
@[simp] theorem requeue_notifications :
    (g.requeue n p o).notifications = g.notifications := by
  cases o <;> simp [requeue]
@[simp] theorem requeue_line : (g.requeue n p o).line? k = g.line? k := by
  cases o <;> simp [requeue]

variable (h : Option Handler) (kind : NotificationKind)

@[simp] theorem notify_privateList : (g.notify n h kind).privateList = g.privateList := by
  cases h <;> rfl
@[simp] theorem notify_sharedList : (g.notify n h kind).sharedList = g.sharedList := by
  cases h <;> rfl
@[simp] theorem notify_presented : (g.notify n h kind).presented = g.presented := by
  cases h <;> rfl
@[simp] theorem notify_enabled : (g.notify n h kind).enabled = g.enabled := by
  cases h <;> rfl
@[simp] theorem notify_line : (g.notify n h kind).line? k = g.line? k := by
  cases h <;> rfl
theorem notify_notifications : g.notifications ⊆ (g.notify n h kind).notifications := by
  cases h with
  | none => exact List.Subset.refl _
  | some h => exact List.subset_append_left ..

end Frame

theorem line_exists {l : Line} (found : g.line? n = some l) : n < numLines := by
  by_contra past
  have none : g.line? n = none := Vector.getElem?_eq_none (by omega)
  rw [none] at found
  cases found

theorem setLine_line_self {l old : Line} (found : g.line? n = some old) :
    (g.setLine n l).line? n = some l :=
  Vector.getElem?_setIfInBounds_self_of_lt (line_exists found)

theorem setLine_line_other (l : Line) (other : k ≠ n) :
    (g.setLine n l).line? k = g.line? k :=
  Vector.getElem?_setIfInBounds_ne (Ne.symm other)

-- What the two ways of changing one line do to the lines.

theorem adjust_line (g : Gic) (n k : Nat) (f : Line → Line) :
    (g.adjust n f).line? k = if k = n then (g.line? n).map f else g.line? k := by
  unfold adjust
  by_cases equal : k = n
  · subst k
    rw [if_pos rfl]
    cases found : g.line? n with
    | none => exact found
    | some l => exact setLine_line_self found
  · rw [if_neg equal]
    cases g.line? n with
    | none => rfl
    | some l => exact setLine_line_other _ equal

theorem move_missing (m : Move) (missing : g.line? n = none) : g.move n m = g := by
  unfold move
  rw [missing]

theorem move_found {l : Line} (m : Move) (found : g.line? n = some l) :
    g.move n m = ((g.setLine n { l with state := m.leads l.state }).requeue n l.priority
      (.between l.state (m.leads l.state))).notify n
        (if m = .withdraw ∧ l.state ≠ .inactive then l.handler else none) .completed := by
  unfold move
  rw [found]
  simp only [Move.transition_eq, decide_eq_true_eq]
  split <;> rfl

theorem move_line (g : Gic) (n k : Nat) (m : Move) :
    (g.move n m).line? k =
      if k = n then (g.line? n).map fun l => { l with state := m.leads l.state } else g.line? k := by
  cases found : g.line? n with
  | none =>
      rw [move_missing m found]
      split
      · subst k
        exact found
      · rfl
  | some l =>
      rw [move_found m found, notify_line, requeue_line]
      split
      · subst k
        exact setLine_line_self found
      · rename_i other
        exact setLine_line_other _ other

section Frame

variable (g : Gic) (n : Nat) (f : Line → Line) (m : Move)

@[simp] theorem adjust_presented : (g.adjust n f).presented = g.presented := by
  unfold adjust; split <;> rfl
@[simp] theorem adjust_notifications : (g.adjust n f).notifications = g.notifications := by
  unfold adjust; split <;> rfl
@[simp] theorem move_presented : (g.move n m).presented = g.presented := by
  cases found : g.line? n with
  | none => rw [move_missing m found]
  | some l => simp [move_found m found]
@[simp] theorem move_enabled : (g.move n m).enabled = g.enabled := by
  cases found : g.line? n with
  | none => rw [move_missing m found]
  | some l => simp [move_found m found]

end Frame

theorem move_notifications (g : Gic) (n : Nat) {m : Move} (quiet : m ≠ .withdraw) :
    (g.move n m).notifications = g.notifications := by
  cases found : g.line? n with
  | none => rw [move_missing m found]
  | some l =>
      rw [move_found m found, if_neg fun told => quiet told.1]
      exact requeue_notifications ..

theorem due_of_line {l : Line} (found : g.line? n = some l) :
    g.due n = if l.state.isPending then some l.priority else none := by
  simp [due, found]

@[simp] theorem adjustList_due (g : Gic) (n k : Nat) (f : PendingList → PendingList) :
    (g.adjustList n f).due k = g.due k := by simp [due]

@[simp] theorem notify_due (g : Gic) (n k : Nat) (h : Option Handler) (kind : NotificationKind) :
    (g.notify n h kind).due k = g.due k := by simp [due]

theorem due_congr (same : g'.line? n = g.line? n) : g'.due n = g.due n := by
  simp [due, same]

-- One line changes its state or priority, and the list that the line belongs to goes along.
theorem Queued.relist {f : PendingList → PendingList} (old : g.Queued)
    (own : g'.privateList = (g.adjustList n f).privateList)
    (shared : g'.sharedList = (g.adjustList n f).sharedList)
    (presented : g'.presented = g.presented)
    (rest : ∀ k, k ≠ n → g'.due k = g.due k)
    (moved : ∀ (q : PendingList) (due due' : Nat → Option UInt8), q.Holds due →
      due n = g.due n → due' n = g'.due n → (∀ k, k ≠ n → due' k = due k) →
      (f q).Holds due') : g'.Queued := by
  by_cases mine : n < numPrivate
  · simp only [adjustList, mine, if_true] at own shared
    refine ⟨?_, ?_, by rw [presented]; exact old.presented⟩
    · rw [own]
      refine moved _ _ _ old.own (by simp [ownDue, mine]) (by simp [ownDue, mine]) ?_
      intro k other
      simp only [ownDue, rest k other]
    · rw [shared]
      refine old.shared.congr fun k => ?_
      by_cases equal : k = n
      · simp [sharedDue, equal, mine]
      · simp only [sharedDue, rest k equal]
  · simp only [adjustList, mine, if_false] at own shared
    refine ⟨?_, ?_, by rw [presented]; exact old.presented⟩
    · rw [own]
      refine old.own.congr fun k => ?_
      by_cases equal : k = n
      · simp [ownDue, equal, mine]
      · simp only [ownDue, rest k equal]
    · rw [shared]
      refine moved _ _ _ old.shared (by simp [sharedDue, mine]) (by simp [sharedDue, mine]) ?_
      intro k other
      simp only [sharedDue, rest k other]

-- Nothing that a pending list records has changed.
theorem Queued.unlisted (old : g.Queued) (own : g'.privateList = g.privateList)
    (shared : g'.sharedList = g.sharedList) (presented : g'.presented = g.presented)
    (same : ∀ k, g'.due k = g.due k) : g'.Queued where
  own := by rw [own]; exact old.own.congr fun k => by simp only [ownDue, same]
  shared := by rw [shared]; exact old.shared.congr fun k => by simp only [sharedDue, same]
  presented := by rw [presented]; exact old.presented

-- The same with the line and the list written out: the line is replaced, then its list is changed.
theorem Queued.replace {f : PendingList → PendingList} {l : Line} (old : g.Queued)
    (moved : ∀ (q : PendingList) (due due' : Nat → Option UInt8), q.Holds due →
      due n = g.due n → due' n = (g.setLine n l).due n → (∀ k, k ≠ n → due' k = due k) →
      (f q).Holds due') : ((g.setLine n l).adjustList n f).Queued := by
  refine old.relist (n := n) (f := f) ?_ ?_ (by simp) ?_ (by simpa using moved)
  · unfold adjustList; split <;> rfl
  · unfold adjustList; split <;> rfl
  · intro k other
    simpa using due_congr (setLine_line_other l other)

theorem adjust_queued {f : Line → Line} (old : g.Queued)
    (keeps : ∀ l, (f l).state = l.state ∧ (f l).priority = l.priority) :
    (g.adjust n f).Queued := by
  unfold adjust
  cases found : g.line? n with
  | none => exact old
  | some l =>
      refine old.unlisted rfl rfl rfl fun k => ?_
      by_cases equal : k = n
      · subst k
        rw [due_of_line found, due_of_line (setLine_line_self found), (keeps l).1, (keeps l).2]
      · exact due_congr (setLine_line_other _ equal)

theorem notify_queued {h : Option Handler} {kind : NotificationKind} (old : g.Queued) :
    (g.notify n h kind).Queued :=
  old.unlisted (by simp) (by simp) (by simp) (by simp)

theorem move_queued (m : Move) (old : g.Queued) : (g.move n m).Queued := by
  cases found : g.line? n with
  | none => rwa [move_missing m found]
  | some l =>
      have was := due_of_line found
      have now := due_of_line (setLine_line_self (l := { l with state := m.leads l.state }) found)
      rw [move_found m found]
      refine notify_queued ?_
      unfold requeue ListOp.between
      dsimp only at now
      cases before : l.state.isPending <;> cases after : (m.leads l.state).isPending <;>
        simp only [before, after, if_true, Bool.false_eq_true, if_false] at was now ⊢
      case false.true =>
        refine old.replace fun q due due' held absent present rest => ?_
        exact held.insert (absent.trans was) (present.trans now) rest
      case true.false =>
        refine old.replace fun q due due' held _ gone rest => ?_
        exact held.remove (gone.trans now) rest
      all_goals
        refine old.unlisted rfl rfl rfl fun k => ?_
        by_cases equal : k = n
        · subst k; exact now.trans was.symm
        · exact due_congr (setLine_line_other _ equal)

theorem setPriority_queued (p : UInt8) (old : g.Queued) : (g.setPriority n p).Queued := by
  unfold setPriority
  cases found : g.line? n with
  | none => exact old
  | some l =>
      have was := due_of_line found
      have now := due_of_line (setLine_line_self (l := { l with priority := p }) found)
      dsimp only at now ⊢
      cases waits : l.state.isPending with
      | false =>
          simp only [waits, Bool.false_eq_true, if_false] at was now ⊢
          refine old.unlisted rfl rfl rfl fun k => ?_
          by_cases equal : k = n
          · subst k; rw [was, now]
          · exact due_congr (setLine_line_other _ equal)
      | true =>
          simp only [waits, if_true] at now ⊢
          refine old.replace fun q due due' held _ present rest => ?_
          have out : (q.remove n).Holds fun k => if k = n then none else due k :=
            held.remove (if_pos rfl) fun k other => if_neg other
          refine out.insert (if_pos rfl) (present.trans now) fun k other => ?_
          rw [rest k other, if_neg other]

theorem setLevel_queued (level : Bool) (old : g.Queued) : (g.setLevel n level).Queued := by
  unfold setLevel
  cases found : g.line? n with
  | none => exact old
  | some l =>
      refine notify_queued (old.unlisted rfl rfl rfl fun k => ?_)
      by_cases equal : k = n
      · subst k; rw [due_of_line found, due_of_line (setLine_line_self found)]
      · exact due_congr (setLine_line_other _ equal)

theorem apply_queued (r : Request) (old : g.Queued) : (g.apply r).Queued := by
  cases r with
  | enableDistributor => exact old.unlisted rfl rfl rfl fun _ => rfl
  | disableDistributor => exact old.unlisted rfl rfl rfl fun _ => rfl
  | enable n => exact adjust_queued old fun _ => ⟨rfl, rfl⟩
  | disable n => exact adjust_queued old fun _ => ⟨rfl, rfl⟩
  | assert n => exact move_queued _ old
  | withdraw n => exact move_queued _ old
  | acknowledge n => exact move_queued _ old
  | deactivate n => exact move_queued _ old
  | clearPending n => exact move_queued _ old
  | setPriority n p => exact setPriority_queued p old
  | setTarget n target =>
      change (g.setTarget n target).Queued
      unfold setTarget
      split
      · exact old
      · exact adjust_queued old fun _ => ⟨rfl, rfl⟩
  | setTrigger n trigger => exact adjust_queued old fun _ => ⟨rfl, rfl⟩
  | setLevel n level => exact setLevel_queued level old
  | setHandler n handler => exact adjust_queued old fun _ => ⟨rfl, rfl⟩

theorem foldl_queued (rs : List Request) (old : g.Queued) : (rs.foldl apply g).Queued := by
  induction rs generalizing g with
  | nil => exact old
  | cons r rest ih => exact ih (apply_queued r old)

theorem initial_line (n : Nat) :
    initial.line? n = if n < numLines then some (Line.initial n) else none := by
  unfold line? initial
  rw [Vector.getElem?_ofFn]
  split <;> rfl

-- The lines one after the other. A run from this form takes the checker far fewer steps.
def listed : Vector Line numLines := ⟨⟨(List.range numLines).map Line.initial⟩, by simp⟩

theorem initial_listed : initial = ⟨false, listed, .empty, .empty, spurious, []⟩ := by
  have same : (Vector.ofFn fun i : Fin numLines => Line.initial i.val) = listed := by
    ext i inside
    simp [listed]
  unfold initial
  rw [same]

theorem initial_queued : initial.Queued := by
  have nothing : ∀ k, initial.due k = none := by
    intro k
    unfold due
    rw [initial_line]
    split <;> rfl
  refine ⟨PendingList.empty_holds ?_, PendingList.empty_holds ?_, .inl rfl⟩
  · intro k; simp [ownDue, nothing]
  · intro k; simp [sharedDue, nothing]

end VmMonitor.Gic
