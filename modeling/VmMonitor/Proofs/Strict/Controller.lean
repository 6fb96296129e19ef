import VmMonitor.Board
import VmMonitor.Proofs.Strict.Words

/-!
Requests to the interrupt controller with every operation checked. The shared lines are found by
their distance from the private ones, and a queue puts its entries in and takes them out by
position. No request leaves the lines or the queues.
-/

namespace VmMonitor

open Checked

namespace Gic

namespace PendingList

def strictInsert (l : PendingList) (priority : UInt8) (number : Nat) : Checked PendingList := do
  let position := l.entries.findIdx fun e => priority < e.priority
  return ⟨← insertAt l.entries position ⟨priority, number⟩⟩

def strictTake (l : PendingList) (number : Nat) : Checked (Bool × PendingList) :=
  match l.entries.findIdx? fun e => e.number = number with
  | some position => do return (true, ⟨← removeAt l.entries position⟩)
  | none => .ok (false, l)

def strictRemove (l : PendingList) (number : Nat) : Checked PendingList := do
  return (← l.strictTake number).2

-- The first place that asks for the new entry ends those it has to stand behind.
theorem insertIdx_first (entries : List Entry) (priority : UInt8) (e : Entry) :
    entries.insertIdx (entries.findIdx fun f => priority < f.priority) e =
      entries.takeWhile (fun f => f.priority ≤ priority) ++
        e :: entries.dropWhile (fun f => f.priority ≤ priority) := by
  induction entries with
  | nil => rfl
  | cons f rest ih =>
      rw [List.findIdx_cons]
      by_cases behind : f.priority ≤ priority
      · have later : ¬ priority < f.priority := fun ahead =>
          absurd (UInt8.le_iff_toNat_le.mp behind) (Nat.not_le.mpr (UInt8.lt_iff_toNat_lt.mp ahead))
        simp only [behind, later, decide_false, cond_false, decide_true, List.insertIdx_succ_cons,
          List.takeWhile_cons, List.dropWhile_cons, if_true, List.cons_append, ih]
      · have ahead : priority < f.priority := UInt8.lt_iff_toNat_lt.mpr
          (Nat.not_le.mp fun le => behind (UInt8.le_iff_toNat_le.mpr le))
        simp [behind, ahead]

theorem strictInsert_ok (l : PendingList) (priority : UInt8) (number : Nat) :
    l.strictInsert priority number = .ok (l.insert priority number) := by
  unfold strictInsert insert
  rw [bind_ok (insertAt_ok List.findIdx_le_length), insertIdx_first]
  rfl

theorem strictTake_ok (l : PendingList) (number : Nat) :
    l.strictTake number = .ok (l.take number) := by
  unfold strictTake take
  cases found : l.entries.findIdx? fun e => decide (e.number = number) with
  | none => rfl
  | some position =>
      obtain ⟨inside, _⟩ := List.findIdx?_eq_some_iff_getElem.mp found
      dsimp only
      rw [bind_ok (removeAt_ok inside)]
      rfl

theorem strictRemove_ok (l : PendingList) (number : Nat) :
    l.strictRemove number = .ok (l.remove number) := by
  unfold strictRemove
  rw [bind_ok (l.strictTake_ok number)]
  rfl

end PendingList

def strictLine? (g : Gic) (n : Nat) : Checked (Option Line) :=
  if n < numPrivate then .ok (g.line? n)
  else do return g.line? (numPrivate + (← subNat n numPrivate))

def strictAdjust (g : Gic) (n : Nat) (f : Line → Line) : Checked Gic := do
  match ← g.strictLine? n with
  | some l => return g.setLine n (f l)
  | none => return g

def strictAdjustList (g : Gic) (n : Nat) (f : PendingList → Checked PendingList) :
    Checked Gic :=
  if n < numPrivate then do return { g with privateList := ← f g.privateList }
  else do return { g with sharedList := ← f g.sharedList }

def strictRequeue (g : Gic) (n : Nat) (priority : UInt8) : ListOp → Checked Gic
  | .keep => .ok g
  | .insert => g.strictAdjustList n (·.strictInsert priority n)
  | .remove => g.strictAdjustList n (·.strictRemove n)

def strictMove (g : Gic) (n : Nat) (m : Move) : Checked Gic := do
  match ← g.strictLine? n with
  | none => return g
  | some l =>
      let t := m.transition l.state
      let g ← (g.setLine n { l with state := t.next }).strictRequeue n l.priority t.list
      return if t.completes then g.notify n l.handler .completed else g

def strictSetPriority (g : Gic) (n : Nat) (priority : UInt8) : Checked Gic := do
  match ← g.strictLine? n with
  | none => return g
  | some l =>
      let g := g.setLine n { l with priority := priority }
      if l.state.isPending then
        g.strictAdjustList n fun q => do (← q.strictRemove n).strictInsert priority n
      else return g

def strictSetLevel (g : Gic) (n : Nat) (level : Bool) : Checked Gic := do
  match ← g.strictLine? n with
  | none => return g
  | some l =>
      return (g.setLine n { l with level := level }).notify n l.handler (.levelChanged level)

def strictApply (g : Gic) : Request → Checked Gic
  | .enableDistributor => .ok { g with enabled := true }
  | .disableDistributor => .ok { g with enabled := false }
  | .enable n => g.strictAdjust n fun l => { l with enabled := true }
  | .disable n => g.strictAdjust n fun l => { l with enabled := false }
  | .assert n => g.strictMove n .assert
  | .withdraw n => g.strictMove n .withdraw
  | .acknowledge n => g.strictMove n .acknowledge
  | .deactivate n => g.strictMove n .deactivate
  | .clearPending n => g.strictMove n .clearPending
  | .setPriority n priority => g.strictSetPriority n priority
  | .setTarget n target =>
      if n < numPrivate then .ok g else g.strictAdjust n fun l => { l with target := target }
  | .setTrigger n trigger => g.strictAdjust n fun l => { l with trigger := trigger }
  | .setLevel n level => g.strictSetLevel n level
  | .setHandler n handler => g.strictAdjust n fun l => { l with handler := some handler }

variable (g : Gic) (n : Nat)

theorem strictLine_ok : g.strictLine? n = .ok (g.line? n) := by
  unfold strictLine?
  split
  · rfl
  · rename_i shared
    have le : numPrivate ≤ n := Nat.not_lt.mp shared
    rw [bind_ok (subNat_ok le), Nat.add_sub_cancel' le]
    rfl

theorem strictAdjust_ok (f : Line → Line) : g.strictAdjust n f = .ok (g.adjust n f) := by
  unfold strictAdjust adjust
  rw [bind_ok (g.strictLine_ok n)]
  cases g.line? n <;> rfl

theorem strictAdjustList_ok {f : PendingList → Checked PendingList}
    {plain : PendingList → PendingList} (same : ∀ l, f l = .ok (plain l)) :
    g.strictAdjustList n f = .ok (g.adjustList n plain) := by
  unfold strictAdjustList adjustList
  split <;> rw [bind_ok (same _)] <;> rfl

theorem strictRequeue_ok (priority : UInt8) (o : ListOp) :
    g.strictRequeue n priority o = .ok (g.requeue n priority o) := by
  cases o with
  | keep => rfl
  | insert => exact g.strictAdjustList_ok n fun l => l.strictInsert_ok priority n
  | remove => exact g.strictAdjustList_ok n fun l => l.strictRemove_ok n

theorem strictMove_ok (m : Move) : g.strictMove n m = .ok (g.move n m) := by
  unfold strictMove move
  rw [bind_ok (g.strictLine_ok n)]
  cases g.line? n with
  | none => rfl
  | some l =>
      dsimp only
      rw [bind_ok (strictRequeue_ok ..)]
      rfl

theorem strictSetPriority_ok (priority : UInt8) :
    g.strictSetPriority n priority = .ok (g.setPriority n priority) := by
  unfold strictSetPriority setPriority
  rw [bind_ok (g.strictLine_ok n)]
  cases g.line? n with
  | none => rfl
  | some l =>
      dsimp only
      split
      · refine strictAdjustList_ok _ n fun q => ?_
        rw [bind_ok (q.strictRemove_ok n)]
        exact (q.remove n).strictInsert_ok priority n
      · rfl

theorem strictSetLevel_ok (level : Bool) :
    g.strictSetLevel n level = .ok (g.setLevel n level) := by
  unfold strictSetLevel setLevel
  rw [bind_ok (g.strictLine_ok n)]
  cases g.line? n <;> rfl

theorem strictApply_ok (r : Request) : g.strictApply r = .ok (g.apply r) := by
  cases r with
  | enableDistributor | disableDistributor => rfl
  | enable n | disable n | setTrigger n _ | setHandler n _ => exact g.strictAdjust_ok n _
  | assert n | withdraw n | acknowledge n | deactivate n | clearPending n =>
      exact g.strictMove_ok n _
  | setPriority n priority => exact g.strictSetPriority_ok n priority
  | setLevel n level => exact g.strictSetLevel_ok n level
  | setTarget n target =>
      unfold strictApply apply setTarget
      dsimp only
      split
      · rfl
      · exact g.strictAdjust_ok n _

end Gic

namespace Board

def strictRequest (b : Board) (r : Gic.Request) : Checked Board := do
  return ({ b with gic := ← b.gic.strictApply r }).logAll r.complaints

theorem strictRequest_ok (b : Board) (r : Gic.Request) :
    b.strictRequest r = .ok (b.request r) := by
  unfold strictRequest request
  rw [bind_ok (b.gic.strictApply_ok r)]
  rfl

end Board

end VmMonitor
