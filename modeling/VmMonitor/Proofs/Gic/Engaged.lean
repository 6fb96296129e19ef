import VmMonitor.Proofs.Gic.Queued

/-!
A line that is engaged waits, is being served, or both. What can put such a line to rest is a short
list of requests and the completion of the presented interrupt, and the completion is never silent:
the listener of the line is told.
-/

namespace VmMonitor.Gic

variable {g : Gic} {n k : Nat}

def Engaged (g : Gic) (n : Nat) : Prop := ∃ l, g.line? n = some l ∧ l.state ≠ .inactive

-- The listener of a line that exists, if it has one.
def handlerOf (g : Gic) (n : Nat) : Option Handler := (g.line? n).bind (·.handler)

-- Requests that tell no listener anything and give no line another listener.
def Request.silent : Request → Bool
  | .withdraw _ | .setLevel .. | .setHandler .. => false
  | .enableDistributor | .disableDistributor | .enable _ | .disable _ | .assert _
  | .acknowledge _ | .deactivate _ | .clearPending _ | .setPriority .. | .setTarget ..
  | .setTrigger .. => true

-- Requests that can put line `n` to rest.
def Request.drops (n : Nat) : Request → Bool
  | .withdraw k | .deactivate k | .clearPending k => k = n
  | .enableDistributor | .disableDistributor | .enable _ | .disable _ | .assert _
  | .acknowledge _ | .setPriority .. | .setTarget .. | .setTrigger .. | .setLevel ..
  | .setHandler .. => false

-- A new priority changes no other part of the line.
theorem setPriority_line (g : Gic) (n k : Nat) (p : UInt8) :
    (g.setPriority n p).line? k =
      if k = n then (g.line? n).map fun l => { l with priority := p } else g.line? k := by
  have replaced : (g.setPriority n p).line? k =
      (g.adjust n fun l => { l with priority := p }).line? k := by
    unfold setPriority adjust
    cases g.line? n with
    | none => rfl
    | some l =>
        dsimp only
        split
        · exact adjustList_line ..
        · rfl
  rw [replaced, adjust_line]

theorem setPriority_notifications (g : Gic) (n : Nat) (p : UInt8) :
    (g.setPriority n p).notifications = g.notifications := by
  unfold setPriority
  cases g.line? n with
  | none => rfl
  | some l =>
      dsimp only
      split
      · exact adjustList_notifications ..
      · rfl

theorem apply_notifications {r : Request} (silent : r.silent = true) :
    (g.apply r).notifications = g.notifications := by
  cases r with
  | enableDistributor | disableDistributor => rfl
  | enable n | disable n | setTrigger n trigger => exact adjust_notifications ..
  | assert n | acknowledge n | deactivate n | clearPending n =>
      exact move_notifications g n (by decide)
  | setPriority n p => exact setPriority_notifications ..
  | setTarget n target =>
      change (g.setTarget n target).notifications = _
      unfold setTarget
      split
      · rfl
      · exact adjust_notifications ..
  | withdraw n | setLevel n level | setHandler n handler => cases silent

-- What may happen to a line that a silent request touches.
structure Gentle (spared : Bool) (f : Line → Line) : Prop where
  handler : ∀ l, (f l).handler = l.handler
  engaged : spared = true → ∀ l, l.state ≠ .inactive → (f l).state ≠ .inactive

theorem gentle_id (spared : Bool) : Gentle spared id := ⟨fun _ => rfl, fun _ _ h => h⟩

theorem gentle_at {g' : Gic} {f : Line → Line} {spared : Bool}
    (changed : g'.line? k = if k = n then (g.line? n).map f else g.line? k)
    (gentle : k = n → Gentle spared f) :
    ∃ f', g'.line? k = (g.line? k).map f' ∧ Gentle spared f' := by
  by_cases equal : k = n
  · subst k
    rw [if_pos rfl] at changed
    exact ⟨f, changed, gentle rfl⟩
  · rw [if_neg equal] at changed
    exact ⟨id, by rw [changed, Option.map_id_fun, id], gentle_id spared⟩

-- The effect of any silent request on any line.
theorem apply_line (g : Gic) (k : Nat) {r : Request} (silent : r.silent = true) :
    ∃ f, (g.apply r).line? k = (g.line? k).map f ∧ Gentle (!r.drops k) f := by
  cases r with
  | enableDistributor | disableDistributor =>
      exact ⟨id, by rw [Option.map_id_fun]; rfl, gentle_id _⟩
  | enable n | disable n | setTrigger n trigger =>
      exact gentle_at (adjust_line g n k _) fun _ => ⟨fun _ => rfl, fun _ _ h => h⟩
  | assert n =>
      refine gentle_at (move_line g n k .assert) fun _ => ⟨fun _ => rfl, fun _ l _ => ?_⟩
      cases l.state <;> simp [Move.leads, State.asserted]
  | acknowledge n =>
      refine gentle_at (move_line g n k .acknowledge) fun _ => ⟨fun _ => rfl, fun _ l up => ?_⟩
      cases now : l.state <;> simp_all [Move.leads, State.acknowledged]
  | deactivate n =>
      refine gentle_at (move_line g n k .deactivate) fun equal => ⟨fun _ => rfl, ?_⟩
      simp [Request.drops, equal]
  | clearPending n =>
      refine gentle_at (move_line g n k .clearPending) fun equal => ⟨fun _ => rfl, ?_⟩
      simp [Request.drops, equal]
  | setPriority n p =>
      exact gentle_at (setPriority_line g n k p) fun _ => ⟨fun _ => rfl, fun _ _ h => h⟩
  | setTarget n target =>
      change ∃ f, (g.setTarget n target).line? k = _ ∧ _
      unfold setTarget
      split
      · exact ⟨id, by rw [Option.map_id_fun]; rfl, gentle_id _⟩
      · exact gentle_at (adjust_line g n k _) fun _ => ⟨fun _ => rfl, fun _ _ h => h⟩
  | withdraw n | setLevel n level | setHandler n handler => cases silent

theorem apply_handlerOf {r : Request} (silent : r.silent = true) (k : Nat) :
    (g.apply r).handlerOf k = g.handlerOf k := by
  obtain ⟨f, changed, gentle⟩ := apply_line g k silent
  unfold handlerOf
  rw [changed]
  cases g.line? k with
  | none => rfl
  | some l => exact gentle.handler l

theorem apply_engaged {r : Request} (silent : r.silent = true) (spared : r.drops k = false)
    (up : g.Engaged k) : (g.apply r).Engaged k := by
  obtain ⟨f, changed, gentle⟩ := apply_line g k silent
  obtain ⟨l, found, busy⟩ := up
  exact ⟨f l, by rw [changed, found]; rfl, gentle.engaged (by rw [spared]; rfl) l busy⟩

theorem assert_engaged {l : Line} (found : g.line? n = some l) : (g.apply (.assert n)).Engaged n := by
  refine ⟨{ l with state := l.state.asserted }, ?_, ?_⟩
  · change (g.move n .assert).line? n = _
    rw [move_line, if_pos rfl, found]
    rfl
  · dsimp only
    cases l.state <;> simp [State.asserted]

theorem heard_exists {h : Handler} (heard : g.handlerOf n = some h) :
    ∃ l, g.line? n = some l ∧ l.handler = some h := Option.bind_eq_some_iff.mp heard

-- Giving a line a listener gives no other line one.
theorem setHandler_notifications (g : Gic) (n : Nat) (h : Handler) :
    (g.apply (.setHandler n h)).notifications = g.notifications := adjust_notifications ..

theorem setHandler_handlerOf_self (h : Handler) (listed : n < numLines) :
    (g.apply (.setHandler n h)).handlerOf n = some h := by
  have changed := adjust_line g n n fun l => { l with handler := some h }
  rw [if_pos rfl, show g.line? n = some g.lines[n] from Vector.getElem?_eq_getElem listed]
    at changed
  unfold handlerOf
  change ((g.adjust n _).line? n).bind _ = _
  rw [changed]
  rfl

theorem setHandler_handlerOf_other (h : Handler) (other : k ≠ n) :
    (g.apply (.setHandler n h)).handlerOf k = g.handlerOf k := by
  unfold handlerOf
  change ((g.adjust n _).line? k).bind _ = _
  rw [adjust_line, if_neg other]

-- No transition changes a listener or takes back what was told, and a withdrawal tells the listener
-- if there was anything to end.
theorem move_handlerOf (g : Gic) (n k : Nat) (m : Move) :
    (g.move n m).handlerOf k = g.handlerOf k := by
  unfold handlerOf
  rw [move_line]
  split
  · subst k
    cases g.line? n <;> rfl
  · rfl

theorem move_told (g : Gic) (n : Nat) (m : Move) :
    g.notifications ⊆ (g.move n m).notifications := by
  cases found : g.line? n with
  | none =>
      rw [move_missing _ found]
      exact List.Subset.refl _
  | some l =>
      rw [move_found _ found]
      refine List.Subset.trans ?_ (notify_notifications ..)
      rw [requeue_notifications, setLine_notifications]
      exact List.Subset.refl _

theorem withdraw_told {h : Handler} (up : g.Engaged n) (heard : g.handlerOf n = some h) :
    ⟨n, h, .completed⟩ ∈ (g.withdraw n).notifications := by
  obtain ⟨l, found, busy⟩ := up
  have listener : l.handler = some h := by simpa [handlerOf, found] using heard
  unfold withdraw
  rw [move_found _ found, if_pos ⟨rfl, busy⟩, listener]
  simp [notify]

theorem complete_handlerOf (g : Gic) (k : Nat) :
    g.completePresented.handlerOf k = g.handlerOf k := by
  unfold completePresented
  split
  · rfl
  · dsimp only
    split <;> exact move_handlerOf ..

theorem complete_notifications (g : Gic) :
    g.notifications ⊆ g.completePresented.notifications := by
  unfold completePresented
  split
  · exact List.Subset.refl _
  · dsimp only
    split <;> exact move_told ..

-- Completion leaves a line engaged, or its listener is told.
theorem complete_engaged {h : Handler} (up : g.Engaged k) (heard : g.handlerOf k = some h) :
    g.completePresented.Engaged k ∨ ⟨k, h, .completed⟩ ∈ g.completePresented.notifications := by
  by_cases none : g.presented = spurious
  · simp only [completePresented, if_pos none]
    exact .inl up
  simp only [completePresented, if_neg none]
  obtain ⟨l, found, busy⟩ := up
  by_cases served : k = g.presented
  · subst k
    rw [found, Option.map_some]
    split
    · rename_i again
      refine .inl ⟨{ l with state := l.state.completed }, ?_, ?_⟩
      · change (g.move g.presented .deactivate).line? g.presented = _
        rw [move_line, if_pos rfl, found]
        rfl
      · rw [Option.some.inj again]
        simp [State.completed]
    · exact .inr (withdraw_told ⟨l, found, busy⟩ heard)
  · refine .inl ⟨l, ?_, busy⟩
    split <;> exact (move_line ..).trans ((if_neg served).trans found)

-- Arbitration acknowledges at most one line.
theorem arbitrate_frame {g' : Gic} {answer : Option Nat} (done : g.arbitrate = .ok (answer, g')) :
    g' = g ∨ ∃ n, g' = { g.apply (.acknowledge n) with presented := n } := by
  unfold arbitrate at done
  split at done
  · cases done
    exact .inl rfl
  · obtain ⟨found, _, done⟩ := Checked.bind_eq_ok.mp done
    cases found with
    | none => cases done; exact .inl rfl
    | some e => cases done; exact .inr ⟨e.number, rfl⟩

theorem arbitrate_notifications {g' : Gic} {answer : Option Nat}
    (done : g.arbitrate = .ok (answer, g')) : g'.notifications = g.notifications := by
  rcases arbitrate_frame done with rfl | ⟨n, rfl⟩
  · rfl
  · exact apply_notifications (r := .acknowledge n) rfl

theorem arbitrate_handlerOf {g' : Gic} {answer : Option Nat}
    (done : g.arbitrate = .ok (answer, g')) (k : Nat) : g'.handlerOf k = g.handlerOf k := by
  rcases arbitrate_frame done with rfl | ⟨n, rfl⟩
  · rfl
  · exact apply_handlerOf (r := .acknowledge n) rfl k

theorem arbitrate_engaged {g' : Gic} {answer : Option Nat}
    (done : g.arbitrate = .ok (answer, g')) (up : g.Engaged k) : g'.Engaged k := by
  rcases arbitrate_frame done with rfl | ⟨n, rfl⟩
  · exact up
  · exact apply_engaged (r := .acknowledge n) rfl rfl up

end VmMonitor.Gic
