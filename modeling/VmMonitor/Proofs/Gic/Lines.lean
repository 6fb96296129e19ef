import VmMonitor.Proofs.Gic.Served

/-!
What requests make of the lines. A request changes at most the line that it is about, and of that line
one thing; several requests, each for another line, do not get in each other's way.
-/

namespace VmMonitor.Gic

variable {g g' : Gic} {n k : Nat}

-- What a request makes of the line that it is about.
def Request.rewrite (r : Request) (l : Line) : Line :=
  match r with
  | .enableDistributor | .disableDistributor => l
  | .enable _ => { l with enabled := true }
  | .disable _ => { l with enabled := false }
  | .assert _ | .withdraw _ | .acknowledge _ | .deactivate _ | .clearPending _ =>
      { l with state := r.transition l.state }
  | .setPriority _ priority => { l with priority := priority }
  | .setTarget _ target => { l with target := target }
  | .setTrigger _ trigger => { l with trigger := trigger }
  | .setLevel _ level => { l with level := level }
  | .setHandler _ handler => { l with handler := some handler }

def Request.at (r : Request) (n : Nat) (l : Line) : Line :=
  if r.subject = some n then r.rewrite l else l

theorem line_at {r : Request} (own : r.subject = some k)
    (changed : g'.line? n = if n = k then (g.line? k).map r.rewrite else g.line? n) :
    g'.line? n = (g.line? n).map (r.at n) := by
  unfold Request.at
  rw [changed, own]
  by_cases same : n = k
  · subst n
    simp
  · simp [same, Ne.symm same]

theorem line_same {r : Request} (none : r.subject = none) (same : g'.line? n = g.line? n) :
    g'.line? n = (g.line? n).map (r.at n) := by
  unfold Request.at
  rw [same, none]
  simp

theorem setLevel_rewrite (g : Gic) (k n : Nat) (level : Bool) :
    (g.setLevel k level).line? n =
      if n = k then (g.line? k).map (Request.setLevel k level).rewrite else g.line? n := by
  unfold setLevel
  cases found : g.line? k with
  | none =>
      by_cases same : n = k
      · rw [if_pos same, same, found]
        rfl
      · rw [if_neg same]
  | some l =>
      dsimp only
      rw [notify_line]
      by_cases same : n = k
      · rw [if_pos same, same, setLine_line_self found]
        rfl
      · rw [if_neg same, setLine_line_other _ same]

theorem apply_rewrite (g : Gic) (r : Request) (n : Nat) :
    (g.apply r).line? n = (g.line? n).map (r.at n) := by
  cases r with
  | enableDistributor | disableDistributor => exact line_same rfl rfl
  | enable k | disable k | setTrigger k trigger | setHandler k handler =>
      exact line_at rfl (adjust_line ..)
  | assert k | withdraw k | acknowledge k | deactivate k | clearPending k =>
      exact line_at rfl (move_line ..)
  | setPriority k priority => exact line_at rfl (setPriority_line ..)
  | setTarget k target =>
      by_cases own : k < numPrivate
      · refine line_same (if_pos own) ?_
        change (g.setTarget k target).line? n = _
        rw [setTarget, if_pos own]
      · refine line_at (if_neg own) ?_
        change (g.setTarget k target).line? n = _
        rw [setTarget, if_neg own]
        exact adjust_line ..
  | setLevel k level => exact line_at rfl (setLevel_rewrite ..)

-- Requests that leave the state and the listener of line `n` to others.
def Request.leaves (n : Nat) : Request → Bool
  | .assert k | .withdraw k | .acknowledge k | .deactivate k | .clearPending k
  | .setHandler k _ => k ≠ n
  | .enableDistributor | .disableDistributor | .enable _ | .disable _ | .setPriority ..
  | .setTarget .. | .setTrigger .. | .setLevel .. => true

theorem leaves_at {r : Request} (leaves : r.leaves n = true) (l : Line) :
    (r.at n l).state = l.state ∧ (r.at n l).handler = l.handler := by
  unfold Request.at
  split
  · rename_i mine
    cases r with
    | assert k | withdraw k | acknowledge k | deactivate k | clearPending k | setHandler k handler =>
        exact absurd (Option.some.inj mine) (of_decide_eq_true leaves)
    | enableDistributor | disableDistributor | enable k | disable k | setPriority k p
    | setTarget k target | setTrigger k trigger | setLevel k level => exact ⟨rfl, rfl⟩
  · exact ⟨rfl, rfl⟩

theorem leaves_line {r : Request} (leaves : r.leaves n = true) :
    (g.apply r).stateOf n = g.stateOf n ∧ (g.apply r).handlerOf n = g.handlerOf n := by
  unfold stateOf handlerOf
  rw [apply_rewrite]
  cases g.line? n with
  | none => exact ⟨rfl, rfl⟩
  | some l => exact leaves_at leaves l

-- What the two requests of a level triggered line make of it.

theorem assert_busy (g : Gic) (listed : n < numLines) :
    (g.apply (.assert n)).stateOf n ≠ .inactive := by
  have now : (g.apply (.assert n)).stateOf n = (g.stateOf n).asserted :=
    (apply_stateOf g _ listed).trans (if_pos rfl)
  rw [now]
  cases g.stateOf n <;> decide

theorem clearPending_quiet (g : Gic) (listed : n < numLines) :
    ((g.apply (.clearPending n)).stateOf n).isPending = false := by
  have now : (g.apply (.clearPending n)).stateOf n = (g.stateOf n).cleared :=
    (apply_stateOf g _ listed).trans (if_pos rfl)
  rw [now]
  cases g.stateOf n <;> rfl

theorem foldl_rewrite (g : Gic) (rs : List Request) (n : Nat) :
    (rs.foldl apply g).line? n = (g.line? n).map fun l => rs.foldl (fun l r => r.at n l) l := by
  induction rs generalizing g with
  | nil => simp
  | cons r rest ih =>
      rw [List.foldl_cons, ih, apply_rewrite, Option.map_map]
      rfl

theorem foldl_presented (g : Gic) (rs : List Request) :
    (rs.foldl apply g).presented = g.presented := by
  induction rs generalizing g with
  | nil => rfl
  | cons r rest ih => rw [List.foldl_cons, ih, apply_presented]

theorem foldl_notifications {rs : List Request} (silent : ∀ r ∈ rs, r.silent = true) (g : Gic) :
    (rs.foldl apply g).notifications = g.notifications := by
  induction rs generalizing g with
  | nil => rfl
  | cons r rest ih =>
      rw [List.foldl_cons, ih fun r' later => silent r' (List.mem_cons_of_mem _ later),
        apply_notifications (silent r List.mem_cons_self)]

-- No request is about this line.
theorem foldl_at_none {rs : List Request} (none : ∀ r ∈ rs, r.subject ≠ some n) (l : Line) :
    rs.foldl (fun l r => r.at n l) l = l := by
  induction rs generalizing l with
  | nil => rfl
  | cons r rest ih =>
      have own : r.at n l = l := if_neg (none r List.mem_cons_self)
      rw [List.foldl_cons, own, ih fun r' later => none r' (List.mem_cons_of_mem _ later)]

-- One request is.
theorem foldl_at_one {rs : List Request} {r : Request} (asked : r ∈ rs) (once : rs.Nodup)
    (own : r.subject = some n) (only : ∀ r' ∈ rs, r'.subject = some n → r' = r) (l : Line) :
    rs.foldl (fun l r => r.at n l) l = r.rewrite l := by
  obtain ⟨before, after, rfl⟩ := List.append_of_mem asked
  obtain ⟨_, rest, apart⟩ := List.nodup_append.mp once
  have fore : ∀ r' ∈ before, r'.subject ≠ some n := fun r' here same =>
    apart r' here r List.mem_cons_self (only r' (List.mem_append_left _ here) same)
  have aft : ∀ r' ∈ after, r'.subject ≠ some n := fun r' here same =>
    (List.nodup_cons.mp rest).1 (only r' (by simp [here]) same ▸ here)
  rw [List.foldl_append, foldl_at_none fore, List.foldl_cons, foldl_at_none aft]
  exact if_pos own

-- What is asked of each line, if anything.
structure Asks (rs : List Request) (ask : Nat → Option Request) : Prop where
  mem : ∀ r, r ∈ rs ↔ ∃ n < numLines, ask n = some r
  once : rs.Nodup

-- The lines that exist are asked, each once, and nothing else happens.
structure Performed (g g' : Gic) (ask : Nat → Option Request) : Prop where
  asked : ∃ rs, Asks rs ask ∧ g' = rs.foldl apply g
  lines : ∀ n, g'.line? n = (g.line? n).map fun l => (ask n).elim l (·.rewrite l)
  presented : g'.presented = g.presented
  notifications : g'.notifications = g.notifications

theorem Asks.performed {rs : List Request} {ask : Nat → Option Request} (asks : Asks rs ask)
    (own : ∀ n r, ask n = some r → r.subject = some n) (silent : ∀ r ∈ rs, r.silent = true)
    (g : Gic) : Performed g (rs.foldl apply g) ask := by
  refine ⟨⟨rs, asks, rfl⟩, fun n => ?_, foldl_presented g rs, foldl_notifications silent g⟩
  have only : ∀ r ∈ rs, r.subject = some n → ask n = some r := fun r here same => by
    obtain ⟨k, _, asked⟩ := (asks.mem r).mp here
    rw [own k r asked] at same
    cases same
    exact asked
  rw [foldl_rewrite]
  cases asked : ask n with
  | none =>
      have none : ∀ r ∈ rs, r.subject ≠ some n := fun r here same => by
        rw [only r here same] at asked
        cases asked
      simp [foldl_at_none none]
  | some r =>
      cases found : g.line? n with
      | none => rfl
      | some l =>
          have here : r ∈ rs := (asks.mem r).mpr ⟨n, line_exists found, asked⟩
          have one : ∀ r' ∈ rs, r'.subject = some n → r' = r := fun r' there same =>
            Option.some.inj ((only r' there same).symm.trans asked)
          exact congrArg some (foldl_at_one here asks.once (own n r asked) one l)

-- A line keeps its number.

def Numbered (g : Gic) : Prop := ∀ n l, g.line? n = some l → l.number = n

theorem rewrite_number (r : Request) (l : Line) : (r.rewrite l).number = l.number := by
  cases r <;> rfl

theorem apply_numbered (r : Request) (numbered : g.Numbered) : (g.apply r).Numbered := by
  intro n l found
  rw [apply_rewrite] at found
  obtain ⟨before, was, rfl⟩ := Option.map_eq_some_iff.mp found
  unfold Request.at
  split
  · rw [rewrite_number, numbered n before was]
  · exact numbered n before was

theorem complete_frame (g : Gic) : g.completePresented = g ∨
    ∃ r : Request, g.completePresented = { g.apply r with presented := spurious } := by
  unfold completePresented
  split
  · exact .inl rfl
  · dsimp only
    split
    · exact .inr ⟨.deactivate g.presented, rfl⟩
    · exact .inr ⟨.withdraw g.presented, rfl⟩

theorem perform_numbered {op : Operation} (numbered : g.Numbered) (done : g.perform op = .ok g') :
    g'.Numbered := by
  cases op with
  | request r =>
      cases done
      exact apply_numbered r numbered
  | arbitrate =>
      obtain ⟨⟨answer, after⟩, ran, done⟩ := Checked.bind_eq_ok.mp done
      cases done
      rcases arbitrate_frame ran with rfl | ⟨n, rfl⟩
      · exact numbered
      · exact apply_numbered (.acknowledge n) numbered
  | complete =>
      cases done
      rcases complete_frame g with same | ⟨r, changed⟩
      · rw [same]
        exact numbered
      · rw [changed]
        exact apply_numbered r numbered
  | take =>
      cases done
      exact numbered

theorem initial_numbered : initial.Numbered := by
  intro n l found
  rw [initial_line] at found
  split at found
  · cases found
    rfl
  · cases found

theorem run_numbered {ops : List Operation} (numbered : g.Numbered) (ran : g.run ops = .ok g') :
    g'.Numbered := by
  induction ops generalizing g with
  | nil =>
      cases ran
      exact numbered
  | cons op rest ih =>
      obtain ⟨middle, done, ran⟩ := Checked.bind_eq_ok.mp ran
      exact ih (perform_numbered numbered done) ran

theorem reached_numbered (reached : g.Reached) : g.Numbered := by
  obtain ⟨ops, ran⟩ := reached
  exact run_numbered initial_numbered ran

end VmMonitor.Gic
