import Mathlib.Data.List.Nodup
import Mathlib.Data.List.TakeWhile
import Mathlib.Tactic.Tauto
import VmMonitor.Proofs.Timer.Shared

/-!
What becomes of each arming of timers that share a clock, told from their history alone and not from
what clock and timers keep. An arming is in force until its timer is armed anew, cleared or dropped;
it is reached if the clock is advanced to its deadline meanwhile. What one more entry changes in that
is stated for a single arming, and for all of them as a list.
-/

namespace VmMonitor

namespace SharedClock

-- The nanoseconds that have passed.
def elapsed : List Event → Nat
  | [] => 0
  | e :: later => e.passes + elapsed later

-- When the events of one kind happened.
def times (kind : Event → Bool) (now : Nat) : List Event → List Nat
  | [] => []
  | e :: later =>
      (if kind e then [now + e.passes] else []) ++ times kind (now + e.passes) later

def events (record : List Entry) : List Event := record.map (·.event)

-- The timers whose callbacks were run, in order.
def callbacks (record : List Entry) : List Nat := record.flatMap (·.answer.callbacks)

-- A timer that was armed at some time for so many nanoseconds, and all that has happened since.
structure Arming where
  timer : Nat
  start : Nat
  ns : Nat
  since : List Entry

namespace Arming

def due (a : Arming) : Nat := a.start + a.ns

-- What happened until the timer was armed anew, cleared or dropped.
def reign (a : Arming) : List Entry := a.since.takeWhile fun x => !x.event.ends a.timer

def InForce (a : Arming) : Prop := ∀ x ∈ a.since, x.event.ends a.timer = false

-- An advance came to the deadline in time.
def Reached (a : Arming) : Prop :=
  ∃ now ∈ times Event.advances a.start (events a.reign), a.due ≤ now

def Outstanding (a : Arming) : Prop := a.InForce ∧ ¬ a.Reached

-- Nobody has waited for the timer when or after it was due.
def Unclaimed (a : Arming) : Prop :=
  a.InForce ∧ ¬ ∃ now ∈ times (Event.waits a.timer) a.start (events a.since), a.due ≤ now

-- How often the callback was run for this arming.
def runs (a : Arming) : Nat := (callbacks a.reign).count a.timer

instance (a : Arming) : Decidable a.InForce := inferInstanceAs (Decidable (∀ _ ∈ _, _))

instance (a : Arming) : Decidable a.Reached := inferInstanceAs (Decidable (∃ _ ∈ _, _))

instance (a : Arming) : Decidable a.Outstanding := inferInstanceAs (Decidable (_ ∧ _))

instance (a : Arming) : Decidable a.Unclaimed := inferInstanceAs (Decidable (_ ∧ _))

def extend (a : Arming) (x : Entry) : Arming := { a with since := a.since ++ [x] }

end Arming

def Event.begins (now : Nat) (since : List Entry) : Event → List Arming
  | arm timer ns => [⟨timer, now, ns, since⟩]
  | _ => []

-- All armings of a history that begins at this time.
def armings (now : Nat) : List Entry → List Arming
  | [] => []
  | x :: later => x.event.begins now later ++ armings (now + x.event.passes) later

variable {record since : List Entry} {x : Entry} {a : Arming} {now : Nat} {e : Event}

theorem elapsed_concat (past : List Event) (e : Event) :
    elapsed (past ++ [e]) = elapsed past + e.passes := by
  induction past with
  | nil => simp [elapsed]
  | cons first rest ih => rw [List.cons_append, elapsed, elapsed, ih, Nat.add_assoc]

theorem events_concat (record : List Entry) (x : Entry) :
    events (record ++ [x]) = events record ++ [x.event] :=
  List.map_append

theorem callbacks_concat (record : List Entry) (x : Entry) :
    callbacks (record ++ [x]) = callbacks record ++ x.answer.callbacks := by
  simp [callbacks]

theorem times_concat (kind : Event → Bool) (now : Nat) (past : List Event) (e : Event) :
    times kind now (past ++ [e]) = times kind now past ++
      if kind e then [now + elapsed past + e.passes] else [] := by
  induction past generalizing now with
  | nil => simp [times, elapsed]
  | cons first rest ih =>
      simp only [List.cons_append, times, ih, List.append_assoc]
      simp [elapsed, Nat.add_assoc]

theorem times_reach {kind : Event → Bool} {start due : Nat} {past : List Event} :
    (∃ t ∈ times kind start (past ++ [e]), due ≤ t) ↔
      (∃ t ∈ times kind start past, due ≤ t) ∨
        kind e ∧ due ≤ start + elapsed past + e.passes := by
  rw [times_concat]
  cases kind e <;> simp [or_and_right, exists_or]

theorem begins_parts (there : a ∈ e.begins now since) :
    e = .arm a.timer a.ns ∧ a.start = now ∧ a.since = since := by
  cases e with
  | arm timer ns =>
      cases List.mem_singleton.mp there
      exact ⟨rfl, rfl, rfl⟩
  | _ => cases there

theorem armings_concat (now : Nat) (record : List Entry) (x : Entry) :
    armings now (record ++ [x]) = (armings now record).map (·.extend x) ++
      x.event.begins (now + elapsed (events record)) [] := by
  induction record generalizing now with
  | nil => simp [armings, elapsed, events]
  | cons first rest ih =>
      have begun : first.event.begins now (rest ++ [x]) =
          (first.event.begins now rest).map (·.extend x) := by
        cases first.event <;> rfl
      simp only [List.cons_append, armings, ih, begun, List.map_append, List.append_assoc]
      simp [elapsed, events, Nat.add_assoc]

-- The time at the end of a history, told from any arming in it.
theorem arming_elapsed (there : a ∈ armings now record) :
    a.start + elapsed (events a.since) = now + elapsed (events record) := by
  induction record generalizing now with
  | nil => cases there
  | cons x later ih =>
      rcases List.mem_append.mp there with here | after
      · obtain ⟨same, start, since⟩ := begins_parts here
        simp [elapsed, events, same, start, since, Event.passes]
      · rw [ih after]
        simp [elapsed, events, Nat.add_assoc]

theorem arming_ends (there : a ∈ armings now record) :
    ∃ x ∈ record, x.event.ends a.timer = true := by
  induction record generalizing now with
  | nil => cases there
  | cons x later ih =>
      rcases List.mem_append.mp there with here | after
      · refine ⟨x, List.mem_cons_self, ?_⟩
        rw [(begins_parts here).1]
        exact decide_eq_true rfl
      · obtain ⟨y, present, ends⟩ := ih after
        exact ⟨y, List.mem_cons_of_mem _ present, ends⟩

-- Only the latest arming of a timer can be in force.

theorem armings_superseded (now : Nat) (record : List Entry) :
    (armings now record).Pairwise fun a b => a.timer = b.timer → ¬ a.InForce := by
  induction record generalizing now with
  | nil => exact .nil
  | cons x later ih =>
      refine List.pairwise_append.mpr ⟨?_, ih _, ?_⟩
      · cases x.event <;> simp [Event.begins]
      · intro a first b after same inForce
        obtain ⟨y, present, ends⟩ := arming_ends after
        rw [← same, inForce y ((begins_parts first).2.2 ▸ present)] at ends
        cases ends

theorem inForce_nodup (now : Nat) (record : List Entry) :
    (((armings now record).filter (·.InForce)).map (·.timer)).Nodup := by
  refine List.pairwise_map.mpr (List.pairwise_filter.mpr ?_)
  refine (armings_superseded now record).imp fun superseded inForce _ same => ?_
  exact superseded same (of_decide_eq_true inForce)

theorem outstanding_le_one (now : Nat) (record : List Entry) (id : Nat) :
    ((armings now record).countP fun a => a.timer = id ∧ a.Outstanding) ≤ 1 := by
  have once := List.nodup_iff_count_le_one.mp (inForce_nodup now record) id
  rw [List.count_eq_countP, List.countP_map, List.countP_filter] at once
  refine Nat.le_trans (List.countP_mono_left fun a _ outstanding => ?_) once
  obtain ⟨own, inForce, _⟩ := of_decide_eq_true outstanding
  simp [own, inForce]

namespace Arming

theorem reign_inForce (inForce : a.InForce) : a.reign = a.since :=
  List.takeWhile_eq_self_iff.mpr fun x there => by simp [inForce x there]

theorem extend_inForce (a : Arming) (x : Entry) :
    (a.extend x).InForce ↔ a.InForce ∧ x.event.ends a.timer = false := by
  simp [InForce, extend, or_imp, forall_and]

theorem extend_reign (a : Arming) (x : Entry) :
    (a.extend x).reign = a.reign ++
      if a.InForce ∧ x.event.ends a.timer = false then [x] else [] := by
  by_cases inForce : a.InForce
  · have whole := reign_inForce inForce
    unfold reign at whole ⊢
    cases ends : x.event.ends a.timer <;> simp [extend, List.takeWhile_append, whole, inForce, ends]
  · have cut : a.reign.length ≠ a.since.length := fun same => inForce fun x there => by
      have whole := (List.takeWhile_sublist _).eq_of_length same
      simpa using List.takeWhile_eq_self_iff.mp whole x there
    unfold reign at cut ⊢
    simp [extend, List.takeWhile_append, cut, inForce]

theorem extend_runs (a : Arming) (x : Entry) :
    (a.extend x).runs = a.runs + if a.InForce ∧ x.event.ends a.timer = false then
      x.answer.callbacks.count a.timer else 0 := by
  unfold runs
  rw [extend_reign]
  split
  · rw [callbacks_concat, List.count_append]
    rfl
  · rw [List.append_nil]
    rfl

theorem extend_reached (there : a ∈ armings 0 record) (x : Entry) :
    (a.extend x).Reached ↔ a.Reached ∨
      a.Outstanding ∧ x.event.advances ∧ a.due ≤ elapsed (events record) + x.event.passes := by
  have now := arming_elapsed there
  rw [Nat.zero_add] at now
  by_cases spared : a.InForce ∧ x.event.ends a.timer = false
  · have step : (a.extend x).Reached ↔ a.Reached ∨
        x.event.advances ∧ a.due ≤ elapsed (events record) + x.event.passes := by
      unfold Reached
      rw [extend_reign, if_pos spared, events_concat, reign_inForce spared.1, ← now]
      exact times_reach
    rw [step]
    unfold Outstanding
    by_cases reached : a.Reached <;> simp [reached, spared.1]
  · have step : (a.extend x).Reached ↔ a.Reached := by
      unfold Reached
      rw [extend_reign, if_neg spared, List.append_nil]
      rfl
    rw [step, or_iff_left]
    rintro ⟨outstanding, advances, _⟩
    exact spared ⟨outstanding.1, Event.advances_spares advances _⟩

theorem extend_outstanding (there : a ∈ armings 0 record) (x : Entry) :
    (a.extend x).Outstanding ↔ a.Outstanding ∧ x.event.ends a.timer = false ∧
      ¬ (x.event.advances ∧ a.due ≤ elapsed (events record) + x.event.passes) := by
  unfold Outstanding
  rw [extend_inForce, extend_reached there]
  unfold Outstanding
  tauto

theorem extend_unclaimed (there : a ∈ armings 0 record) (x : Entry) :
    (a.extend x).Unclaimed ↔ a.Unclaimed ∧ x.event.ends a.timer = false ∧
      ¬ (x.event.waits a.timer ∧ a.due ≤ elapsed (events record) + x.event.passes) := by
  have now := arming_elapsed there
  rw [Nat.zero_add] at now
  unfold Unclaimed
  rw [extend_inForce, ← now]
  change _ ∧ ¬ (∃ t ∈ times (Event.waits a.timer) a.start (events (a.since ++ [x])), a.due ≤ t) ↔ _
  rw [events_concat, times_reach, not_or]
  exact and_and_and_comm

end Arming

-- A selection of the armings after one more entry: of those selected so far the ones that the entry
-- leaves, and then the arming that it is, if any.
theorem armings_concat_map {α : Type} (x : Entry) (f : Arming → α) (p : Arming → Prop)
    [DecidablePred p] {r : α → Prop} [DecidablePred r] (same : ∀ a : Arming, f (a.extend x) = f a)
    (kept : ∀ a ∈ armings 0 record, p (a.extend x) ↔ p a ∧ r (f a)) :
    ((armings 0 (record ++ [x])).filter fun a => p a).map f =
      (((armings 0 record).filter fun a => p a).map f).filter (fun d => r d) ++
        ((x.event.begins (elapsed (events record)) []).filter fun a => p a).map f := by
  have fewer : (armings 0 record).filter (fun a => p (a.extend x)) =
      (armings 0 record).filter fun a => decide (r (f a)) && p a :=
    List.filter_congr fun a there => by
      rw [Bool.eq_iff_iff]
      simp [kept a there, and_comm]
  have whole : f ∘ (·.extend x) = f := funext same
  rw [armings_concat, List.filter_append, List.map_append, Nat.zero_add, List.filter_map,
    List.map_map, whole, List.filter_map, List.filter_filter]
  exact congrArg (fun l => List.map f l ++ _) fewer

theorem begins_outstanding (e : Event) (now : Nat) :
    ((e.begins now []).filter (·.Outstanding)).map (fun a => (a.timer, a.due)) = e.arms now := by
  cases e with
  | arm timer ns =>
      simp [Event.begins, Event.arms, Arming.Outstanding, Arming.InForce, Arming.Reached,
        Arming.reign, events, times, Arming.due]
  | _ => rfl

theorem begins_unclaimed (e : Event) (now id : Nat) :
    ((e.begins now []).filter fun a => a.timer = id ∧ a.Unclaimed).map (·.due) =
      ((e.arms now).filter (·.1 = id)).map (·.2) := by
  cases e with
  | arm timer ns =>
      by_cases own : timer = id <;>
        simp [Event.begins, Event.arms, Arming.Unclaimed, Arming.InForce, events, times, Arming.due,
          own]
  | _ => rfl

theorem begins_fresh (there : a ∈ e.begins now []) : a.runs = 0 ∧ ¬ a.Reached := by
  have since := (begins_parts there).2.2
  simp [Arming.runs, Arming.Reached, Arming.reign, since, callbacks, events, times]

end SharedClock

end VmMonitor
