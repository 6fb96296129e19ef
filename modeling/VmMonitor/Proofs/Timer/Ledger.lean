import Mathlib.Data.List.Infix
import Mathlib.Data.List.Nodup
import VmMonitor.Proofs.Timer.Armings

/-!
Clock and timers keep to the history of their armings. However many timers there are, and whatever is
done with them: the callback of an arming was run once if an advance reached it in time and never
otherwise, the clock has the deadlines of the armings that are outstanding, an expiry counts once for
the latest arming if it is due, and it makes no difference in how many steps time passes.
-/

namespace VmMonitor

namespace SharedClock

-- A timer was made and not dropped since. Numbers begin at one.
def Live (past : List Event) (id : Nat) : Prop :=
  0 < id ∧ id ≤ past.count .create ∧ .drop id ∉ past

-- Only a timer that is there is used, and no sum of nanoseconds leaves 64 bits.
def Event.Possible (past : List Event) : Event → Prop
  | create => True
  | arm id ns => Live past id ∧ elapsed past + ns < UInt64.size
  | clear id | wait id | drop id => Live past id
  | advance ns => elapsed past + ns.toNat < UInt64.size

def Possible (past : List Event) : List Event → Prop
  | [] => True
  | e :: rest => e.Possible past ∧ Possible (past ++ [e]) rest

instance (past : List Event) (id : Nat) : Decidable (Live past id) :=
  inferInstanceAs (Decidable (_ ∧ _ ∧ _))

instance (past : List Event) : (e : Event) → Decidable (e.Possible past)
  | .create => .isTrue trivial
  | .arm _ _ => inferInstanceAs (Decidable (_ ∧ _))
  | .clear id | .wait id | .drop id => inferInstanceAs (Decidable (Live past id))
  | .advance _ => inferInstanceAs (Decidable (_ < _))

instance decidablePossible : (past events : List Event) → Decidable (Possible past events)
  | _, [] => .isTrue trivial
  | past, e :: rest =>
      have := decidablePossible (past ++ [e]) rest
      inferInstanceAs (Decidable (_ ∧ _))

-- What clock and timers keep after a history.
structure Ledger (record : List Entry) (s : SharedClock) : Prop where
  now : s.now = elapsed (events record)
  registry : s.clock.registry =
    ((armings 0 record).filter (·.Outstanding)).map fun a => (a.timer, a.due)
  remembered : ∀ id, s.remembered id =
    ((armings 0 record).filter fun a => a.timer = id ∧ a.Unclaimed).map (·.due)
  made : s.clock.registered = (events record).count .create
  present : ∀ id, (s.timer? id).isSome ↔ Live (events record) id
  -- A number that is still to be given was not dropped.
  dropped : ∀ id, .drop id ∈ events record → id ≤ s.clock.registered

-- What the answers in a history come to.
structure Told (record : List Entry) : Prop where
  -- The callback of an arming was run once if the clock was advanced to the deadline before the timer
  -- was armed anew, cleared or dropped,
  once : ∀ a ∈ armings 0 record, a.runs = if a.Reached then 1 else 0
  -- and no callback was run but for these.
  never : ∀ id, (callbacks record).count id =
    (armings 0 record).countP fun a => a.timer = id ∧ a.Reached
  -- An expiry counts if the latest arming is due and was neither cleared nor waited for already.
  waited : ∀ before id answer, before ++ [⟨.wait id, answer⟩] <+: record →
    ∃ adjusted, answer = .waited adjusted ∧ (adjusted = false ↔
      ∃ a ∈ armings 0 before, a.timer = id ∧ a.Unclaimed ∧ a.due ≤ elapsed (events before))

-- A history, its answers and what it leaves.
structure Faithful (record : List Entry) (s : SharedClock) : Prop extends Told record where
  pending : s.clock.pending = (armings 0 record).countP (·.Outstanding)
  single : ∀ id, (s.clock.own id).length =
      ((armings 0 record).countP fun a => a.timer = id ∧ a.Outstanding) ∧
    (s.clock.own id).length ≤ 1
  -- Time may pass in two steps or in one.
  split : ∀ a b : UInt64, elapsed (events record) + a.toNat + b.toNat < UInt64.size →
    ∃ first second both s',
      s.run [.advance a, .advance b] =
        .ok ([⟨.advance a, .ran first⟩, ⟨.advance b, .ran second⟩], s') ∧
      s.run [.advance (a + b)] = .ok ([⟨.advance (a + b), .ran both⟩], s') ∧
      ∀ id, (first ++ second).count id = both.count id

variable {record : List Entry} {s s' : SharedClock} {e : Event} {answer : Answer} {a : Arming}
  {id : Nat}

theorem initial_ledger : Ledger [] initial where
  now := rfl
  registry := rfl
  remembered _ := rfl
  made := rfl
  present id := by
    refine ⟨nofun, fun ⟨positive, given, _⟩ => ?_⟩
    exact absurd (Nat.lt_of_lt_of_le positive given) (Nat.lt_irrefl 0)
  dropped _ there := by cases there

theorem initial_told : Told [] where
  once _ there := by cases there
  never _ := rfl
  waited before _ _ here := by
    cases before <;> cases List.prefix_nil.mp here

theorem happen_step (ledger : Ledger record s) (possible : e.Possible (events record)) :
    ∃ answer s', s.happen e = .ok (answer, s') ∧ s.Step e answer s' := by
  have found {id : Nat} (live : Live (events record) id) : ∃ t, s.timer? id = some t :=
    Option.isSome_iff_exists.mp ((ledger.present id).mpr live)
  cases e with
  | create =>
      refine create_step (Option.not_isSome_iff_eq_none.mp fun present => ?_)
      have given := ((ledger.present _).mp present).2.1
      rw [← ledger.made] at given
      omega
  | arm id ns =>
      obtain ⟨t, here⟩ := found possible.1
      exact arm_step here (ledger.now ▸ possible.2)
  | clear id =>
      obtain ⟨t, here⟩ := found possible
      exact clear_step here
  | wait id =>
      obtain ⟨t, here⟩ := found possible
      exact wait_step here
  | drop id =>
      obtain ⟨t, here⟩ := found possible
      exact drop_step here
  | advance ns => exact advance_step s (ledger.now ▸ possible)

theorem live_concat (e : Event) (past : List Event) (id : Nat)
    (dropped : ∀ id, .drop id ∈ past → id ≤ past.count .create) :
    Live (past ++ [e]) id ↔
      (Live past id ∨ e = .create ∧ id = past.count .create + 1) ∧ e ≠ .drop id := by
  unfold Live
  rw [List.count_append, List.mem_append, List.mem_singleton]
  by_cases new : e = .create
  · subst new
    by_cases gone : .drop id ∈ past
    · have given := dropped id gone
      simp [gone]
      omega
    · simp [gone]
      omega
  · have none : [e].count .create = 0 := by simp [new]
    rw [none, Nat.add_zero, not_or, ← ne_eq, ne_comm]
    simp only [new, false_and, or_false, and_assoc]

theorem step_ledger (ledger : Ledger record s) (possible : e.Possible (events record))
    (step : s.Step e answer s') : Ledger (record ++ [⟨e, answer⟩]) s' := by
  have now : s'.now = elapsed (events record) + e.passes := ledger.now ▸ step.now
  refine ⟨?now, ?registry, fun id => ?remembered, ?made, fun id => ?present,
    fun id there => ?dropped⟩
  case now => rw [events_concat, elapsed_concat, now]
  case registry =>
    rw [step.registry, ledger.registry, ledger.now, ← begins_outstanding]
    refine (armings_concat_map ⟨e, answer⟩ (fun a => (a.timer, a.due)) Arming.Outstanding
      (fun _ => rfl) fun a there => ?_).symm
    rw [Arming.extend_outstanding there, now]
  case remembered =>
    rw [step.remembered, ledger.remembered, ledger.now, ← begins_unclaimed]
    refine (armings_concat_map ⟨e, answer⟩ Arming.due (fun a => a.timer = id ∧ a.Unclaimed)
      (fun _ => rfl) fun a there => ?_).symm
    change a.timer = id ∧ (a.extend _).Unclaimed ↔ _
    rw [Arming.extend_unclaimed there, now]
    by_cases own : a.timer = id <;> simp [own]
  case made => rw [events_concat, List.count_append, step.made, ledger.made]
  case present =>
    have dropped := ledger.dropped
    rw [ledger.made] at dropped
    rw [events_concat, live_concat e _ id dropped, step.present, ledger.present, ledger.made]
  case dropped =>
    rw [events_concat] at there
    rw [step.made]
    rcases List.mem_append.mp there with before | last
    · exact Nat.le_add_right_of_le (ledger.dropped id before)
    · cases List.mem_singleton.mp last
      exact Nat.le_add_right_of_le (ledger.made ▸ possible.2.1)

-- The callbacks that a step runs are those of the outstanding armings that it reaches.

theorem step_callbacks (ledger : Ledger record s) (step : s.Step e answer s') :
    answer.callbacks = ((armings 0 record).filter fun a =>
      a.Outstanding ∧ e.advances ∧ a.due ≤ s'.now).map (·.timer) := by
  rw [step.callbacks, ledger.registry, List.filter_map, List.map_map, List.filter_filter]
  refine congrArg (List.map _) (List.filter_congr fun a _ => ?_)
  rw [Bool.eq_iff_iff]
  simp only [Function.comp_apply, Bool.and_eq_true, decide_eq_true_eq]
  exact and_comm

theorem step_count (ledger : Ledger record s) (step : s.Step e answer s')
    (there : a ∈ armings 0 record) (inForce : a.InForce) :
    answer.callbacks.count a.timer =
      if a.Outstanding ∧ e.advances ∧ a.due ≤ s'.now then 1 else 0 := by
  have nodup := inForce_nodup 0 record
  rw [step_callbacks ledger step]
  split
  · rename_i reached
    refine List.count_eq_one_of_mem (nodup.sublist (List.Sublist.map _ ?_))
      (List.mem_map_of_mem (List.mem_filter.mpr ⟨there, decide_eq_true reached⟩))
    refine List.monotone_filter_right _ fun b reached => ?_
    exact decide_eq_true (of_decide_eq_true reached).1.1
  · rename_i missed
    -- No other arming of the timer can be meant, since only one of them is in force.
    refine List.count_eq_zero_of_not_mem fun present => missed ?_
    obtain ⟨b, present, same⟩ := List.mem_map.mp present
    obtain ⟨there', reached⟩ := List.mem_filter.mp present
    have reached := of_decide_eq_true reached
    have equal := List.inj_on_of_nodup_map nodup
      (List.mem_filter.mpr ⟨there', decide_eq_true reached.1.1⟩)
      (List.mem_filter.mpr ⟨there, decide_eq_true inForce⟩) same
    exact equal ▸ reached

theorem step_once (ledger : Ledger record s) (step : s.Step e answer s')
    (once : ∀ a ∈ armings 0 record, a.runs = if a.Reached then 1 else 0) :
    ∀ a ∈ armings 0 (record ++ [⟨e, answer⟩]), a.runs = if a.Reached then 1 else 0 := by
  have now : s'.now = elapsed (events record) + e.passes := ledger.now ▸ step.now
  intro a there
  rw [armings_concat] at there
  rcases List.mem_append.mp there with before | begun
  · obtain ⟨a, here, rfl⟩ := List.mem_map.mp before
    rw [Arming.extend_runs, once a here]
    simp only [Arming.extend_reached here, ← now]
    by_cases spared : a.InForce ∧ e.ends a.timer = false
    · rw [if_pos spared, step_count ledger step here spared.1]
      by_cases reached : a.Reached
      · simp [reached, Arming.Outstanding]
      · simp [reached]
    · have missed : ¬ (a.Outstanding ∧ e.advances ∧ a.due ≤ s'.now) := fun hit =>
        spared ⟨hit.1.1, Event.advances_spares hit.2.1 _⟩
      rw [if_neg spared]
      simp [missed]
  · obtain ⟨runs, reached⟩ := begins_fresh begun
    rw [runs, if_neg reached]

theorem countP_disjoint {α : Type} {l : List α} {p q r : α → Prop} [DecidablePred p]
    [DecidablePred q] [DecidablePred r] (parts : ∀ a ∈ l, p a ↔ q a ∨ r a)
    (apart : ∀ a ∈ l, q a → ¬ r a) :
    (l.countP fun a => p a) = (l.countP fun a => q a) + l.countP fun a => r a := by
  induction l with
  | nil => rfl
  | cons a rest ih =>
      obtain ⟨parts, parts'⟩ := List.forall_mem_cons.mp parts
      obtain ⟨apart, apart'⟩ := List.forall_mem_cons.mp apart
      rw [List.countP_cons, List.countP_cons, List.countP_cons, ih parts' apart']
      by_cases first : q a
      · simp [parts, first, apart first]
        omega
      · simp [parts, first]
        omega

theorem step_never (ledger : Ledger record s) (step : s.Step e answer s')
    (never : (callbacks record).count id =
      (armings 0 record).countP fun a => a.timer = id ∧ a.Reached) :
    (callbacks (record ++ [⟨e, answer⟩])).count id =
      (armings 0 (record ++ [⟨e, answer⟩])).countP fun a => a.timer = id ∧ a.Reached := by
  have now : s'.now = elapsed (events record) + e.passes := ledger.now ▸ step.now
  have none : (e.begins (0 + elapsed (events record)) []).countP
      (fun a => a.timer = id ∧ a.Reached) = 0 :=
    List.countP_eq_zero.mpr fun a there reached =>
      (begins_fresh there).2 (of_decide_eq_true reached).2
  have ran : answer.callbacks.count id = (armings 0 record).countP fun a =>
      a.timer = id ∧ a.Outstanding ∧ e.advances ∧ a.due ≤ s'.now := by
    rw [step_callbacks ledger step, List.count_eq_countP, List.countP_map, List.countP_filter]
    refine List.countP_congr fun a _ => ?_
    simp
  rw [callbacks_concat, List.count_append, never, ran, armings_concat, List.countP_append, none,
    List.countP_map]
  refine (countP_disjoint ?_ ?_).symm
  · intro a there
    change a.timer = id ∧ (a.extend _).Reached ↔ _
    rw [Arming.extend_reached there, now, and_or_left]
  · intro a _ reached hit
    exact hit.2.1.2 reached.2

theorem step_told (ledger : Ledger record s) (step : s.Step e answer s') (told : Told record) :
    Told (record ++ [⟨e, answer⟩]) where
  once := step_once ledger step told.once
  never _ := step_never ledger step (told.never _)
  waited before id answer' here := by
    rcases List.prefix_concat_iff.mp here with last | earlier
    · obtain ⟨rfl, same⟩ := List.append_inj' last rfl
      cases same
      obtain ⟨adjusted, said, stale⟩ := step.waited id (decide_eq_true rfl)
      refine ⟨adjusted, said, stale.trans ?_⟩
      rw [ledger.remembered, ledger.now]
      simp [and_assoc, and_left_comm]
    · exact told.waited before id answer' earlier

theorem run_told {rest : List Event} (ledger : Ledger record s) (told : Told record)
    (possible : Possible (events record) rest) :
    ∃ later s', s.run rest = .ok (later, s') ∧ events later = rest ∧
      Ledger (record ++ later) s' ∧ Told (record ++ later) := by
  induction rest generalizing record s with
  | nil => exact ⟨[], s, rfl, rfl, by rwa [List.append_nil], by rwa [List.append_nil]⟩
  | cons e rest ih =>
      obtain ⟨here, further⟩ := possible
      obtain ⟨answer, s₁, happened, step⟩ := happen_step ledger here
      obtain ⟨later, s', ran, asked, ledger', told'⟩ := ih (step_ledger ledger here step)
        (step_told ledger step told) (by rwa [events_concat])
      refine ⟨_, s', run_cons happened ran, congrArg (e :: ·) asked, ?_, ?_⟩
      · rwa [List.append_cons]
      · rwa [List.append_cons]

theorem ledger_pending (ledger : Ledger record s) :
    s.clock.pending = (armings 0 record).countP (·.Outstanding) := by
  have counted := congrArg List.length ledger.registry
  rwa [Clock.registry, List.length_map, List.length_map, ← List.countP_eq_length_filter] at counted

theorem ledger_single (ledger : Ledger record s) (id : Nat) :
    (s.clock.own id).length =
        ((armings 0 record).countP fun a => a.timer = id ∧ a.Outstanding) ∧
      (s.clock.own id).length ≤ 1 := by
  have counted : (s.clock.own id).length =
      (armings 0 record).countP fun a => a.timer = id ∧ a.Outstanding := by
    rw [Clock.own_length, ledger.registry, List.countP_map, List.countP_filter]
    exact List.countP_congr fun a _ => by simp
  exact ⟨counted, counted ▸ outstanding_le_one 0 record id⟩

theorem ledger_split (ledger : Ledger record s) (a b : UInt64)
    (small : elapsed (events record) + a.toNat + b.toNat < UInt64.size) :
    ∃ first second both s',
      s.run [.advance a, .advance b] =
        .ok ([⟨.advance a, .ran first⟩, ⟨.advance b, .ran second⟩], s') ∧
      s.run [.advance (a + b)] = .ok ([⟨.advance (a + b), .ran both⟩], s') ∧
      ∀ id, (first ++ second).count id = both.count id := by
  rw [← ledger.now] at small
  obtain ⟨first, middle, second, both, c, moved, moved', whole, same⟩ := Clock.advance_split small
  refine ⟨first, second, both, { s with clock := c }, ?_, ?_, fun id => same.count_eq id⟩
  · exact run_cons (happen_advance moved) (run_cons (happen_advance moved') rfl)
  · exact run_cons (happen_advance whole) rfl

theorem run_faithful {asked : List Event} (possible : Possible [] asked) :
    ∃ record s, initial.run asked = .ok (record, s) ∧ events record = asked ∧
      Faithful record s := by
  obtain ⟨record, s, ran, same, ledger, told⟩ := run_told initial_ledger initial_told possible
  exact ⟨record, s, ran, same, told, ledger_pending ledger, ledger_single ledger,
    ledger_split ledger⟩

-- Two timers. The second is armed anew after it ran out, so that its expiry is stale; later it is
-- cleared, and dropped while it is armed. The first runs out, counts once, and is armed again.
theorem run_faithful_two :
    let asked : List Event := [.create, .create, .arm 1 200, .arm 2 100, .advance 150, .arm 2 10,
      .wait 2, .advance 50, .wait 1, .wait 1, .clear 2, .wait 2, .arm 2 1, .drop 2, .advance 5,
      .arm 1 1000]
    Possible [] asked ∧ ∃ record s, initial.run asked = .ok (record, s) ∧ Faithful record s ∧
      record.map (·.answer) = [.done, .done, .done, .done, .ran [2], .done, .waited true,
        .ran [1, 2], .waited false, .waited true, .done, .waited true, .done, .done, .ran [],
        .done] ∧
      s.clock.pending = 1 := by
  intro asked
  have possible : Possible [] asked := by decide
  obtain ⟨record, s, ran, _, faithful⟩ := run_faithful possible
  have shown : (initial.run asked).toOption.map
      (fun r => (r.1.map (·.answer), r.2.clock.pending)) = some ([.done, .done, .done, .done,
        .ran [2], .done, .waited true, .ran [1, 2], .waited false, .waited true, .done,
        .waited true, .done, .done, .ran [], .done], 1) := by decide +kernel
  rw [ran] at shown
  obtain ⟨answers, pending⟩ := Prod.mk.inj (Option.some.inj shown)
  exact ⟨possible, record, s, ran, faithful, answers, pending⟩

end SharedClock

end VmMonitor
