import Mathlib.Data.List.Basic
import VmMonitor.Proofs.Timer.Deadlines

/-!
Timers that share a clock. They come, are armed, cleared, waited for and dropped in any order, while
pretend time passes. The deadline of an arming is kept twice, and the two are given up at different
moments: an advance takes it off the clock, and a wait makes the timer forget it. Each event is told
here by what becomes of either.
-/

namespace VmMonitor

namespace Clock

variable {c c' : Clock} {ns a b : UInt64} {fired : List Nat}

-- The deadlines that a clock has, each with its timer.
def registry (c : Clock) : List (Nat × Nat) := c.deadlines.map fun d => (d.timer, d.due.toNat)

theorem registry_remove (c : Clock) (id : Nat) :
    (c.remove id).registry = c.registry.filter (·.1 ≠ id) := by
  unfold registry remove
  rw [List.filter_map]
  rfl

theorem registry_add (c : Clock) (id : Nat) (due : UInt64) :
    (c.add id due).registry = c.registry.filter (·.1 ≠ id) ++ [(id, due.toNat)] := by
  rw [← registry_remove]
  exact List.map_append

theorem registry_advance (done : c.advance ns = .ok (fired, c')) :
    fired = (c.registry.filter (·.2 ≤ c'.now.toNat)).map (·.1) ∧
      c'.registry = c.registry.filter (c'.now.toNat < ·.2) := by
  obtain ⟨_, out, left⟩ := advance_parts done
  unfold registry
  rw [List.filter_map, List.filter_map, List.map_map, out, left]
  simp only [Function.comp_def, UInt64.le_iff_toNat_le, UInt64.lt_iff_toNat_lt, and_self]

theorem registered_advance (done : c.advance ns = .ok (fired, c')) :
    c'.registered = c.registered := by
  obtain ⟨now, _, done⟩ := Checked.bind_eq_ok.mp done
  cases done
  rfl

theorem own_length (c : Clock) (id : Nat) :
    (c.own id).length = c.registry.countP (·.1 = id) := by
  unfold own registry
  rw [List.countP_map, List.countP_eq_length_filter]
  rfl

-- What runs out by a later time has run out by an earlier one, or runs out in between.
theorem filter_due {first second : UInt64} (order : first ≤ second) (l : List Deadline) :
    (l.filter (·.due ≤ first) ++ (l.filter (first < ·.due)).filter (·.due ≤ second)).Perm
      (l.filter (·.due ≤ second)) := by
  have early : l.filter (·.due ≤ first) =
      (l.filter (·.due ≤ second)).filter (·.due ≤ first) := by
    rw [List.filter_filter]
    refine List.filter_congr fun d _ => ?_
    rw [Bool.eq_iff_iff]
    simpa using fun come => UInt64.le_trans come order
  have late : (l.filter (first < ·.due)).filter (·.due ≤ second) =
      (l.filter (·.due ≤ second)).filter fun d => !(d.due ≤ first) := by
    rw [List.filter_filter, List.filter_filter]
    refine List.filter_congr fun d _ => ?_
    rw [Bool.and_comm, ← decide_not]
    simp only [UInt64.not_le]
  rw [early, late]
  exact List.filter_append_perm ..

theorem filter_left {first second : UInt64} (order : first ≤ second) (l : List Deadline) :
    (l.filter (first < ·.due)).filter (second < ·.due) = l.filter (second < ·.due) := by
  rw [List.filter_filter]
  refine List.filter_congr fun d _ => ?_
  rw [Bool.eq_iff_iff]
  simpa using fun ahead => UInt64.lt_of_le_of_lt order ahead

-- Time that passes in two steps runs the timers out that it runs out in one, if not in this order.
theorem advance_split (small : c.now.toNat + a.toNat + b.toNat < UInt64.size) :
    ∃ first middle second both c', c.advance a = .ok (first, middle) ∧
      middle.advance b = .ok (second, c') ∧ c.advance (a + b) = .ok (both, c') ∧
      (first ++ second).Perm both := by
  have soon : (c.now + a).toNat = c.now.toNat + a.toNat := by
    rw [UInt64.toNat_add]
    exact Nat.mod_eq_of_lt (Nat.lt_of_le_of_lt (by omega) small)
  have sum : (a + b).toNat = a.toNat + b.toNat := by
    rw [UInt64.toNat_add]
    exact Nat.mod_eq_of_lt (Nat.lt_of_le_of_lt (by omega) small)
  have total : (c.now + a + b).toNat = c.now.toNat + a.toNat + b.toNat := by
    rw [UInt64.toNat_add, soon]
    exact Nat.mod_eq_of_lt small
  have order : c.now + a ≤ c.now + a + b := by
    rw [UInt64.le_iff_toNat_le, total, soon]
    exact Nat.le_add_right ..
  have whole : c.advance (a + b) = _ := advance_eq (by omega)
  rw [← UInt64.add_assoc, ← filter_left order] at whole
  refine ⟨_, _, _, _, _, advance_eq (by omega), advance_eq ?_, whole, ?_⟩
  · rwa [soon]
  · rw [← List.map_append]
    exact (filter_due order _).map _

end Clock

-- A clock and the timers on it, by their numbers. A timer that was dropped is gone.
structure SharedClock where
  clock : Clock
  timer? : Nat → Option ClockTimer
  numbered : ∀ {id t}, timer? id = some t → t.id = id

namespace SharedClock

inductive Event where
  | create
  | arm (id ns : Nat)
  | clear (id : Nat)
  -- An expiry was delivered, and someone waits for the timer.
  | wait (id : Nat)
  | drop (id : Nat)
  | advance (ns : UInt64)
  deriving DecidableEq

inductive Answer where
  | done
  -- Whether the expiry is stale.
  | waited (adjusted : Bool)
  -- The timers whose callbacks were run, in this order.
  | ran (timers : List Nat)
  deriving DecidableEq

structure Entry where
  event : Event
  answer : Answer
  deriving DecidableEq

namespace Event

-- The nanoseconds that pass.
def passes : Event → Nat
  | advance ns => ns.toNat
  | _ => 0

def advances : Event → Bool
  | advance _ => true
  | _ => false

def waits (id : Nat) : Event → Bool
  | wait timer => timer = id
  | _ => false

-- What the timer was armed for so far is settled or given up.
def ends (id : Nat) : Event → Bool
  | arm timer _ | clear timer | drop timer => timer = id
  | _ => false

-- The timer that is armed, and when it is due.
def arms (now : Nat) : Event → List (Nat × Nat)
  | arm timer ns => [(timer, now + ns)]
  | _ => []

theorem advances_spares {e : Event} (advances : e.advances = true) (id : Nat) :
    e.ends id = false := by
  cases e with
  | advance ns => rfl
  | _ => cases advances

end Event

def Answer.callbacks : Answer → List Nat
  | ran timers => timers
  | _ => []

def initial : SharedClock := ⟨.initial, fun _ => none, nofun⟩

-- Only a timer that is there can be used.
def get (s : SharedClock) (id : Nat) : Checked ClockTimer :=
  match s.timer? id with
  | some t => .ok t
  | none => .error .outOfRange

def put (s : SharedClock) (t : ClockTimer) (c : Clock) : SharedClock where
  clock := c
  timer? id := if id = t.id then some t else s.timer? id
  numbered {id t'} found := by
    split at found
    · cases found
      exact Eq.symm ‹_›
    · exact s.numbered found

def remove (s : SharedClock) (id : Nat) (c : Clock) : SharedClock where
  clock := c
  timer? other := if other = id then none else s.timer? other
  numbered {other t} found := by
    split at found
    · cases found
    · exact s.numbered found

def happen (s : SharedClock) : Event → Checked (Answer × SharedClock)
  | .create =>
      let (t, c) := ClockTimer.new s.clock
      .ok (.done, s.put t c)
  | .arm id ns => do
      let (t, c) ← (← s.get id).arm s.clock ns
      return (.done, s.put t c)
  | .clear id => do
      let (t, c) := (← s.get id).clear s.clock
      return (.done, s.put t c)
  | .wait id => do
      let (adjusted, t) := (← s.get id).markWaited s.clock
      return (.waited adjusted, s.put t s.clock)
  | .drop id => do
      let t ← s.get id
      return (.done, s.remove id (t.drop s.clock))
  | .advance ns => do
      let (timers, c) ← s.clock.advance ns
      return (.ran timers, { s with clock := c })

def run (s : SharedClock) : List Event → Checked (List Entry × SharedClock)
  | [] => .ok ([], s)
  | e :: rest => do
      let (answer, s) ← s.happen e
      let (later, s) ← s.run rest
      return (⟨e, answer⟩ :: later, s)

-- In nanoseconds.
def now (s : SharedClock) : Nat := s.clock.now.toNat

-- The deadline that a timer has not forgotten, if any.
def remembered (s : SharedClock) (id : Nat) : List Nat :=
  ((s.timer? id).bind (·.due)).toList.map (·.toNat)

-- What an event does, by its answer and by what is left of the deadlines.
structure Step (s : SharedClock) (e : Event) (answer : Answer) (s' : SharedClock) : Prop where
  now : s'.now = s.now + e.passes
  registry : s'.clock.registry = (s.clock.registry.filter fun d =>
    e.ends d.1 = false ∧ ¬ (e.advances ∧ d.2 ≤ s'.now)) ++ e.arms s.now
  remembered : ∀ id, s'.remembered id = ((s.remembered id).filter fun due =>
    e.ends id = false ∧ ¬ (e.waits id ∧ due ≤ s'.now)) ++
      ((e.arms s.now).filter (·.1 = id)).map (·.2)
  callbacks : answer.callbacks =
    (s.clock.registry.filter fun d => e.advances ∧ d.2 ≤ s'.now).map (·.1)
  waited : ∀ id, e.waits id → ∃ adjusted, answer = .waited adjusted ∧
    (adjusted = false ↔ ∃ due ∈ s.remembered id, due ≤ s.now)
  made : s'.clock.registered = s.clock.registered + [e].count .create
  present : ∀ id, (s'.timer? id).isSome ↔
    ((s.timer? id).isSome ∨ e = .create ∧ id = s.clock.registered + 1) ∧ e ≠ .drop id

variable {s s' : SharedClock} {t t' : ClockTimer} {c : Clock} {id ns : Nat} {e : Event}

theorem happen_advance {ns : UInt64} {fired : List Nat}
    (moved : s.clock.advance ns = .ok (fired, c)) :
    s.happen (.advance ns) = .ok (.ran fired, { s with clock := c }) := by
  simp only [happen, bind, Except.bind, moved]
  rfl

theorem run_cons {answer : Answer} {rest : List Event} {later : List Entry} {s₁ : SharedClock}
    (happened : s.happen e = .ok (answer, s₁)) (ran : s₁.run rest = .ok (later, s')) :
    s.run (e :: rest) = .ok (⟨e, answer⟩ :: later, s') := by
  simp only [run, happened, ran, bind, Except.bind]
  rfl

theorem get_eq (found : s.timer? id = some t) : s.get id = .ok t := by
  unfold get
  rw [found]

@[simp] theorem clock_put (s : SharedClock) (t : ClockTimer) (c : Clock) :
    (s.put t c).clock = c := rfl

@[simp] theorem clock_remove (s : SharedClock) (id : Nat) (c : Clock) :
    (s.remove id c).clock = c := rfl

theorem remembered_found (found : s.timer? id = some t) :
    s.remembered id = t.due.toList.map (·.toNat) := by
  unfold remembered
  rw [found]
  rfl

theorem remembered_put (s : SharedClock) (t : ClockTimer) (c : Clock) (id : Nat) :
    (s.put t c).remembered id =
      if id = t.id then t.due.toList.map (·.toNat) else s.remembered id := by
  by_cases own : id = t.id <;> simp [remembered, put, own]

theorem remembered_remove (s : SharedClock) (id : Nat) (c : Clock) (other : Nat) :
    (s.remove id c).remembered other = if other = id then [] else s.remembered other := by
  by_cases own : other = id <;> simp [remembered, remove, own]

theorem present_put (found : s.timer? t.id = some t') (id : Nat) :
    ((s.put t c).timer? id).isSome ↔ (s.timer? id).isSome := by
  by_cases own : id = t.id
  · simp [put, own, found]
  · simp [put, own]

-- Arming sets the deadline in both places.
theorem arm_eq (t : ClockTimer) (small : c.now.toNat + ns < UInt64.size) :
    ∃ due : UInt64, due.toNat = c.now.toNat + ns ∧
      t.arm c ns = .ok ({ t with due := some due }, c.add t.id due) := by
  have word : (UInt64.ofNat ns).toNat = ns := UInt64.toNat_ofNat_of_lt' (by omega)
  refine ⟨c.now + UInt64.ofNat ns, ?_, ?_⟩
  · rw [UInt64.toNat_add, word]
    exact Nat.mod_eq_of_lt small
  · unfold ClockTimer.arm Checked.add
    rw [word, if_pos small]
    rfl

-- A deadline is forgotten by who has waited for it.
theorem markWaited_eq (t : ClockTimer) (c : Clock) :
    t.markWaited c = (!t.due.any (· ≤ c.now), { t with due := t.due.filter (c.now < ·) }) := by
  obtain ⟨id, due⟩ := t
  unfold ClockTimer.markWaited
  cases due with
  | none => rfl
  | some due =>
      by_cases come : due ≤ c.now
      · simp [come, Option.filter, UInt64.not_lt.mpr come]
      · simp [come, Option.filter, UInt64.not_le.mp come]

theorem create_step (fresh : s.timer? (s.clock.registered + 1) = none) :
    ∃ answer s', s.happen .create = .ok (answer, s') ∧ s.Step .create answer s' := by
  have unset : s.remembered (s.clock.registered + 1) = [] := by
    unfold remembered
    rw [fresh]
    rfl
  refine ⟨.done, s.put ⟨s.clock.registered + 1, none⟩ s.clock.register.2, rfl,
    rfl, ?registry, ?remembered, ?callbacks, nofun, rfl, ?present⟩
  case registry =>
    change s.clock.registry = _
    simp [Event.ends, Event.advances, Event.arms, List.filter_true]
  case remembered =>
    intro id
    rw [remembered_put]
    split
    · subst id
      simp [unset, Event.arms]
    · simp [Event.ends, Event.waits, Event.arms, List.filter_true]
  case callbacks => simp [Answer.callbacks, Event.advances]
  case present =>
    intro id
    by_cases new : id = s.clock.registered + 1 <;> simp [put, new]

-- A timer that is armed, cleared or dropped loses the deadline it had, in both places at once.
theorem ending_step (kind : (∃ ns, e = .arm id ns) ∨ e = .clear id ∨ e = .drop id)
    (now : s'.clock.now = s.clock.now)
    (registry : s'.clock.registry = s.clock.registry.filter (·.1 ≠ id) ++ e.arms s.now)
    (own : s'.remembered id = (e.arms s.now).map (·.2))
    (others : ∀ other, other ≠ id → s'.remembered other = s.remembered other)
    (made : s'.clock.registered = s.clock.registered)
    (present : ∀ id, (s'.timer? id).isSome ↔ (s.timer? id).isSome ∧ e ≠ .drop id) :
    s.Step e .done s' := by
  have ends (other : Nat) : e.ends other = decide (id = other) := by
    rcases kind with ⟨ns, rfl⟩ | rfl | rfl <;> rfl
  have still : e.passes = 0 ∧ e.advances = false ∧ e ≠ .create ∧ ∀ id, e.waits id = false := by
    rcases kind with ⟨ns, rfl⟩ | rfl | rfl <;> exact ⟨rfl, rfl, nofun, fun _ => rfl⟩
  have alone (other : Nat) : (e.arms s.now).filter (·.1 = other) =
      if other = id then e.arms s.now else [] := by
    rcases kind with ⟨ns, rfl⟩ | rfl | rfl
    · by_cases same : other = id <;> simp [Event.arms, same, eq_comm]
    · simp [Event.arms]
    · simp [Event.arms]
  obtain ⟨passes, advances, other, waits⟩ := still
  refine ⟨?now, ?registry, ?remembered, ?callbacks, ?waited, ?made, ?present⟩
  case now =>
    rw [passes]
    exact congrArg UInt64.toNat now
  case registry =>
    rw [registry]
    simp [ends, advances, eq_comm]
  case remembered =>
    intro id'
    rw [alone, ends]
    by_cases same : id' = id
    · rw [if_pos same, same, own]
      simp
    · rw [if_neg same, others id' same]
      simp [waits, Ne.symm same, List.filter_true]
  case callbacks => simp [Answer.callbacks, advances]
  case waited =>
    intro id' waiting
    cases (waits id').symm.trans waiting
  case made => simp [made, other]
  case present => simp [present, other]

theorem arm_step (found : s.timer? id = some t) (small : s.now + ns < UInt64.size) :
    ∃ answer s', s.happen (.arm id ns) = .ok (answer, s') ∧ s.Step (.arm id ns) answer s' := by
  obtain ⟨due, same, armed⟩ := arm_eq t small
  cases s.numbered found
  let t' : ClockTimer := { t with due := some due }
  refine ⟨.done, s.put t' (s.clock.add t.id due), ?_,
    ending_step (.inl ⟨ns, rfl⟩) rfl ?registry ?own (fun other apart => ?others) rfl
      fun other => ?present⟩
  · simp only [happen, get_eq found, bind, Except.bind, armed]
    rfl
  case registry =>
    rw [clock_put, Clock.registry_add, same]
    rfl
  case own =>
    rw [remembered_put, if_pos rfl]
    exact congrArg (fun due => [due]) same
  case others => rw [remembered_put, if_neg apart]
  case present => simp [present_put (t := t') found]

theorem clear_step (found : s.timer? id = some t) :
    ∃ answer s', s.happen (.clear id) = .ok (answer, s') ∧ s.Step (.clear id) answer s' := by
  cases s.numbered found
  let t' : ClockTimer := { t with due := none }
  refine ⟨.done, s.put t' (s.clock.remove t.id), ?_,
    ending_step (.inr (.inl rfl)) rfl ?registry ?own (fun other apart => ?others) rfl
      fun other => ?present⟩
  · simp only [happen, get_eq found, bind, Except.bind]
    rfl
  case registry =>
    rw [clock_put, Clock.registry_remove]
    exact (List.append_nil _).symm
  case own =>
    rw [remembered_put, if_pos rfl]
    rfl
  case others => rw [remembered_put, if_neg apart]
  case present => simp [present_put (t := t') found]

theorem drop_step (found : s.timer? id = some t) :
    ∃ answer s', s.happen (.drop id) = .ok (answer, s') ∧ s.Step (.drop id) answer s' := by
  cases s.numbered found
  refine ⟨.done, s.remove t.id (s.clock.remove t.id), ?_,
    ending_step (.inr (.inr rfl)) rfl ?registry ?own (fun other apart => ?others) rfl
      fun other => ?present⟩
  · simp only [happen, get_eq found, bind, Except.bind]
    rfl
  case registry =>
    rw [clock_remove, Clock.registry_remove]
    exact (List.append_nil _).symm
  case own =>
    rw [remembered_remove, if_pos rfl]
    rfl
  case others => rw [remembered_remove, if_neg apart]
  case present =>
    by_cases own : other = t.id
    · simp [remove, own]
    · simp [remove, own, Ne.symm own]

theorem wait_step (found : s.timer? id = some t) :
    ∃ answer s', s.happen (.wait id) = .ok (answer, s') ∧ s.Step (.wait id) answer s' := by
  cases s.numbered found
  refine ⟨.waited (!t.due.any (· ≤ s.clock.now)),
    s.put { t with due := t.due.filter (s.clock.now < ·) } s.clock, ?_,
    rfl, ?registry, ?remembered, ?callbacks, ?waited, rfl, ?present⟩
  · simp only [happen, get_eq found, bind, Except.bind, markWaited_eq]
    rfl
  case registry => simp [Event.ends, Event.advances, Event.arms, List.filter_true]
  case remembered =>
    intro id
    rw [remembered_put]
    split
    · subst id
      have still : (s.put { t with due := t.due.filter (s.clock.now < ·) } s.clock).now =
        s.clock.now.toNat := rfl
      rw [remembered_found found, Option.toList_filter, List.filter_map, still]
      simp [Event.ends, Event.waits, Event.arms, UInt64.lt_iff_toNat_lt, Function.comp_def]
    · rename_i apart
      simp [Event.ends, Event.waits, Event.arms, Ne.symm apart, List.filter_true]
  case callbacks => simp [Answer.callbacks, Event.advances]
  case waited =>
    intro id own
    cases of_decide_eq_true own
    refine ⟨_, rfl, ?_⟩
    rw [remembered_found found]
    cases t.due with
    | none => simp
    | some due => simp [now, UInt64.le_iff_toNat_le]
  case present =>
    simp [present_put (t := { t with due := t.due.filter (s.clock.now < ·) }) found]

theorem advance_step (s : SharedClock) {ns : UInt64} (small : s.now + ns.toNat < UInt64.size) :
    ∃ answer s', s.happen (.advance ns) = .ok (answer, s') ∧ s.Step (.advance ns) answer s' := by
  obtain ⟨fired, c, moved⟩ := Clock.advance_exists small
  obtain ⟨out, left⟩ := Clock.registry_advance moved
  refine ⟨.ran fired, { s with clock := c }, happen_advance moved, (Clock.advance_parts moved).1,
    ?registry, ?remembered, ?callbacks, nofun, Clock.registered_advance moved, ?present⟩
  case registry =>
    change c.registry = _
    rw [left]
    simp [Event.ends, Event.advances, Event.arms, now]
  case remembered =>
    intro id
    change s.remembered id = _
    simp [Event.ends, Event.waits, Event.arms, List.filter_true]
  case callbacks =>
    change fired = _
    rw [out]
    simp [Event.advances, now]
  case present => simp

end SharedClock

end VmMonitor
