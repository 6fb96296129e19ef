import VmMonitor.Proofs.Timer.Observed

/-!
When an armed timer runs out. As the guest waits, pretend time passes in steps of any size, and other
timers on the clock come, are armed and go. A timer runs out in the first step that reaches its
deadline, and never again. The deadline is the one that the guest has asked for as long as it fits 64
bits of nanoseconds. A guest that asks for a later one ends the machine, or is woken too early.
-/

namespace VmMonitor

namespace Clock

-- What can happen to a clock.
inductive Event where
  | advance (ns : UInt64)
  | register
  | arm (timer : Nat) (due : UInt64)
  | clear (timer : Nat)
  deriving DecidableEq

def Event.Arms (id : Nat) : Event → Prop
  | arm timer _ => timer = id
  | _ => False

def Event.Clears (id : Nat) : Event → Prop
  | clear timer => timer = id
  | _ => False

-- A clock after it was advanced, and the timers that ran out.
structure Moment where
  now : UInt64
  fired : List Nat
  deriving DecidableEq

def happen (c : Clock) : Event → Checked (List Moment × Clock)
  | .advance ns => (c.advance ns).map fun r => ([⟨r.2.now, r.1⟩], r.2)
  | .register => .ok ([], c.register.2)
  | .arm timer due => .ok ([], c.add timer due)
  | .clear timer => .ok ([], c.remove timer)

def run (c : Clock) : List Event → Checked (List Moment × Clock)
  | [] => .ok ([], c)
  | e :: rest => do
      let (first, c) ← c.happen e
      let (later, c) ← c.run rest
      return (first ++ later, c)

-- The deadlines of one timer.
def own (c : Clock) (id : Nat) : List Deadline := c.deadlines.filter fun d => d.timer = id

variable {c c' : Clock} {id timer : Nat} {due ns : UInt64} {e : Event} {events : List Event}
  {fired : List Nat} {ms : List Moment} {d : Deadline}

theorem own_remove (c : Clock) (id : Nat) : (c.remove id).own id = [] := by
  simp [own, remove]

theorem own_remove_other (other : timer ≠ id) (c : Clock) : (c.remove timer).own id = c.own id := by
  unfold own remove
  rw [List.filter_filter]
  congr 1
  funext d
  by_cases same : d.timer = id
  · simp [same, other.symm]
  · simp [same]

theorem own_add (c : Clock) (id : Nat) (due : UInt64) : (c.add id due).own id = [⟨id, due⟩] := by
  have gone := own_remove c id
  unfold own at gone
  simp [own, add, gone]

theorem own_add_other (other : timer ≠ id) (c : Clock) (due : UInt64) :
    (c.add timer due).own id = c.own id := by
  have kept := own_remove_other other c
  unfold own at kept
  simp [own, add, kept, other]

theorem advance_eq (small : c.now.toNat + ns.toNat < UInt64.size) :
    c.advance ns = .ok ((c.deadlines.filter (·.due ≤ c.now + ns)).map (·.timer),
      { c with now := c.now + ns, deadlines := c.deadlines.filter (c.now + ns < ·.due) }) := by
  unfold advance Checked.add
  rw [if_pos small]
  rfl

theorem advance_exists (small : c.now.toNat + ns.toNat < UInt64.size) :
    ∃ fired c', c.advance ns = .ok (fired, c') :=
  ⟨_, _, advance_eq small⟩

theorem own_advance (done : c.advance ns = .ok (fired, c')) (id : Nat) :
    c'.own id = (c.own id).filter fun d => c'.now < d.due := by
  unfold own
  rw [(advance_parts done).2.2, List.filter_filter, List.filter_filter]
  congr 1
  funext d
  exact Bool.and_comm ..

-- A timer runs out once for each of its deadlines that is reached.
theorem count_fired (done : c.advance ns = .ok (fired, c')) (id : Nat) :
    fired.count id = ((c.own id).filter fun d => d.due ≤ c'.now).length := by
  rw [(advance_parts done).2.1]
  unfold own
  rw [List.count_eq_countP, List.countP_map, List.countP_filter, List.filter_filter,
    ← List.countP_eq_length_filter]
  congr 1
  funext d
  exact Bool.and_comm ..

-- What happens to one timer while nobody arms it: its deadlines only go, and it runs out for one of
-- them that is reached.

theorem happen_own (spared : ¬ e.Arms id) (done : c.happen e = .ok (ms, c')) :
    (∀ d ∈ c'.own id, d ∈ c.own id) ∧
      ∀ m ∈ ms, id ∈ m.fired → ∃ d ∈ c.own id, d.due ≤ m.now := by
  cases e with
  | advance ns =>
      obtain ⟨⟨fired, c''⟩, moved, done⟩ := Checked.map_eq_ok.mp done
      cases done
      refine ⟨?_, ?_⟩
      · intro d left
        rw [own_advance moved] at left
        exact (List.mem_filter.mp left).1
      · intro m present out
        cases List.mem_singleton.mp present
        have some := List.count_pos_iff.mpr out
        rw [count_fired moved] at some
        obtain ⟨d, reached⟩ := List.length_pos_iff_exists_mem.mp some
        obtain ⟨here, come⟩ := List.mem_filter.mp reached
        exact ⟨d, here, of_decide_eq_true come⟩
  | register =>
      cases done
      exact ⟨fun _ left => left, nofun⟩
  | arm timer due =>
      cases done
      rw [own_add_other spared]
      exact ⟨fun _ left => left, nofun⟩
  | clear timer =>
      cases done
      refine ⟨fun d left => ?_, nofun⟩
      by_cases same : timer = id
      · rw [same, own_remove] at left
        cases left
      · rwa [own_remove_other same] at left

theorem run_own (spared : ∀ e ∈ events, ¬ e.Arms id) (done : c.run events = .ok (ms, c')) :
    (∀ d ∈ c'.own id, d ∈ c.own id) ∧
      ∀ m ∈ ms, id ∈ m.fired → ∃ d ∈ c.own id, d.due ≤ m.now := by
  induction events generalizing c ms with
  | nil =>
      cases done
      exact ⟨fun _ left => left, nofun⟩
  | cons e rest ih =>
      obtain ⟨here, others⟩ := List.forall_mem_cons.mp spared
      obtain ⟨⟨first, c₁⟩, happened, done⟩ := Checked.bind_eq_ok.mp done
      obtain ⟨⟨later, c₂⟩, ran, done⟩ := Checked.bind_eq_ok.mp done
      cases done
      obtain ⟨shrunk, fires⟩ := happen_own here happened
      obtain ⟨rest_shrunk, rest_fires⟩ := ih others ran
      refine ⟨fun d left => shrunk d (rest_shrunk d left), ?_⟩
      intro m present out
      rcases List.mem_append.mp present with early | late
      · exact fires m early out
      · obtain ⟨d, left, come⟩ := rest_fires m late out
        exact ⟨d, shrunk d left, come⟩

-- A timer that nobody arms or clears keeps a deadline that is not reached.

theorem happen_waits (waits : c.own id = [d]) (spared : ¬ e.Arms id ∧ ¬ e.Clears id)
    (done : c.happen e = .ok (ms, c')) (ahead : ∀ m ∈ ms, m.now < d.due) : c'.own id = [d] := by
  cases e with
  | advance ns =>
      obtain ⟨⟨fired, c''⟩, moved, done⟩ := Checked.map_eq_ok.mp done
      cases done
      have ahead := ahead _ List.mem_cons_self
      rw [own_advance moved, waits]
      simpa using ahead
  | register =>
      cases done
      exact waits
  | arm timer due =>
      cases done
      rw [own_add_other spared.1, waits]
  | clear timer =>
      cases done
      rw [own_remove_other spared.2, waits]

theorem run_waits (waits : c.own id = [d]) (spared : ∀ e ∈ events, ¬ e.Arms id ∧ ¬ e.Clears id)
    (done : c.run events = .ok (ms, c')) (ahead : ∀ m ∈ ms, m.now < d.due) : c'.own id = [d] := by
  induction events generalizing c ms with
  | nil =>
      cases done
      exact waits
  | cons e rest ih =>
      obtain ⟨here, others⟩ := List.forall_mem_cons.mp spared
      obtain ⟨⟨first, c₁⟩, happened, done⟩ := Checked.bind_eq_ok.mp done
      obtain ⟨⟨later, c₂⟩, ran, done⟩ := Checked.bind_eq_ok.mp done
      cases done
      have kept := happen_waits waits here happened fun m present =>
        ahead m (List.mem_append_left _ present)
      exact ih kept others ran fun m present => ahead m (List.mem_append_right _ present)

-- A timer that runs out exactly when it is due, as long as nobody arms it anew: not before, in the
-- first step that gets there unless it was cleared, and only once.
structure Punctual (c : Clock) (id due : Nat) : Prop where
  early : ∀ events ms c', (∀ e ∈ events, ¬ e.Arms id) → c.run events = .ok (ms, c') →
    ∀ m ∈ ms, m.now.toNat < due → id ∉ m.fired
  once : ∀ before ms c₁ ns, (∀ e ∈ before, ¬ e.Arms id ∧ ¬ e.Clears id) →
    c.run before = .ok (ms, c₁) → (∀ m ∈ ms, m.now.toNat < due) →
    due ≤ c₁.now.toNat + ns.toNat → c₁.now.toNat + ns.toNat < UInt64.size →
    ∃ fired c₂, c₁.advance ns = .ok (fired, c₂) ∧ fired.count id = 1 ∧
      ∀ after ms' c₃, (∀ e ∈ after, ¬ e.Arms id) → c₂.run after = .ok (ms', c₃) →
        ∀ m ∈ ms', id ∉ m.fired

theorem waits_punctual (waits : c.own id = [⟨id, due⟩]) : c.Punctual id due.toNat where
  early events ms c' spared done m present before out := by
    obtain ⟨d, here, come⟩ := (run_own spared done).2 m present out
    rw [waits] at here
    cases List.mem_singleton.mp here
    exact absurd (UInt64.le_iff_toNat_le.mp come) (Nat.not_le.mpr before)
  once before ms c₁ ns spared done ahead come small := by
    obtain ⟨fired, c₂, moved⟩ := advance_exists small
    have kept := run_waits waits spared done fun m present =>
      UInt64.lt_iff_toNat_lt.mpr (ahead m present)
    have come : due ≤ c₂.now := by
      rw [UInt64.le_iff_toNat_le, (advance_parts moved).1]
      exact come
    refine ⟨fired, c₂, moved, ?_, ?_⟩
    · rw [count_fired moved, kept]
      simp [come]
    · have none : c₂.own id = [] := by
        rw [own_advance moved, kept]
        simpa using come
      intro after ms' c₃ spared done m present out
      obtain ⟨d, here, _⟩ := (run_own spared done).2 m present out
      rw [none] at here
      cases here

end Clock

namespace VirtualTimer

variable {t : VirtualTimer SimulatedTimer} {regs : TimerRegisters}

theorem ticksLeft_toNat (regs : TimerRegisters) :
    (ticksLeft regs).toNat = regs.compare.toNat - regs.count.toNat := by
  unfold ticksLeft
  split
  · rename_i ahead
    exact UInt64.toNat_sub_of_le _ _ ahead
  · rename_i past
    have less := UInt64.lt_iff_toNat_lt.mp (UInt64.not_le.mp past)
    rw [Nat.sub_eq_zero_of_le (Nat.le_of_lt less)]
    rfl

-- The timer as it was armed for this time.
def armedFor (t : VirtualTimer SimulatedTimer) (regs : TimerRegisters) (due : UInt64) :
    VirtualTimer SimulatedTimer :=
  { t with
    host := ⟨{ t.host.timer with due := some due }, t.host.clock.add t.host.timer.id due⟩
    armedAt := some regs.count }

theorem armedFor_punctual (t : VirtualTimer SimulatedTimer) (regs : TimerRegisters) (due : UInt64) :
    (t.armedFor regs due).host.clock.Punctual t.host.timer.id due.toNat :=
  Clock.waits_punctual (Clock.own_add ..)

-- The milliseconds that the guest has to wait.
def wait (t : VirtualTimer SimulatedTimer) (regs : TimerRegisters) : Nat :=
  (regs.compare.toNat - regs.count.toNat) / t.ticksPerMs.toNat

theorem ticksToMicros_ticksLeft (t : VirtualTimer SimulatedTimer) (regs : TimerRegisters) :
    t.ticksToMicros (ticksLeft regs) =
      if t.wait regs * 1000 < UInt64.size then .ok (UInt64.ofNat (t.wait regs * 1000))
      else .error .overflow := by
  have ticks : (ticksLeft regs / t.ticksPerMs).toNat = t.wait regs := by
    rw [UInt64.toNat_div, ticksLeft_toNat]
    rfl
  have word : ticksLeft regs / t.ticksPerMs * 1000 = UInt64.ofNat (t.wait regs * 1000) := by
    rw [← ticks, UInt64.ofNat_mul, UInt64.ofNat_toNat]
    rfl
  unfold ticksToMicros Checked.mul
  change (if (ticksLeft regs / t.ticksPerMs).toNat * 1000 < UInt64.size then _ else _) = _
  rw [ticks, word]

theorem schedule_far (enabled : enabled regs = true) (unmet : met regs = false)
    (large : UInt64.size ≤ t.wait regs * 1000) (gic : Gic) :
    t.schedule regs gic = .error .overflow := by
  unfold schedule
  rw [ticksToMicros_ticksLeft, if_neg (Nat.not_lt.mpr large)]
  simp [enabled, unmet, bind, Except.bind]

theorem schedule_near (enabled : enabled regs = true) (unmet : met regs = false)
    (small : t.wait regs * 1000 < UInt64.size) (gic : Gic) :
    t.schedule regs gic =
      (Checked.add t.host.clock.now (UInt64.ofNat (t.wait regs * 1000000))).map fun due =>
        (.ok (), t.armedFor regs due, gic) := by
  have micros : (UInt64.ofNat (t.wait regs * 1000)).toNat * 1000 = t.wait regs * 1000000 := by
    rw [UInt64.toNat_ofNat_of_lt' small]
    omega
  unfold schedule
  rw [ticksToMicros_ticksLeft, if_pos small, unmet, enabled]
  change (HostTimer.arm t.host ((UInt64.ofNat (t.wait regs * 1000)).toNat * 1000) >>= _) = _
  rw [micros]
  change ((t.host.arm (t.wait regs * 1000000) >>= _) >>= _) = _
  rw [SimulatedTimer.arm_eq]
  cases Checked.add t.host.clock.now (UInt64.ofNat (t.wait regs * 1000000)) <;> rfl

theorem new_parts {host : SimulatedTimer} {hertz : UInt64} {gic gic' : Gic}
    {fresh : VirtualTimer SimulatedTimer} (built : new host hertz gic = .ok (fresh, gic')) :
    fresh.ticksPerMs = hertz / 1000 := by
  unfold new at built
  dsimp only at built
  split at built <;> cases built
  rfl

-- What scheduling comes to for a guest that has to wait so long. Where the time does not fit, there
-- is a fault, or what is left of the time counts.
structure Scheduled (t : VirtualTimer SimulatedTimer) (regs : TimerRegisters) (gic : Gic)
    (ms : Nat) : Prop where
  timely : t.host.clock.now.toNat + ms * 1000000 < UInt64.size →
    ∃ t', t.schedule regs gic = .ok (.ok (), t', gic) ∧ t'.armedAt = some regs.count ∧
      t'.host.clock.now = t.host.clock.now ∧
      t'.host.clock.Punctual t.host.timer.id (t.host.clock.now.toNat + ms * 1000000)
  overflow : UInt64.size ≤ ms * 1000 ∨
    UInt64.size ≤ t.host.clock.now.toNat + ms * 1000000 % UInt64.size →
    t.schedule regs gic = .error .overflow
  wrapped : UInt64.size ≤ ms * 1000000 → ms * 1000 < UInt64.size →
    t.host.clock.now.toNat + ms * 1000000 % UInt64.size < UInt64.size →
    ∃ t', t.schedule regs gic = .ok (.ok (), t', gic) ∧
      t'.host.clock.Punctual t.host.timer.id
        (t.host.clock.now.toNat + ms * 1000000 % UInt64.size)

theorem schedule_armed (enabled : enabled regs = true) (unmet : met regs = false)
    (small : t.wait regs * 1000 < UInt64.size)
    (sum : t.host.clock.now.toNat + t.wait regs * 1000000 % UInt64.size < UInt64.size) (gic : Gic) :
    ∃ due : UInt64, due.toNat = t.host.clock.now.toNat + t.wait regs * 1000000 % UInt64.size ∧
      t.schedule regs gic = .ok (.ok (), t.armedFor regs due, gic) := by
  have word : (UInt64.ofNat (t.wait regs * 1000000)).toNat = t.wait regs * 1000000 % UInt64.size :=
    UInt64.toNat_ofNat'
  refine ⟨t.host.clock.now + UInt64.ofNat (t.wait regs * 1000000), ?_, ?_⟩
  · rw [UInt64.toNat_add, word]
    exact Nat.mod_eq_of_lt sum
  · rw [schedule_near enabled unmet small, Checked.add, if_pos (by rw [word]; exact sum)]
    rfl

theorem schedule_punctual {host : SimulatedTimer} {hertz : UInt64} {gic₀ gic₁ : Gic}
    {fresh : VirtualTimer SimulatedTimer} (built : new host hertz gic₀ = .ok (fresh, gic₁))
    (same : t.ticksPerMs = fresh.ticksPerMs) (enabled : enabled regs = true)
    (unmet : met regs = false) (gic : Gic) :
    Scheduled t regs gic
      ((regs.compare.toNat - regs.count.toNat) / (hertz.toNat / 1000)) := by
  have waits : (regs.compare.toNat - regs.count.toNat) / (hertz.toNat / 1000) = t.wait regs := by
    unfold wait
    rw [same, new_parts built, UInt64.toNat_div]
    rfl
  rw [waits]
  refine ⟨?_, ?_, ?_⟩
  · intro fits
    have whole : t.wait regs * 1000000 % UInt64.size = t.wait regs * 1000000 :=
      Nat.mod_eq_of_lt (by omega)
    have small : t.wait regs * 1000 < UInt64.size := by omega
    have sum : t.host.clock.now.toNat + t.wait regs * 1000000 % UInt64.size < UInt64.size := by
      rw [whole]
      exact fits
    obtain ⟨due, at_, done⟩ := schedule_armed enabled unmet small sum gic
    have punctual := armedFor_punctual t regs due
    rw [at_, whole] at punctual
    exact ⟨_, done, rfl, rfl, punctual⟩
  · intro large
    by_cases small : t.wait regs * 1000 < UInt64.size
    · have far : ¬ t.host.clock.now.toNat +
          (UInt64.ofNat (t.wait regs * 1000000)).toNat < UInt64.size := by
        rw [UInt64.toNat_ofNat']
        change ¬ _ + t.wait regs * 1000000 % UInt64.size < _
        omega
      rw [schedule_near enabled unmet small, Checked.add, if_neg far]
      rfl
    · exact schedule_far enabled unmet (Nat.not_lt.mp small) gic
  · intro _ small sum
    obtain ⟨due, at_, done⟩ := schedule_armed enabled unmet small sum gic
    have punctual := armedFor_punctual t regs due
    rw [at_] at punctual
    exact ⟨_, done, punctual⟩

-- Three milliseconds at 62.5 MHz. A timer that comes to the clock meanwhile makes no difference.
theorem schedule_punctual_three :
    let t : VirtualTimer SimulatedTimer := ⟨.new, 62500, none⟩
    let regs : TimerRegisters := ⟨timerEnable, 187500, 0, 62500000⟩
    ∃ gic t', new .new 62500000 .initial = .ok (t, gic) ∧ enabled regs = true ∧
      met regs = false ∧ Scheduled t regs gic 3 ∧ t.schedule regs gic = .ok (.ok (), t', gic) ∧
      (t'.host.clock.run [.advance 2999999, .register, .advance 1]).toOption =
        some ([⟨2999999, []⟩, ⟨3000000, [1]⟩], ⟨3000000, 2, []⟩) := by
  intro t regs
  let gic : Gic := Gic.initial.apply (.setHandler Gic.timerLine .timer)
  have on : enabled regs = true := by decide
  have unmet : met regs = false := by decide
  have built : new .new 62500000 .initial = .ok (t, gic) := rfl
  have scheduled := schedule_punctual (t := t) built rfl on unmet gic
  have three : (regs.compare.toNat - regs.count.toNat) / (UInt64.toNat 62500000 / 1000) = 3 := by
    decide
  rw [three] at scheduled
  obtain ⟨due, at_, done⟩ := schedule_armed (t := t) on unmet (by decide) (by decide) gic
  have due_eq : due = 3000000 := UInt64.toNat_inj.mp (at_.trans (by decide))
  subst due_eq
  exact ⟨gic, _, built, on, unmet, scheduled, done, by decide +kernel⟩

-- At 1 kHz the last compare value ends the machine, and for one that is far less the timer runs out
-- within the first millisecond of 18446744073710.
theorem schedule_wrapped :
    let t : VirtualTimer SimulatedTimer := ⟨.new, 1, none⟩
    (∃ gic, new .new 1000 .initial = .ok (t, gic)) ∧
      t.schedule ⟨timerEnable, 0xffffffffffffffff, 0, 1000⟩ .initial = .error .overflow ∧
      ∃ t', t.schedule ⟨timerEnable, 18446744073710, 0, 1000⟩ .initial =
          .ok (.ok (), t', .initial) ∧
        (t'.host.clock.advance 448384).toOption = some ([1], ⟨448384, 1, []⟩) := by
  intro t
  let regs : TimerRegisters := ⟨timerEnable, 18446744073710, 0, 1000⟩
  have on : enabled regs = true := by decide
  have unmet : met regs = false := by decide
  obtain ⟨due, at_, done⟩ := schedule_armed (t := t) on unmet (by decide) (by decide) .initial
  have soon : due = 448384 := UInt64.toNat_inj.mp (at_.trans (by decide))
  subst soon
  exact ⟨⟨_, rfl⟩, schedule_far (by decide) (by decide) (by decide) _, _, done, by decide +kernel⟩

end VirtualTimer

end VmMonitor
