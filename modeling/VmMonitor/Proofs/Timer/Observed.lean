import VmMonitor.Timer.Virtual

/-!
A timer on pretend time whose calls are on record, and what the record says about the expiry that is
still to come. The record is kept beside the timer, which knows nothing of it.
-/

namespace VmMonitor

-- What a call on a timer came to.
inductive TimerNote where
  -- Armed for this time, in whole nanoseconds.
  | armed (due : Nat)
  | cleared
  -- An expiry was waited for at this time, and it counted.
  | consumed (now : UInt64)
  -- One that did not count.
  | stale
  deriving DecidableEq, Repr

namespace TimerNote

-- When the most recent arming is due, unless it was cleared or consumed since. The newest note
-- comes first.
def outstanding : List TimerNote → Option Nat
  | [] => none
  | .armed due :: _ => some due
  | .cleared :: _ => none
  | .consumed _ :: _ => none
  | .stale :: earlier => outstanding earlier

-- No sum of nanoseconds left 64 bits.
def Bounded (log : List TimerNote) : Prop := ∀ due, .armed due ∈ log → due < UInt64.size

theorem outstanding_mem {log : List TimerNote} {due : Nat} (left : outstanding log = some due) :
    .armed due ∈ log := by
  induction log with
  | nil => cases left
  | cons note earlier ih =>
      cases note with
      | armed other =>
          cases left
          exact List.mem_cons_self
      | cleared => cases left
      | consumed now => cases left
      | stale => exact List.mem_cons_of_mem _ (ih left)

-- An expiry is only consumed while one is outstanding that the time has come for.
def Warranted (log : List TimerNote) : Prop :=
  ∀ later now earlier, log = later ++ .consumed now :: earlier →
    ∃ due, outstanding earlier = some due ∧ UInt64.ofNat due ≤ now

theorem warranted_nil : Warranted [] := by
  intro later now earlier same
  cases later <;> cases same

theorem Warranted.cons {note : TimerNote} {log : List TimerNote} (warranted : Warranted log)
    (fits : ∀ now, note = .consumed now →
      ∃ due, outstanding log = some due ∧ UInt64.ofNat due ≤ now) : Warranted (note :: log) := by
  intro later now earlier same
  cases later with
  | nil =>
      cases same
      exact fits now rfl
  | cons first rest =>
      cases same
      exact warranted rest now earlier rfl

-- Between two expiries that were consumed the timer was armed.
theorem outstanding_armed {later log : List TimerNote} {due : Nat}
    (left : outstanding (later ++ log) = some due) (none : outstanding log = none) :
    .armed due ∈ later := by
  induction later with
  | nil =>
      rw [List.nil_append, none] at left
      cases left
  | cons note rest ih =>
      cases note with
      | armed other =>
          cases left
          exact List.mem_cons_self
      | cleared => cases left
      | consumed now => cases left
      | stale => exact List.mem_cons_of_mem _ (ih left)

end TimerNote

open TimerNote

structure ObservedTimer where
  inner : SimulatedTimer
  log : List TimerNote

namespace ObservedTimer

instance : HostTimer ObservedTimer where
  arm t ns := do
    return (.ok (), ⟨← t.inner.arm ns, .armed (t.inner.clock.now.toNat + ns) :: t.log⟩)
  markWaited t :=
    let (adjusted, inner) := t.inner.markWaited
    (.ok adjusted, ⟨inner, (if adjusted then .stale else .consumed t.inner.clock.now) :: t.log⟩)
  clear t := (.ok (), ⟨t.inner.clear, .cleared :: t.log⟩)

instance : ClockDriven ObservedTimer where
  advance t ns := do
    let (fired, inner) ← t.inner.advance ns
    return (fired, { t with inner := inner })

def now (t : ObservedTimer) : UInt64 := t.inner.clock.now

def outstanding (t : ObservedTimer) : Option Nat := TimerNote.outstanding t.log

-- The deadline of the timer is registered with the clock.
def Registered (t : ObservedTimer) (due : UInt64) : Prop :=
  ⟨t.inner.timer.id, due⟩ ∈ t.inner.clock.deadlines

end ObservedTimer

-- The new time, what has run out by then and what is still to come.
theorem Clock.advance_parts {c c' : Clock} {ns : UInt64} {fired : List Nat}
    (done : c.advance ns = .ok (fired, c')) :
    c'.now.toNat = c.now.toNat + ns.toNat ∧
      fired = (c.deadlines.filter fun d => d.due ≤ c'.now).map (·.timer) ∧
      c'.deadlines = c.deadlines.filter fun d => c'.now < d.due := by
  unfold advance at done
  obtain ⟨now, sum, done⟩ := Checked.bind_eq_ok.mp done
  cases done
  obtain ⟨small, rfl⟩ := Checked.add_eq_ok.mp sum
  refine ⟨?_, rfl, rfl⟩
  change (c.now + ns).toNat = _
  rw [UInt64.toNat_add, Nat.mod_eq_of_lt small]

-- What arming does to the timer and to its clock.
theorem SimulatedTimer.arm_eq (t : SimulatedTimer) (ns : Nat) :
    t.arm ns = (Checked.add t.clock.now (UInt64.ofNat ns)).map fun due =>
      ⟨{ t.timer with due := some due }, t.clock.add t.timer.id due⟩ := by
  unfold arm ClockTimer.arm
  cases Checked.add t.clock.now (UInt64.ofNat ns) <;> rfl

theorem SimulatedTimer.arm_parts {t t' : SimulatedTimer} {ns : Nat} (done : t.arm ns = .ok t') :
    t' = ⟨{ t.timer with due := some (t.clock.now + UInt64.ofNat ns) },
      t.clock.add t.timer.id (t.clock.now + UInt64.ofNat ns)⟩ := by
  rw [arm_eq] at done
  obtain ⟨due, sum, rfl⟩ := Checked.map_eq_ok.mp done
  rw [(Checked.add_eq_ok.mp sum).2]

-- A virtual timer and its record agree on what is outstanding.
structure Recorded (t : VirtualTimer ObservedTimer) : Prop where
  due : t.host.inner.timer.due = t.host.outstanding.map UInt64.ofNat
  armed : t.armedAt.isSome = t.host.outstanding.isSome
  warranted : Warranted t.host.log

namespace VirtualTimer

variable {t t' : VirtualTimer ObservedTimer} {regs : TimerRegisters} {gic gic' : Gic}
  {answer : Except TimerError Unit}

-- Cancelling succeeds, and nothing is outstanding then.
theorem cancel_recorded (recorded : Recorded t) :
    t.cancel.1 = .ok () ∧ Recorded t.cancel.2 ∧ t.cancel.2.host.outstanding = none :=
  ⟨rfl, ⟨rfl, rfl, recorded.warranted.cons nofun⟩, rfl⟩

-- Scheduling leaves the timer alone, or arms it.
theorem schedule_recorded (recorded : Recorded t)
    (done : t.schedule regs gic = .ok (answer, t', gic')) :
    answer = .ok () ∧ (t' = t ∨ Recorded t' ∧
      ∀ due, t'.host.inner.timer.due = some due → t'.host.Registered due) := by
  unfold schedule at done
  split at done
  · cases done
    exact ⟨rfl, .inl rfl⟩
  split at done
  · cases done
    exact ⟨rfl, .inl rfl⟩
  obtain ⟨micros, _, done⟩ := Checked.bind_eq_ok.mp done
  obtain ⟨⟨armed, host⟩, called, done⟩ := Checked.bind_eq_ok.mp done
  obtain ⟨inner, ran, called⟩ := Checked.bind_eq_ok.mp called
  cases called
  cases done
  cases SimulatedTimer.arm_parts ran
  refine ⟨rfl, .inr ⟨⟨?_, rfl, recorded.warranted.cons nofun⟩, ?_⟩⟩
  · change some _ = some (UInt64.ofNat (_ + _))
    rw [UInt64.ofNat_add, UInt64.ofNat_toNat]
  · intro due set
    cases set
    exact List.mem_append_right _ List.mem_cons_self

-- An expiry counts if the time of what is outstanding has come, and then nothing is outstanding any
-- more. One that does not count leaves the guest and the controller alone.
theorem handleTimeout_recorded (recorded : Recorded t) (regs : TimerRegisters) (gic : Gic) :
    (∃ due, t.host.outstanding = some due ∧ UInt64.ofNat due ≤ t.host.now ∧
      (t.handleTimeout regs gic).1 = .ok true ∧ Recorded (t.handleTimeout regs gic).2.1 ∧
      (t.handleTimeout regs gic).2.1.host.outstanding = none) ∨
    ((∀ due, t.host.outstanding = some due → ¬ UInt64.ofNat due ≤ t.host.now) ∧
      t.handleTimeout regs gic = (.ok false,
        { t with host := { t.host with log := .stale :: t.host.log } }, regs, gic)) := by
  obtain ⟨⟨⟨timer, clock⟩, log⟩, ticks, armedAt⟩ := t
  obtain ⟨due, armed, warranted⟩ := recorded
  dsimp only at due armed warranted
  cases left : TimerNote.outstanding log with
  | none =>
      refine .inr ⟨?_, ?_⟩
      · intro d some
        cases left.symm.trans some
      · have unset : timer.due = none := by
          rw [due]
          exact congrArg (Option.map UInt64.ofNat) left
        simp [handleTimeout, HostTimer.markWaited, SimulatedTimer.markWaited,
          ClockTimer.markWaited, unset]
  | some d =>
      have set : timer.due = some (UInt64.ofNat d) := by
        rw [due]
        exact congrArg (Option.map UInt64.ofNat) left
      have waits : armedAt.isSome = true := armed.trans (congrArg Option.isSome left)
      obtain ⟨count, rfl⟩ := Option.isSome_iff_exists.mp waits
      by_cases come : UInt64.ofNat d ≤ clock.now
      · refine .inl ⟨d, left, come, ?_, ?_, ?_⟩
        · simp [handleTimeout, HostTimer.markWaited, SimulatedTimer.markWaited,
            ClockTimer.markWaited, set, come]
        · simp only [handleTimeout, HostTimer.markWaited, SimulatedTimer.markWaited,
            ClockTimer.markWaited, set, come, if_true]
          refine ⟨rfl, rfl, warranted.cons ?_⟩
          intro now same
          cases same
          exact ⟨d, left, come⟩
        · simp [handleTimeout, HostTimer.markWaited, SimulatedTimer.markWaited,
            ClockTimer.markWaited, set, come, ObservedTimer.outstanding, TimerNote.outstanding]
      · refine .inr ⟨?_, ?_⟩
        · intro other some
          cases left.symm.trans some
          exact come
        · simp [handleTimeout, HostTimer.markWaited, SimulatedTimer.markWaited,
            ClockTimer.markWaited, set, come]

theorem stale_recorded (recorded : Recorded t) :
    Recorded { t with host := { t.host with log := .stale :: t.host.log } } :=
  ⟨recorded.due, recorded.armed, recorded.warranted.cons nofun⟩

end VirtualTimer

-- As time passes, a deadline stays registered or runs out.
theorem ObservedTimer.advance_parts {t t' : ObservedTimer} {ns : UInt64} {fired : Nat}
    (done : ClockDriven.advance t ns = .ok (fired, t')) :
    t'.log = t.log ∧ t'.inner.timer = t.inner.timer ∧ t.now ≤ t'.now ∧
      ∀ due, t.Registered due → t'.Registered due ∨ due ≤ t'.now ∧ 0 < fired := by
  obtain ⟨⟨count, inner⟩, ran, done⟩ := Checked.bind_eq_ok.mp done
  cases done
  obtain ⟨⟨timers, clock⟩, moved, ran⟩ := Checked.bind_eq_ok.mp ran
  cases ran
  obtain ⟨now, out, left⟩ := Clock.advance_parts moved
  refine ⟨rfl, rfl, ?_, ?_⟩
  · change t.inner.clock.now ≤ clock.now
    rw [UInt64.le_iff_toNat_le, now]
    exact Nat.le_add_right ..
  · intro due registered
    by_cases come : due ≤ clock.now
    · refine .inr ⟨come, List.length_pos_iff_exists_mem.mpr ⟨t.inner.timer.id, ?_⟩⟩
      rw [out]
      refine List.mem_filter.mpr ⟨List.mem_map.mpr ⟨⟨_, due⟩, ?_, rfl⟩, decide_eq_true rfl⟩
      exact List.mem_filter.mpr ⟨registered, decide_eq_true come⟩
    · refine .inl ?_
      change _ ∈ clock.deadlines
      rw [left]
      exact List.mem_filter.mpr ⟨registered, decide_eq_true (UInt64.not_le.mp come)⟩

end VmMonitor
