import VmMonitor.Proofs.Bits
import VmMonitor.Proofs.Gic.Queued
import VmMonitor.Timer.Virtual

/-!
When the virtual timer interrupts the guest. Its line is raised for a timer that is on and not masked,
and by one call also for a timer that the guest has turned off: a wait looks at the status alone, and
the status outlasts the timer. This takes a guest that turns the timer off while its condition is
met. As long as the guest does not do that, no call raises the line unasked.
-/

namespace VmMonitor

namespace VirtualTimer

-- The guest wants to hear of its timer.
def wanted (regs : TimerRegisters) : Bool := enabled regs && !masked regs

def raisedIf (on : Bool) (gic : Gic) : Gic :=
  if on then gic.apply (.assert Gic.timerLine) else gic

-- The guest, its timer, and the controller that the two meet in.
structure Scene (τ : Type) where
  timer : VirtualTimer τ
  guest : VcpuState
  gic : Gic

inductive Event (τ : Type) where
  -- The guest waits for an interrupt.
  | wait
  | cancel
  -- An expiry of the host timer was delivered.
  | timeout
  -- The hardware timer interrupted the running guest.
  | interrupt
  -- The guest completed the timer interrupt.
  | completed
  -- The guest stores to a system register.
  | store (r : SysReg) (value : UInt64)
  -- The guest has run, and its count stands here now.
  | elapsed (count : UInt64)
  -- Anything may have become of the host timer and of the controller meanwhile.
  | meanwhile (host : τ) (gic : Gic)

namespace Scene

variable {τ : Type}

def regs (s : Scene τ) : TimerRegisters := s.guest.timer

-- The guest turns the timer off although its condition is met.
def Abandons (s : Scene τ) : Event τ → Prop
  | .store .cntvCtl value => met s.regs = true ∧ value &&& timerEnable = 0
  | _ => False

-- Only an enabled timer has its condition met.
def Attended (s : Scene τ) : Prop := met s.regs = true → enabled s.regs = true

variable [HostTimer τ]

def happen (s : Scene τ) : Event τ → Checked (Scene τ)
  | .wait => do
      let (_, timer, gic) ← s.timer.schedule s.regs s.gic
      return { s with timer := timer, gic := gic }
  | .cancel => .ok { s with timer := s.timer.cancel.2 }
  | .timeout =>
      let (_, timer, regs, gic) := s.timer.handleTimeout s.regs s.gic
      .ok ⟨timer, { s.guest with timer := regs }, gic⟩
  | .interrupt =>
      let (regs, gic) := handleIrq s.regs s.gic
      .ok ⟨s.timer, { s.guest with timer := regs }, gic⟩
  | .completed => .ok { s with guest := { s.guest with timer := endOfInterrupt s.regs } }
  | .store r value => .ok (if r.writeable then { s with guest := r.write s.guest value } else s)
  | .elapsed count =>
      .ok { s with guest := { s.guest with timer := { s.regs with count := count } } }
  | .meanwhile host gic => .ok { s with timer := { s.timer with host := host }, gic := gic }

def run (s : Scene τ) : List (Event τ) → Checked (Scene τ)
  | [] => .ok s
  | e :: rest => do (← s.happen e).run rest

-- The guest turns its timer off only while the condition is not met.
def Careful (s : Scene τ) : List (Event τ) → Prop
  | [] => True
  | e :: rest => ¬ s.Abandons e ∧ ∀ s', s.happen e = .ok s' → s'.Careful rest

-- What each of the three calls does to the controller: it raises the line or leaves all as it is.
-- A wait raises it under the condition `atOnce`, and the other two if the guest wants it.
structure Interrupts (s : Scene τ) (atOnce : Bool) : Prop where
  wait : ∀ answer timer gic, s.timer.schedule s.regs s.gic = .ok (answer, timer, gic) →
    gic = raisedIf atOnce s.gic
  timeout : (s.timer.handleTimeout s.regs s.gic).2.2.2 =
    raisedIf ((s.timer.handleTimeout s.regs s.gic).1 = .ok true && wanted s.regs) s.gic
  interrupt : (handleIrq s.regs s.gic).2 = raisedIf (wanted s.regs) s.gic

end Scene

variable {τ : Type} {t t' : VirtualTimer τ} {regs : TimerRegisters} {gic gic' : Gic}

theorem enabled_bit (regs : TimerRegisters) : enabled regs = regs.control.toNat.testBit 0 :=
  Bits.flag rfl

theorem met_bit (regs : TimerRegisters) : met regs = regs.control.toNat.testBit 2 :=
  Bits.flag rfl

theorem raise_raisedIf (regs : TimerRegisters) (gic : Gic) :
    (raise regs gic).2 = raisedIf (wanted regs) gic := by
  unfold raise raisedIf wanted
  cases enabled regs <;> cases masked regs <;> rfl

-- To raise the condition turns no timer on or off, and it is not met for one that is off.
theorem raise_enabled (regs : TimerRegisters) (gic : Gic) :
    enabled (raise regs gic).1 = enabled regs := by
  unfold raise
  split
  · rfl
  · rw [enabled_bit, enabled_bit, UInt64.toNat_or, Nat.testBit_or]
    exact Bool.or_false _

theorem raise_met (gic : Gic) (off : enabled regs = false) :
    met (raise regs gic).1 = met regs := by
  unfold raise
  rw [off]
  rfl

theorem raise_attended (gic : Gic) (attended : met regs = true → enabled regs = true) :
    met (raise regs gic).1 = true → enabled (raise regs gic).1 = true := by
  intro status
  rw [raise_enabled]
  cases on : enabled regs with
  | true => rfl
  | false =>
      rw [raise_met gic on] at status
      exact on.symm.trans (attended status)

theorem endOfInterrupt_unmet (regs : TimerRegisters) : met (endOfInterrupt regs) = false := by
  unfold met endOfInterrupt
  dsimp only
  rw [UInt64.and_assoc]
  simp [timerStatus]

-- The status is not for the guest to write, and whether the timer is on is for no one else.
theorem store_control (s : VcpuState) (value : UInt64) :
    met (SysReg.cntvCtl.write s value).timer = met s.timer ∧
      enabled (SysReg.cntvCtl.write s value).timer = (value &&& timerEnable != 0) := by
  have bits (i : Nat) : (SysReg.cntvCtl.write s value).timer.control.toNat.testBit i =
      (s.timer.control.toNat.testBit i && timerStatus.toNat.testBit i ||
        value.toNat.testBit i && (timerEnable.toNat.testBit i || timerMask.toNat.testBit i)) := by
    rw [← Nat.testBit_or, ← UInt64.toNat_or, ← Nat.testBit_and, ← Nat.testBit_and,
      ← UInt64.toNat_and, ← UInt64.toNat_and, ← Nat.testBit_or, ← UInt64.toNat_or]
    rfl
  rw [met_bit, met_bit, enabled_bit, Bits.flag (i := 0) rfl, bits, bits]
  simp [timerStatus, timerEnable, timerMask, Nat.testBit]

theorem store_other {r : SysReg} (other : r ≠ .cntvCtl) (s : VcpuState) (value : UInt64) :
    (r.write s value).timer.control = s.timer.control := by
  cases r with
  | cntvCtl => exact absurd rfl other
  | _ => rfl

section Host

variable [HostTimer τ]

theorem schedule_met (status : met regs = true) (unmasked : masked regs = false) :
    t.schedule regs gic = .ok (.ok (), t, gic.apply (.assert Gic.timerLine)) := by
  unfold schedule
  rw [if_pos status, unmasked]
  rfl

-- A wait goes by the status alone.
theorem schedule_raisedIf {answer : Except TimerError Unit}
    (done : t.schedule regs gic = .ok (answer, t', gic')) :
    gic' = raisedIf (met regs && !masked regs) gic := by
  unfold schedule at done
  cases status : met regs with
  | true =>
      rw [status] at done
      cases done
      cases masked regs <;> rfl
  | false =>
      rw [status] at done
      simp only [Bool.false_eq_true, if_false] at done
      split at done
      · cases done
        rfl
      · obtain ⟨micros, _, done⟩ := Checked.bind_eq_ok.mp done
        obtain ⟨⟨armed, host⟩, _, done⟩ := Checked.bind_eq_ok.mp done
        cases armed <;> cases done <;> rfl

-- An expiry counts or leaves the guest alone; one that counts is raised like any other.
theorem handleTimeout_cases (t : VirtualTimer τ) (regs : TimerRegisters) (gic : Gic) :
    ((t.handleTimeout regs gic).1 ≠ .ok true ∧ (t.handleTimeout regs gic).2.2 = (regs, gic)) ∨
    ((t.handleTimeout regs gic).1 = .ok true ∧
      (t.handleTimeout regs gic).2.2 = raise { regs with count := regs.compare + 1 } gic) := by
  unfold handleTimeout
  split
  · exact .inl ⟨nofun, rfl⟩
  · exact .inl ⟨nofun, rfl⟩
  · dsimp only
    split
    · exact .inl ⟨nofun, rfl⟩
    · exact .inr ⟨rfl, rfl⟩

theorem handleTimeout_raisedIf (t : VirtualTimer τ) (regs : TimerRegisters) (gic : Gic) :
    (t.handleTimeout regs gic).2.2.2 =
      raisedIf ((t.handleTimeout regs gic).1 = .ok true && wanted regs) gic := by
  rcases handleTimeout_cases t regs gic with ⟨stale, same⟩ | ⟨counts, raised⟩
  · rw [same, decide_eq_false stale]
    rfl
  · rw [raised, raise_raisedIf, counts]
    rfl

namespace Scene

variable {s s' now : Scene τ}

theorem happen_attended {e : Event τ} (attended : s.Attended) (careful : ¬ s.Abandons e)
    (happened : s.happen e = .ok s') : s'.Attended := by
  cases e with
  | wait =>
      obtain ⟨_, _, done⟩ := Checked.bind_eq_ok.mp happened
      cases done
      exact attended
  | cancel | elapsed count | meanwhile host gic =>
      cases happened
      exact attended
  | timeout =>
      cases happened
      change met (s.timer.handleTimeout s.regs s.gic).2.2.1 = true →
        enabled (s.timer.handleTimeout s.regs s.gic).2.2.1 = true
      rcases handleTimeout_cases s.timer s.regs s.gic with ⟨_, same⟩ | ⟨_, raised⟩
      · rw [same]
        exact attended
      · rw [raised]
        exact raise_attended s.gic attended
  | interrupt =>
      cases happened
      exact raise_attended s.gic attended
  | completed =>
      cases happened
      intro status
      cases status.symm.trans (endOfInterrupt_unmet s.regs)
  | store r value =>
      cases happened
      split
      · by_cases control : r = .cntvCtl
        · subst r
          obtain ⟨kept, on⟩ := store_control s.guest value
          intro status
          refine on.trans (bne_iff_ne.mpr fun off => careful ⟨?_, off⟩)
          exact kept.symm.trans status
        · unfold Attended met enabled regs at *
          rwa [store_other control]
      · exact attended

theorem run_attended {events : List (Event τ)} (fresh : s.Attended) (careful : s.Careful events)
    (done : s.run events = .ok now) : now.Attended := by
  induction events generalizing s with
  | nil =>
      cases done
      exact fresh
  | cons e rest ih =>
      obtain ⟨here, later⟩ := careful
      obtain ⟨s', happened, done⟩ := Checked.bind_eq_ok.mp done
      exact ih (happen_attended fresh here happened) (later s' happened) done

-- Whatever the registers hold, an expiry and the hardware raise the line for a guest that wants it
-- and for no other, and a wait does if the condition is met and not masked. The condition is met for
-- a timer that is off only after the guest has turned it off in this state.
theorem interrupts_wanted {events : List (Event τ)} (fresh : s.Attended)
    (careful : s.Careful events) (done : s.run events = .ok now) :
    now.Interrupts (met now.regs && wanted now.regs) ∧
      ∀ s : Scene τ, s.Interrupts (met s.regs && !masked s.regs) := by
  have all (s : Scene τ) : s.Interrupts (met s.regs && !masked s.regs) :=
    ⟨fun _ _ _ done => schedule_raisedIf done, handleTimeout_raisedIf .., raise_raisedIf ..⟩
  have attended := run_attended fresh careful done
  have same : (met now.regs && wanted now.regs) = (met now.regs && !masked now.regs) := by
    unfold wanted
    cases status : met now.regs with
    | true => rw [attended status, Bool.true_and]
    | false => rfl
  exact ⟨same ▸ all now, all⟩

end Scene

end Host

namespace Scene

-- A guest that has not run, with a timer at 62.5 MHz.
def powerOn : Scene SimulatedTimer := ⟨⟨.new, 62500, none⟩, .initial, .initial⟩

-- The guest turns its timer on, and it runs out twice before the guest waits.
theorem interrupts_wanted_twice :
    let events : List (Event SimulatedTimer) :=
      [.store .cntvCtl timerEnable, .interrupt, .completed, .interrupt]
    ∃ now, powerOn.Attended ∧ powerOn.Careful events ∧ powerOn.run events = .ok now ∧
      now.Interrupts true := by
  intro events
  have fresh : powerOn.Attended := fun status => absurd status (by decide)
  have careful : powerOn.Careful events :=
    ⟨fun off => absurd off.2 (by decide), fun _ _ => ⟨nofun, fun _ _ => ⟨nofun, fun _ _ =>
      ⟨nofun, fun _ _ => trivial⟩⟩⟩⟩
  exact ⟨_, fresh, careful, rfl, (interrupts_wanted fresh careful rfl).1⟩

-- The condition comes to be met while the guest has the timer masked. Then the guest turns the timer
-- off, and a wait raises the line all the same.
theorem abandoned_raised :
    ∃ (s : Scene SimulatedTimer) (timer : VirtualTimer SimulatedTimer) (gic : Gic),
      powerOn.run [.store .cntvCtl (timerEnable ||| timerMask), .interrupt, .store .cntvCtl 0] =
        .ok s ∧ enabled s.regs = false ∧
      s.timer.schedule s.regs s.gic = .ok (.ok (), timer, gic) ∧
      (s.gic.line? Gic.timerLine).map (·.state) = some .inactive ∧
      (gic.line? Gic.timerLine).map (·.state) = some .pending := by
  have line : Gic.initial.line? Gic.timerLine = some (Gic.Line.initial Gic.timerLine) := by
    rw [Gic.initial_line, if_pos (by decide)]
  have raised : (Gic.initial.apply (.assert Gic.timerLine)).line? Gic.timerLine =
      some { Gic.Line.initial Gic.timerLine with state := .pending } := by
    unfold Gic.apply Gic.assert
    rw [Gic.move_line, if_pos rfl, line]
    rfl
  let off : TimerRegisters := { powerOn.regs with control := timerStatus }
  refine ⟨{ powerOn with guest := { powerOn.guest with timer := off } }, powerOn.timer,
    Gic.initial.apply (.assert Gic.timerLine), rfl, by decide,
    schedule_met (by decide) (by decide), ?_, ?_⟩
  · exact congrArg (Option.map _) line
  · exact congrArg (Option.map _) raised

end Scene

end VirtualTimer

end VmMonitor
