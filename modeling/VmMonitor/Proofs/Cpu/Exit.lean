import VmMonitor.Cpu.Exit
import VmMonitor.Proofs.Machine.Wiring

/-!
What an exit of the guest can do to the wiring. Only a store to a device can put a line to rest
without a word to its listener, so that the saved state tells beforehand which lines are in danger.
-/

namespace VmMonitor

open Signalling Wiring

namespace VcpuState

-- The store that an exit stands for: where it goes, and the bits that it carries.
def store? (s : VcpuState) : Option (GuestAddress × UInt64) :=
  let a := DataAbort.ofIss s.syndrome.iss
  if s.exception? = some .synchronous ∧ s.syndrome.class? = some .dataAbort ∧ a.valid ∧
      a.isWrite then
    (Width.ofBytes? a.size).map fun width => (s.faultAddress, s.reg a.transfer &&& width.mask)
  else none

-- The exit stands for a write to the distributor at `base` that can put line `q` to rest.
def Withdraws (s : VcpuState) (base : UInt64) (q : Nat) : Prop :=
  ∃ address value offset, s.store? = some (address, value) ∧
    address.toNat = base.toNat + offset ∧ Distributor.Withdraws offset value q

end VcpuState

namespace VirtualTimer

variable {τ : Type} {regs : TimerRegisters} {g : Gic}

-- All that the virtual timer ever does to the controller.
theorem raise_gic (regs : TimerRegisters) (g : Gic) :
    (raise regs g).2 = g ∨ (raise regs g).2 = g.apply (.assert Gic.timerLine) := by
  unfold raise
  split
  · exact .inl rfl
  · dsimp only
    split
    · exact .inl rfl
    · exact .inr rfl

variable [HostTimer τ] {t t' : VirtualTimer τ} {g' : Gic}

theorem schedule_gic {answer : Except TimerError Unit}
    (done : t.schedule regs g = .ok (answer, t', g')) :
    g' = g ∨ g' = g.apply (.assert Gic.timerLine) := by
  unfold schedule at done
  split at done
  · cases done
    split
    · exact .inl rfl
    · exact .inr rfl
  split at done
  · cases done
    exact .inl rfl
  obtain ⟨micros, _, done⟩ := Checked.bind_eq_ok.mp done
  obtain ⟨⟨armed, host⟩, _, done⟩ := Checked.bind_eq_ok.mp done
  cases armed <;> cases done <;> exact .inl rfl

theorem handleTimeout_gic (t : VirtualTimer τ) (regs : TimerRegisters) (g : Gic) :
    (t.handleTimeout regs g).2.2.2 = g ∨
      (t.handleTimeout regs g).2.2.2 = g.apply (.assert Gic.timerLine) := by
  unfold handleTimeout
  split
  · exact .inl rfl
  · exact .inl rfl
  · dsimp only
    split
    · exact .inl rfl
    · exact raise_gic ..

end VirtualTimer

namespace Platform

variable {δ τ η : Type} {p : Platform δ τ η} {s : VcpuState} {owed : List Gic.Notification}
  {lost : UInt64 → Nat → Prop}

def wiring (p : Platform δ τ η) (owed : List Gic.Notification) : Wiring δ :=
  ⟨p.bus, p.board.gic, owed⟩

variable [Signalling δ]

theorem timer_steps {g' : Gic}
    (raised : g' = p.board.gic ∨ g' = p.board.gic.apply (.assert Gic.timerLine)) :
    Steps lost (p.wiring owed) ⟨p.bus, g', owed⟩ := by
  rcases raised with rfl | rfl
  · exact .refl
  · exact .single .timer

theorem physicalIrq_steps (p : Platform δ τ η) (s : VcpuState) :
    Steps lost (p.wiring owed) ((p.physicalIrq s).2.wiring owed) := by
  unfold physicalIrq
  split
  · exact .single .completed
  split
  · exact timer_steps (VirtualTimer.raise_gic ..)
  · exact .refl

theorem waitFor_steps [HostTimer τ] {r : Exited δ τ η TrapOutcome}
    (done : p.waitFor s = .ok r) : Steps lost (p.wiring owed) (r.platform.wiring owed) := by
  unfold waitFor at done
  split at done
  · cases done
    exact .refl
  obtain ⟨⟨answer, timer, gic⟩, scheduled, done⟩ := Checked.bind_eq_ok.mp done
  have steps : Steps lost (p.wiring owed) ⟨p.bus, gic, owed⟩ :=
    timer_steps (VirtualTimer.schedule_gic scheduled)
  cases answer <;> cases done <;> exact steps

theorem hypercall_steps [HypercallHandler η] (p : Platform δ τ η) (s : VcpuState) :
    Steps lost (p.wiring owed) ((p.hypercall s).platform.wiring owed) := by
  have kept : (p.hypercall s).platform.wiring owed = p.wiring owed := by
    unfold hypercall
    dsimp only
    split
    · split <;> simp [wiring]
    · simp [wiring]
  rw [kept]

variable [BusDevice δ] [LawfulSignalling δ]

theorem dataAbort_steps {r : Exited δ τ η TrapOutcome}
    (taken : s.exception? = some .synchronous) (trapped : s.syndrome.class? = some .dataAbort)
    (done : p.dataAbort s = .ok r) :
    Steps s.Withdraws (p.wiring owed) (r.platform.wiring owed) := by
  unfold dataAbort at done
  dsimp only at done
  split at done
  · cases done
    exact .refl
  rename_i valid
  split at done
  · cases done
    exact .refl
  rename_i width known
  split at done
  · rename_i isWrite
    obtain ⟨answered, wrote, done⟩ := Checked.bind_eq_ok.mp done
    have stored : s.store? = some (s.faultAddress,
        s.reg (DataAbort.ofIss s.syndrome.iss).transfer &&& width.mask) := by
      unfold VcpuState.store?
      dsimp only
      rw [if_pos ⟨taken, trapped, by simpa using valid, isWrite⟩, known]
      rfl
    have steps : Steps s.Withdraws (p.wiring owed)
        ⟨answered.device, answered.board.gic, owed⟩ := by
      refine Bus.write_steps wrote fun base offset q lands withdraws => ?_
      rw [UInt64.and_assoc, UInt64.and_self] at withdraws
      exact ⟨_, _, offset, stored, lands, withdraws⟩
    split at done <;> cases done <;> exact steps
  · obtain ⟨answered, reached, done⟩ := Checked.bind_eq_ok.mp done
    have steps : Steps s.Withdraws (p.wiring owed)
        ⟨answered.device, answered.board.gic, owed⟩ := Bus.read_steps reached
    split at done <;> cases done <;> exact steps

theorem handleExit_steps [HostTimer τ] [HypercallHandler η] {r : Exited δ τ η TrapOutcome}
    (done : p.handleExit s = .ok r) :
    Steps s.Withdraws (p.wiring owed) (r.platform.wiring owed) := by
  unfold handleExit at done
  cases kind : s.exception? with
  | none =>
      rw [kind] at done
      cases done
      exact .refl
  | some kind' =>
      rw [kind] at done
      cases kind' with
      | irq | fiq =>
          cases done
          exact physicalIrq_steps ..
      | notRun | serror =>
          cases done
          exact .refl
      | synchronous =>
          change p.synchronous s = .ok r at done
          unfold synchronous at done
          split at done
          · split at done <;> cases done <;> exact .refl
          · cases done
            exact hypercall_steps ..
          · exact dataAbort_steps kind ‹_› done
          · exact waitFor_steps done
          · cases done
            exact .refl

end Platform

end VmMonitor
