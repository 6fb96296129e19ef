import VmMonitor.Cpu.Exit
import VmMonitor.Device.Uart

/-!
What an exit that could not be handled does to the guest. Every refusal comes before the first
change of the saved state but one: the guest is taken past a wait before the host is asked for a
timer.
-/

namespace VmMonitor

-- The exit stands for a wait for an interrupt.
def VcpuState.Waits (s : VcpuState) : Prop :=
  s.exception? = some .synchronous ∧ s.syndrome.class? = some .waitFor ∧ s.syndrome.iss &&& 1 = 0

-- A handler that fails leaves the guest as it found it.
def HypercallHandler.Careful (η : Type) [HypercallHandler η] : Prop :=
  ∀ (h : η) (s : VcpuState) (e : CpuError),
    (HypercallHandler.handle h s).1 = .error e → (HypercallHandler.handle h s).2.1 = s

-- The only thing that can go wrong when a timeout is scheduled is that the host refuses the timer.
theorem VirtualTimer.schedule_refused {τ : Type} [HostTimer τ] {t t' : VirtualTimer τ}
    {regs : TimerRegisters} {g g' : Gic} {e : TimerError}
    (done : t.schedule regs g = .ok (.error e, t', g')) :
    ∃ ns cause host, HostTimer.arm t.host ns = .ok (.error cause, host) ∧ e = .host cause := by
  unfold schedule at done
  split at done
  · cases done
  split at done
  · cases done
  obtain ⟨micros, _, done⟩ := Checked.bind_eq_ok.mp done
  obtain ⟨⟨answer, host⟩, armed, done⟩ := Checked.bind_eq_ok.mp done
  cases answer with
  | error cause =>
      cases done
      exact ⟨_, cause, host, armed, rfl⟩
  | ok u => cases done

namespace Platform

variable {δ τ η : Type} {p : Platform δ τ η} {s : VcpuState} {e : CpuError}
  {r : Exited δ τ η TrapOutcome}

theorem waitFor_refused [HostTimer τ] (done : p.waitFor s = .ok r) (failed : r.answer = .error e) :
    (s.syndrome.iss &&& 1 ≠ 0 ∧ r.state = s) ∨
    (s.syndrome.iss &&& 1 = 0 ∧ r.state = s.advancePc ∧
      ∃ ns cause host, HostTimer.arm p.timer.host ns = .ok (.error cause, host) ∧
        e = .timer (.host cause)) := by
  unfold waitFor at done
  split at done
  · rename_i event
    cases done
    exact .inl ⟨by simpa using event, rfl⟩
  · rename_i interrupt
    obtain ⟨⟨answer, timer, gic⟩, scheduled, done⟩ := Checked.bind_eq_ok.mp done
    cases answer with
    | ok u =>
        cases done
        cases failed
    | error cause =>
        cases done
        cases failed
        obtain ⟨ns, why, host, armed, rfl⟩ := VirtualTimer.schedule_refused scheduled
        exact .inr ⟨by simpa using interrupt, rfl, ns, why, host, armed, rfl⟩

theorem hypercall_refused [HypercallHandler η] (careful : HypercallHandler.Careful η)
    (failed : (p.hypercall s).answer = .error e) : (p.hypercall s).state = s := by
  unfold hypercall at failed ⊢
  dsimp only at failed ⊢
  split at failed
  · split at failed <;> cases failed
  · rename_i outside
    rw [if_neg outside]
    dsimp only at failed ⊢
    cases answer : (HypercallHandler.handle p.hypercalls s).1 with
    | error cause => exact careful _ _ _ answer
    | ok u =>
        rw [answer] at failed
        cases failed

theorem dataAbort_refused [BusDevice δ] (done : p.dataAbort s = .ok r)
    (failed : r.answer = .error e) : r.state = s := by
  unfold dataAbort at done
  dsimp only at done
  split at done
  · cases done
    rfl
  split at done
  · cases done
    rfl
  -- What reaches the bus is refused by the bus or goes through.
  split at done <;>
    · obtain ⟨answered, _, done⟩ := Checked.bind_eq_ok.mp done
      split at done
      · cases done
        rfl
      · cases done
        cases failed

variable [BusDevice δ] [HostTimer τ] [HypercallHandler η]

theorem synchronous_refused (careful : HypercallHandler.Careful η)
    (taken : s.exception? = some .synchronous) (done : p.synchronous s = .ok r)
    (failed : r.answer = .error e) :
    (¬ s.Waits ∧ r.state = s) ∨
    (s.Waits ∧ r.state = s.advancePc ∧
      ∃ ns cause host, HostTimer.arm p.timer.host ns = .ok (.error cause, host) ∧
        e = .timer (.host cause)) := by
  have other {c : Option ExceptionClass} (known : s.syndrome.class? = c)
      (differs : c ≠ some .waitFor) : ¬ s.Waits := fun waits => differs (known ▸ waits.2.1)
  unfold synchronous at done
  split at done
  · rename_i known
    split at done <;> cases done
    · cases failed
    · exact .inl ⟨other known (by decide), rfl⟩
  · rename_i known
    cases done
    exact .inl ⟨other known (by decide), hypercall_refused careful failed⟩
  · rename_i known
    exact .inl ⟨other known (by decide), dataAbort_refused done failed⟩
  · rename_i known
    rcases waitFor_refused done failed with ⟨event, same⟩ | ⟨interrupt, moved, refused⟩
    · exact .inl ⟨fun waits => event waits.2.2, same⟩
    · exact .inr ⟨⟨taken, known, interrupt⟩, moved, refused⟩
  · rename_i known
    cases done
    exact .inl ⟨other known (by decide), rfl⟩

-- Whatever goes wrong, the guest is where and as it was at the exit. The exception is a wait for
-- which the host refuses a timer: the guest is past the wait then, and otherwise as it was.
theorem exit_refused (careful : HypercallHandler.Careful η) (done : p.handleExit s = .ok r)
    (failed : r.answer = .error e) :
    (¬ s.Waits → r.state = s) ∧
    (s.Waits → r.state = s.advancePc ∧
      ∃ ns cause host, HostTimer.arm p.timer.host ns = .ok (.error cause, host) ∧
        e = .timer (.host cause)) := by
  have running (kind : Option ExceptionKind) (known : s.exception? = kind)
      (differs : kind ≠ some .synchronous) : ¬ s.Waits := fun waits => differs (known ▸ waits.1)
  unfold handleExit at done
  cases kind : s.exception? with
  | none =>
      rw [kind] at done
      cases done
      exact ⟨fun _ => rfl, fun waits => absurd waits (running _ kind (by decide))⟩
  | some taken =>
      rw [kind] at done
      cases taken with
      | irq | fiq | notRun =>
          cases done
          cases failed
      | serror =>
          cases done
          exact ⟨fun _ => rfl, fun waits => absurd waits (running _ kind (by decide))⟩
      | synchronous =>
          rcases synchronous_refused careful kind done failed with ⟨still, same⟩ | ⟨waits, refused⟩
          · exact ⟨fun _ => same, fun waits => absurd waits still⟩
          · exact ⟨fun still => absurd waits still, fun _ => refused⟩

-- A machine without devices.
def bare (timer : τ) : Platform Uart τ NoHypercalls :=
  ⟨⟨⟨⟨[]⟩, #[]⟩, .initial⟩, .empty, ⟨timer, 62500, none⟩, .mk⟩

theorem noHypercalls_careful : HypercallHandler.Careful NoHypercalls :=
  fun _ _ _ failed => nomatch failed

-- A guest that has stored a word where there is nothing.
def strayStore : VcpuState := { VcpuState.initial with vector := 0x400, esr := 0x91800040 }

theorem exit_refused_stray :
    ∃ (r : Exited Uart SimulatedTimer NoHypercalls TrapOutcome) (e : CpuError),
      (bare SimulatedTimer.new).handleExit strayStore = .ok r ∧ r.answer = .error e ∧
      ¬ strayStore.Waits ∧ r.state = strayStore := by
  have ran : (((bare SimulatedTimer.new).handleExit strayStore).toOption.any fun r =>
      !r.answer.isOk) = true := by
    decide +kernel
  obtain ⟨⟨answer, state, platform⟩, handled, failed⟩ := Checked.ok_of_any ran
  cases answer with
  | ok u => cases failed
  | error e =>
      have still : ¬ strayStore.Waits := fun waits => absurd waits.2.1 (by decide)
      exact ⟨_, e, handled, rfl, still, (exit_refused noHypercalls_careful handled rfl).1 still⟩

-- A guest that waits for its timer.
def sleeper : VcpuState :=
  { VcpuState.initial with
    vector := 0x400, esr := 0x4000000, pc := 0x40080000, timer := ⟨1, 1000000, 0, 0⟩ }

-- The host refuses the timer, and yet the guest has been taken past its wait.
theorem refused_wait_skipped :
    ∃ (r : Exited Uart (RefusingTimer SimulatedTimer) NoHypercalls TrapOutcome) (e : CpuError),
      (bare ⟨SimulatedTimer.new, fun _ => some .invalidArgument⟩).handleExit sleeper = .ok r ∧
      r.answer = .error e ∧ HypercallHandler.Careful NoHypercalls ∧
      r.state.pc = sleeper.pc + 4 ∧ r.state ≠ sleeper := by
  have ran : (((bare ⟨SimulatedTimer.new, fun _ => some .invalidArgument⟩ :
      Platform Uart (RefusingTimer SimulatedTimer) NoHypercalls).handleExit sleeper).toOption.any
        fun r => !r.answer.isOk && r.state.pc = 0x40080004) = true := by
    decide +kernel
  obtain ⟨⟨answer, state, platform⟩, handled, ran⟩ := Checked.ok_of_any ran
  obtain ⟨failed, past⟩ := Bool.and_eq_true_iff.mp ran
  have moved : state.pc = 0x40080004 := of_decide_eq_true past
  cases answer with
  | ok u => cases failed
  | error e =>
      refine ⟨_, e, handled, rfl, noHypercalls_careful, moved, fun same => ?_⟩
      have stayed : (0x40080004 : UInt64) = 0x40080000 := moved.symm.trans (congrArg (·.pc) same)
      exact absurd stayed (by decide)

end Platform

end VmMonitor
