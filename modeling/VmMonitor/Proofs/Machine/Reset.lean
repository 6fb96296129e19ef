import VmMonitor.Proofs.Cpu.Power
import VmMonitor.Proofs.Machine.Devices

/-!
What a call has done that leaves the machine with a reset as the reason of its exit. It came to an
exit of a guest that asked for a reset, it has reset all devices, and nothing came after that.
-/

namespace VmMonitor

-- The guest has called the power interface for a reset of the system.
def VcpuState.AsksReset (s : VcpuState) : Prop :=
  s.exception? = some .synchronous ∧ s.syndrome.class? = some .hypercall ∧
    (s.reg 0).toUInt32 = 0x84000009

theorem Psci.call_reset {id : UInt32} {x y : UInt64} (asked : Psci.call id x y = .power .reset) :
    id = 0x84000009 := by
  have named : Function.ofId? id = some .systemReset := by
    unfold call at asked
    split at asked <;> first | assumption | cases asked
  exact List.mem_singleton.mp (ofId?_iff.mp named)

namespace Platform

variable {δ τ η : Type} {p : Platform δ τ η} {s : VcpuState} {r : Exited δ τ η TrapOutcome}
  {event : PowerEvent}

theorem dataAbort_resumes [BusDevice δ] (done : p.dataAbort s = .ok r) :
    r.answer ≠ .ok (.shutdown event) := by
  unfold dataAbort at done
  dsimp only at done
  split at done
  · cases done
    nofun
  split at done
  · cases done
    nofun
  split at done
  · obtain ⟨_, _, done⟩ := Checked.bind_eq_ok.mp done
    split at done <;> cases done <;> nofun
  · obtain ⟨_, _, done⟩ := Checked.bind_eq_ok.mp done
    split at done <;> cases done <;> nofun

theorem waitFor_resumes [HostTimer τ] (done : p.waitFor s = .ok r) :
    r.answer ≠ .ok (.shutdown event) := by
  unfold waitFor at done
  split at done
  · cases done
    nofun
  obtain ⟨⟨answer, timer, gic⟩, _, done⟩ := Checked.bind_eq_ok.mp done
  cases answer <;> cases done <;> nofun

theorem hypercall_reset [HypercallHandler η]
    (answered : (p.hypercall s).answer = .ok (.shutdown .reset)) :
    (s.reg 0).toUInt32 = 0x84000009 ∧ (p.hypercall s).platform.board.gic = p.board.gic := by
  unfold hypercall at answered ⊢
  dsimp only at answered ⊢
  split at answered
  · rename_i inRange
    rw [if_pos inRange]
    split at answered
    · cases answered
    · rename_i power
      cases answered
      exact ⟨Psci.call_reset power, Board.gic_logAll ..⟩
  · obtain ⟨_, _, impossible⟩ := Checked.map_eq_ok.mp answered
    cases impossible

theorem handleExit_reset [BusDevice δ] [HostTimer τ] [HypercallHandler η]
    (done : p.handleExit s = .ok r) (answered : r.answer = .ok (.shutdown .reset)) :
    s.AsksReset ∧ r.platform.bus = p.bus ∧ r.platform.board.gic = p.board.gic := by
  unfold handleExit at done
  split at done
  · rename_i taken
    unfold synchronous at done
    split at done
    · split at done <;> cases done <;> cases answered
    · rename_i trapped
      cases done
      obtain ⟨id, gic⟩ := hypercall_reset answered
      exact ⟨⟨taken, trapped, id⟩, hypercall_bus p s, gic⟩
    · exact absurd answered (dataAbort_resumes done)
    · exact absurd answered (waitFor_resumes done)
    · cases done
      cases answered
  all_goals
    cases done
    cases answered

end Platform

namespace Machine

variable {ν τ η : Type} {m m' n : Machine ν τ η} {r : Stepped ν τ η Unit}

-- What a call that ended in a reset has done to the machine `m`.
structure ResetFrom [VcpuSession ν] (m m' : Machine ν τ η) : Prop where
  asked : m.snapshot.AsksReset
  bus : m'.platform.bus = m.platform.bus.reset
  gic : m'.board.gic = m.board.gic

theorem ResetFrom.later [VcpuSession ν] {m'' : Machine ν τ η} (reset : ResetFrom m m')
    (same : Untouched m' m'') : ResetFrom m m'' :=
  ⟨reset.asked, same.bus.trans reset.bus, same.gic.trans reset.gic⟩

variable [HostTimer τ]

theorem stop_reset {event : PowerEvent} (before : m.exit ≠ some .reset)
    (after : (m.stop event).machine.exit = some .reset) :
    event = .reset ∧ (m.stop event).machine.platform.bus = m.platform.bus.reset ∧
      (m.stop event).machine.board.gic = m.board.gic := by
  have same := cancelTimer_untouched m
  unfold stop at after ⊢
  dsimp only at after ⊢
  split at after
  · rw [same.exit] at after
    exact absurd after before
  · cases event with
    | off => cases after
    | reset => exact ⟨rfl, congrArg Bus.reset same.bus, same.gic⟩

variable [VcpuSession ν]

theorem settle_exit (done : m.settle = .ok r) : r.machine.exit = m.exit := by
  unfold settle at done
  split at done
  · cases done
    rfl
  obtain ⟨chosen, ran, done⟩ := Checked.bind_eq_ok.mp done
  have same : chosen.machine.exit = m.exit := (arbitrate_exit ran).trans (deliverAll_exit m)
  rcases andThen_ok done with ⟨_, _, ended⟩ | ⟨_, _, rfl⟩
  · split at ended
    · cases ended
      exact same
    · cases ended
      unfold resumeVcpu
      split <;> exact same
  · exact same

theorem pass_exit (done : m.envelope (fun n => .ok ⟨.ok (), n⟩) = .ok r) :
    r.machine.exit = m.exit := by
  have paused := (pauseVcpu_untouched m).exit
  apply envelope_keeps (P := fun n => n.exit = m.exit) (Q := fun n => n.exit = m.exit) done
  · exact fun e => (fail_untouched _ e).exit.trans paused
  · rintro _ ⟨⟩
    exact paused
  · exact fun same settles => (settle_exit settles).trans same
  · exact fun e either => (fail_untouched _ e).exit.trans (either.elim id id)

variable [HypercallHandler η]

theorem dispatchExit_reset (done : m.dispatchExit = .ok r) (before : m.exit ≠ some .reset)
    (after : r.machine.exit = some .reset) :
    m.state.AsksReset ∧ r.machine.platform.bus = m.platform.bus.reset ∧
      r.machine.board.gic = m.board.gic := by
  unfold dispatchExit at done
  obtain ⟨exited, handled, done⟩ := Checked.bind_eq_ok.mp done
  dsimp only at done
  split at done
  · cases done
    exact absurd after before
  · cases done
    exact absurd after before
  · cases done
    exact absurd after before
  · rename_i event answered
    cases done
    obtain ⟨rfl, bus, gic⟩ :=
      stop_reset (m := { m with platform := exited.platform }.setState exited.state) before after
    obtain ⟨asked, kept, same⟩ := Platform.handleExit_reset handled answered
    exact ⟨asked, bus.trans (congrArg Bus.reset kept), gic.trans same⟩

theorem effect_reset {e : MachineEvent} (done : m.effect e = .ok r)
    (before : m.exit ≠ some .reset) (after : r.machine.exit = some .reset) :
    m.state.AsksReset ∧ r.machine.platform.bus = m.platform.bus.reset ∧
      r.machine.board.gic = m.board.gic := by
  cases e with
  | exited => exact dispatchExit_reset done before after
  | timerExpired =>
      cases done
      have same : m.expireTimer.machine.exit = m.exit := by
        unfold expireTimer
        dsimp only
        split <;> rfl
      exact absurd (same.symm.trans after) before
  | terminalInput base data | frameReceived base data =>
      have same : r.machine.exit = m.exit := by
        change m.acceptInput base data = .ok r at done
        unfold acceptInput at done
        obtain ⟨answered, _, done⟩ := Checked.bind_eq_ok.mp done
        dsimp only at done
        split at done <;> cases done <;> rfl
      exact absurd (same.symm.trans after) before
  | shutdown =>
      unfold effect at done
      rcases andThen_ok done with ⟨_, _, ended⟩ | ⟨_, _, rfl⟩
      · cases ended
        cases after
      · exact absurd ((cancelTimer_untouched m).exit.symm.trans after) before

theorem envelope_reset {e : MachineEvent} (done : m.envelope (effect e) = .ok r)
    (before : m.exit ≠ some .reset) (after : r.machine.exit = some .reset) :
    ResetFrom m r.machine := by
  have paused := pauseVcpu_untouched m
  have up : m.pauseVcpu.machine.exit ≠ some .reset := by
    rw [paused.exit]
    exact before
  -- Only the effect of the event can bring this reason, and after it the envelope does no more.
  refine envelope_keeps (P := fun n => n.exit = some .reset → ResetFrom m n)
    (Q := fun n => n.exit = some .reset → ResetFrom m n) done ?_ ?_ ?_ ?_ after
  · intro e ended
    exact absurd ((fail_untouched _ e).exit.symm.trans ended) up
  · intro r took ended
    obtain ⟨asked, bus, gic⟩ := effect_reset took up ended
    exact ⟨asked, bus.trans (congrArg Bus.reset paused.bus), gic.trans paused.gic⟩
  · intro n r reset settles ended
    have same := settle_exit settles
    unfold settle at settles
    split at settles
    · cases settles
      exact reset ended
    · rename_i open_
      rw [same.symm.trans ended] at open_
      exact absurd rfl open_
  · intro n e either ended
    have same := fail_untouched n e
    rw [same.exit] at ended
    exact (either.elim id id ended).later same

theorem handleEvent_reset {e : MachineEvent} (done : m.handleEvent e = .ok r)
    (before : m.exit ≠ some .reset) (after : r.machine.exit = some .reset) :
    ResetFrom m r.machine := by
  rcases handleEvent_cases done with ⟨same, _⟩ | ⟨rfl, ran⟩ | ran
  · rw [same] at after
    exact absurd after before
  · -- A shutdown gives another reason.
    exfalso
    have paused := (pauseVcpu_untouched m).exit
    rcases andThen_ok ran with ⟨_, _, took⟩ | ⟨_, _, rfl⟩
    · unfold effect at took
      rcases andThen_ok took with ⟨_, _, ended⟩ | ⟨_, _, rfl⟩
      · cases ended
        cases after
      · exact before (paused.symm.trans ((cancelTimer_untouched _).exit.symm.trans after))
    · exact before (paused.symm.trans after)
  · exact envelope_reset ran before after

-- In a queue it is the event after which no other is handled.
theorem handleAll_reset {l : List MachineEvent} (done : handleAll l m = .ok r)
    (before : m.exit ≠ some .reset) (after : r.machine.exit = some .reset) :
    ∃ n, Run (fun _ => True) m n ∧ ResetFrom n r.machine := by
  induction l generalizing m with
  | nil =>
      cases done
      exact absurd after before
  | cons e rest ih =>
      unfold handleAll at done
      split at done
      · cases done
        exact absurd after before
      obtain ⟨first, handled, done⟩ := Checked.bind_eq_ok.mp done
      have popped : Run (fun _ => True) m { m with events := rest } :=
        .outside .done ⟨rfl, rfl, rfl, rfl, rfl⟩
      have once (ended : first.machine.exit = some .reset) :
          ResetFrom { m with events := rest } first.machine :=
        handleEvent_reset handled before ended
      rcases andThen_ok done with ⟨_, _, later⟩ | ⟨_, _, rfl⟩
      · by_cases ended : first.machine.exit = some .reset
        · -- Whatever is left in the queue stays there.
          have final : first.machine.exit ≠ none := by
            rw [ended]
            exact Option.some_ne_none _
          obtain ⟨left, same⟩ := handleAll_checked (.inr final) later
          refine ⟨_, popped, ?_⟩
          rw [same]
          exact (once ended).later ⟨rfl, rfl, rfl, rfl, rfl, rfl⟩
        · obtain ⟨n, run, reset⟩ := ih later ended
          exact ⟨n, (popped.event e (fun _ => trivial) handled).trans run, reset⟩
      · exact ⟨_, popped, once after⟩

theorem perform_reset {c : Call} (done : m.perform c = .ok r) (before : m.exit ≠ some .reset)
    (after : r.machine.exit = some .reset) :
    ∃ n, Run (fun _ => True) m n ∧ ResetFrom n r.machine := by
  cases c with
  | event e => exact ⟨m, .done, handleEvent_reset done before after⟩
  | exit => exact ⟨m, .done, envelope_reset (e := .exited) done before after⟩
  | process => exact handleAll_reset done before after
  | run =>
      obtain ⟨started, begun, outcome⟩ := run_parts done
      have same := pass_exit begun
      rcases outcome with ⟨_, later⟩ | ⟨_, _, rfl⟩
      · obtain ⟨n, run, reset⟩ := handleAll_reset later (by rw [same]; exact before) after
        exact ⟨n, (Run.start .done begun).trans run, reset⟩
      · exact absurd (same.symm.trans after) before

end Machine

end VmMonitor
