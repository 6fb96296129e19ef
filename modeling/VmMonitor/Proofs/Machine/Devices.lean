import VmMonitor.Proofs.Bus.Asked
import VmMonitor.Proofs.Machine.Terminal

/-!
All that a machine ever does to its devices is to ask them something. A property of buses that no
question to a device touches is there at the end of every history that it was there at the start of.
-/

namespace VmMonitor

namespace Platform

variable {δ τ η : Type} {p : Platform δ τ η} {s : VcpuState} {P : Bus δ → Prop}

theorem physicalIrq_bus (p : Platform δ τ η) (s : VcpuState) : (p.physicalIrq s).2.bus = p.bus := by
  unfold physicalIrq
  split
  · rfl
  split <;> rfl

theorem hypercall_bus [HypercallHandler η] (p : Platform δ τ η) (s : VcpuState) :
    (p.hypercall s).platform.bus = p.bus := by
  unfold hypercall
  dsimp only
  split
  · split <;> rfl
  · rfl

theorem waitFor_bus [HostTimer τ] {r : Exited δ τ η TrapOutcome} (done : p.waitFor s = .ok r) :
    r.platform.bus = p.bus := by
  unfold waitFor at done
  split at done
  · cases done
    rfl
  obtain ⟨⟨answer, timer, gic⟩, _, done⟩ := Checked.bind_eq_ok.mp done
  cases answer <;> cases done <;> rfl

theorem dataAbort_kept [BusDevice δ] {r : Exited δ τ η TrapOutcome} (kept : Bus.Kept P)
    (holds : P p.bus) (done : p.dataAbort s = .ok r) : P r.platform.bus := by
  unfold dataAbort at done
  dsimp only at done
  split at done
  · cases done
    exact holds
  split at done
  · cases done
    exact holds
  split at done
  · obtain ⟨answered, wrote, done⟩ := Checked.bind_eq_ok.mp done
    have after : P answered.device := kept.write holds wrote
    split at done <;> cases done <;> exact after
  · obtain ⟨answered, loaded, done⟩ := Checked.bind_eq_ok.mp done
    have after : P answered.device := kept.read holds loaded
    split at done <;> cases done <;> exact after

theorem handleExit_kept [BusDevice δ] [HostTimer τ] [HypercallHandler η]
    {r : Exited δ τ η TrapOutcome} (kept : Bus.Kept P) (holds : P p.bus)
    (done : p.handleExit s = .ok r) : P r.platform.bus := by
  have interrupted : P (p.physicalIrq s).2.bus := by
    rw [physicalIrq_bus]
    exact holds
  unfold handleExit at done
  split at done
  · unfold synchronous at done
    split at done
    · split at done <;> cases done <;> exact holds
    · cases done
      rw [hypercall_bus]
      exact holds
    · exact dataAbort_kept kept holds done
    · rw [waitFor_bus done]
      exact holds
    · cases done
      exact holds
  · cases done
    exact interrupted
  · cases done
    exact interrupted
  · cases done
    exact holds
  · cases done
    exact holds
  · cases done
    exact holds

end Platform

namespace Machine

variable {ν τ η : Type} {m m' : Machine ν τ η} {P : Bus MachineDevice → Prop}
  {r : Stepped ν τ η Unit}

theorem Untouched.kept (same : Untouched m m') (holds : P m.platform.bus) :
    P m'.platform.bus := by
  rw [same.bus]
  exact holds

theorem acceptInput_kept {base : UInt64} {data : List UInt8} (kept : Bus.Kept P)
    (holds : P m.platform.bus) (done : m.acceptInput base data = .ok r) :
    P r.machine.platform.bus := by
  unfold acceptInput at done
  obtain ⟨answered, taken, done⟩ := Checked.bind_eq_ok.mp done
  have after : P answered.device := kept.input holds taken
  dsimp only at done
  split at done <;> cases done <;> exact after

theorem stop_kept [HostTimer τ] (kept : Bus.Kept P) (holds : P m.platform.bus)
    (event : PowerEvent) : P (m.stop event).machine.platform.bus := by
  have cancelled := (cancelTimer_untouched m).kept holds
  unfold stop
  dsimp only
  split
  · exact cancelled
  · cases event with
    | reset => exact kept.reset cancelled
    | off => exact cancelled

variable [VcpuSession ν]

theorem deliver_kept (kept : Bus.Kept P) (holds : P m.platform.bus) (n : Gic.Notification) :
    P (m.deliver n).platform.bus := by
  unfold deliver
  split
  · rename_i base _
    have completed := kept.endOfInterrupt holds m.board base n.line
    have changed (level : Bool) := kept.levelChanged holds m.board base n.line level
    dsimp only
    split
    · split <;> exact completed
    · split <;> exact changed _
  · split <;> exact holds

variable [HostTimer τ]

theorem settle_kept (kept : Bus.Kept P) (holds : P m.platform.bus) (done : m.settle = .ok r) :
    P r.machine.platform.bus := by
  unfold settle at done
  split at done
  · cases done
    exact holds
  obtain ⟨chosen, ran, done⟩ := Checked.bind_eq_ok.mp done
  have told : P (deliverAll deliveryRounds m).platform.bus :=
    deliverAll_keeps (P := fun n => P n.platform.bus) (fun _ _ holds => holds)
      (fun _ n holds => deliver_kept kept holds n) holds
  have arbitrated : P chosen.machine.platform.bus := by
    obtain ⟨_, gic, _, outcome⟩ := arbitrate_parts ran
    rcases outcome with ⟨_, rfl⟩ | ⟨_, rfl⟩
    · exact (cancelTimer_untouched _).kept told
    · exact told
  rcases andThen_ok done with ⟨_, _, ended⟩ | ⟨_, _, rfl⟩
  · split at ended
    · cases ended
      exact arbitrated
    · cases ended
      unfold resumeVcpu
      split <;> exact arbitrated
  · exact arbitrated

theorem envelope_kept {body : Machine ν τ η → Checked (Stepped ν τ η Unit)} (kept : Bus.Kept P)
    (holds : P m.platform.bus) (done : m.envelope body = .ok r)
    (effect : ∀ r, body m.pauseVcpu.machine = .ok r → P r.machine.platform.bus) :
    P r.machine.platform.bus := by
  have paused := (pauseVcpu_untouched m).kept holds
  apply envelope_keeps (P := fun n => P n.platform.bus) (Q := fun n => P n.platform.bus) done
  · exact fun e => (fail_untouched _ e).kept paused
  · exact effect
  · exact fun holds settles => settle_kept kept holds settles
  · exact fun e either => (fail_untouched _ e).kept (either.elim id id)

theorem expireTimer_bus (m : Machine ν τ η) :
    m.expireTimer.machine.platform.bus = m.platform.bus := by
  unfold expireTimer
  dsimp only
  split <;> rfl

variable [HypercallHandler η]

theorem dispatchExit_kept (kept : Bus.Kept P) (holds : P m.platform.bus)
    (done : m.dispatchExit = .ok r) : P r.machine.platform.bus := by
  unfold dispatchExit at done
  obtain ⟨exited, handled, done⟩ := Checked.bind_eq_ok.mp done
  have after : P exited.platform.bus := Platform.handleExit_kept kept holds handled
  dsimp only at done
  split at done
  · cases done
    exact after
  · cases done
    exact after
  · cases done
    exact after
  · cases done
    exact stop_kept (m := { m with platform := exited.platform }.setState exited.state) kept after _

theorem effect_kept {e : MachineEvent} (kept : Bus.Kept P) (holds : P m.platform.bus)
    (done : m.effect e = .ok r) : P r.machine.platform.bus := by
  cases e with
  | exited => exact dispatchExit_kept kept holds done
  | timerExpired =>
      cases done
      rw [expireTimer_bus]
      exact holds
  | terminalInput base data | frameReceived base data => exact acceptInput_kept kept holds done
  | shutdown =>
      have cancelled := (cancelTimer_untouched m).kept holds
      unfold effect at done
      rcases andThen_ok done with ⟨_, _, ended⟩ | ⟨_, _, rfl⟩
      · cases ended
        exact cancelled
      · exact cancelled

theorem envelope_effect_kept {e : MachineEvent} (kept : Bus.Kept P) (holds : P m.platform.bus)
    (done : m.envelope (effect e) = .ok r) : P r.machine.platform.bus :=
  envelope_kept kept holds done fun _ took =>
    effect_kept kept ((pauseVcpu_untouched m).kept holds) took

theorem handleEvent_kept {e : MachineEvent} (kept : Bus.Kept P) (holds : P m.platform.bus)
    (done : m.handleEvent e = .ok r) : P r.machine.platform.bus := by
  have paused := (pauseVcpu_untouched m).kept holds
  rcases handleEvent_cases done with ⟨same, _⟩ | ⟨_, ran⟩ | ran
  · rw [same]
    exact holds
  · rcases andThen_ok ran with ⟨_, _, took⟩ | ⟨_, _, rfl⟩
    · exact effect_kept kept paused took
    · exact paused
  · exact envelope_effect_kept kept holds ran

theorem run_kept {allowed : VcpuState → Prop} (kept : Bus.Kept P) (holds : P m.platform.bus)
    (run : Run allowed m m') : P m'.platform.bus := by
  induction run with
  | done => exact holds
  | outside _ beside ih =>
      rw [beside.bus]
      exact ih
  | start _ ran ih =>
      refine envelope_kept kept ih ran fun _ done => ?_
      cases done
      exact (pauseVcpu_untouched _).kept ih
  | event e _ _ ran ih => exact handleEvent_kept kept ih ran
  | exit _ _ ran ih => exact envelope_effect_kept (e := .exited) kept ih ran

end Machine

end VmMonitor
