import VmMonitor.Proofs.Machine.Built
import VmMonitor.Proofs.Machine.History

/-!
The ends of a machine: a fatal error halts it, and an exit reason ends the run of its guest. Neither
is ever taken back. The calls that handle events look at both first; the others do not, so that a
halted machine can be made to go on.
-/

namespace VmMonitor

-- What a vCPU can become without being resumed.
inductive Unresumed {ν : Type} [VcpuSession ν] (v : ν) : ν → Prop
  | same : Unresumed v v
  | set {w : ν} (s : VcpuState) (earlier : Unresumed v w) : Unresumed v (VcpuSession.setState w s)
  | paused {w : ν} (earlier : Unresumed v w) : Unresumed v (VcpuSession.pause w).2

namespace Machine

variable {ν τ η : Type} {m m' n : Machine ν τ η}

-- What the host can call on a machine.
inductive Call where
  | event (e : MachineEvent)
  | exit
  | process
  | run
  deriving DecidableEq, Repr

-- The calls that look first whether the machine has come to an end.
def Call.Checks : Call → Prop
  | event _ => True
  | process => True
  | exit => False
  | run => False

-- The calls that may come to handle a shutdown.
def Call.Shuts (queued : List MachineEvent) : Call → Prop
  | event e => e = .shutdown
  | exit => False
  | process => .shutdown ∈ queued
  | run => .shutdown ∈ queued

-- No exit was dispatched and no listener told: all that the guest could see is as it was.
structure Untouched (m m' : Machine ν τ η) : Prop where
  bus : m'.platform.bus = m.platform.bus
  memory : m'.board.memory = m.board.memory
  gic : m'.board.gic = m.board.gic
  hypercalls : m'.platform.hypercalls = m.platform.hypercalls
  idle : m'.idle = m.idle
  exit : m'.exit = m.exit

theorem Untouched.refl (m : Machine ν τ η) : Untouched m m := ⟨rfl, rfl, rfl, rfl, rfl, rfl⟩

theorem Untouched.trans {m'' : Machine ν τ η} (first : Untouched m m')
    (second : Untouched m' m'') : Untouched m m'' :=
  ⟨second.bus.trans first.bus, second.memory.trans first.memory, second.gic.trans first.gic,
    second.hypercalls.trans first.hypercalls, second.idle.trans first.idle,
    second.exit.trans first.exit⟩

theorem cancelTimer_untouched [HostTimer τ] (m : Machine ν τ η) :
    Untouched m m.cancelTimer.machine := by
  unfold cancelTimer
  dsimp only
  split <;> exact ⟨rfl, rfl, rfl, rfl, rfl, rfl⟩

theorem pauseVcpu_untouched [VcpuSession ν] (m : Machine ν τ η) :
    Untouched m m.pauseVcpu.machine := by
  unfold pauseVcpu
  split
  · split <;> exact ⟨rfl, rfl, rfl, rfl, rfl, rfl⟩
  · exact .refl m

section Framed

variable [VcpuSession ν] {P : Machine ν τ η → Prop}

-- A property that nothing within a call touches. A vCPU is resumed only before an exit.
structure Framed (P : Machine ν τ η → Prop) : Prop where
  set : ∀ {m : Machine ν τ η} (s : VcpuState), P m → P (m.setState s)
  pause : ∀ {m : Machine ν τ η}, P m → P { m with vcpu := (VcpuSession.pause m.vcpu).2 }
  resume : ∀ {m : Machine ν τ η}, m.exit = none → P m →
    P { m with vcpu := (VcpuSession.run m.vcpu).2 }
  platform : ∀ {m : Machine ν τ η} (p : Platform MachineDevice τ η), P m →
    P { m with platform := p }
  idle : ∀ {m : Machine ν τ η} (b : Bool), P m → P { m with idle := b }
  halt : ∀ {m : Machine ν τ η}, P m → P { m with halted := true }
  leave : ∀ {m : Machine ν τ η} (reason : ExitReason), P m → P { m with exit := some reason }

theorem events_framed (l : List MachineEvent) :
    Framed fun m : Machine ν τ η => m.events = l where
  set _ kept := kept
  pause kept := kept
  resume _ kept := kept
  platform _ kept := kept
  idle _ kept := kept
  halt kept := kept
  leave _ kept := kept

theorem halted_framed : Framed fun m : Machine ν τ η => m.halted = true where
  set _ kept := kept
  pause kept := kept
  resume _ kept := kept
  platform _ kept := kept
  idle _ kept := kept
  halt _ := rfl
  leave _ kept := kept

theorem ended_framed : Framed fun m : Machine ν τ η => m.exit ≠ none where
  set _ kept := kept
  pause kept := kept
  resume _ kept := kept
  platform _ kept := kept
  idle _ kept := kept
  halt kept := kept
  leave _ _ := nofun

theorem unresumed_framed (v : ν) :
    Framed fun m : Machine ν τ η => m.exit ≠ none ∧ Unresumed v m.vcpu where
  set s kept := ⟨kept.1, kept.2.set s⟩
  pause kept := ⟨kept.1, kept.2.paused⟩
  resume up kept := absurd up kept.1
  platform _ kept := kept
  idle _ kept := kept
  halt kept := kept
  leave _ kept := ⟨nofun, kept.2⟩

theorem arbitrate_exit [HostTimer τ] {r : Stepped ν τ η Unit} (done : m.arbitrate = .ok r) :
    r.machine.exit = m.exit := by
  obtain ⟨presented, gic, _, outcome⟩ := arbitrate_parts done
  rcases outcome with ⟨_, rfl⟩ | ⟨_, rfl⟩
  · exact (cancelTimer_untouched _).exit
  · rfl

namespace Framed

variable (framed : Framed P)

include framed

theorem pauseVcpu (kept : P m) : P m.pauseVcpu.machine := by
  have paused := framed.pause kept
  unfold Machine.pauseVcpu
  split
  · split
    · rename_i called
      rw [called] at paused
      exact paused
    · rename_i called
      rw [called] at paused
      exact paused
  · exact kept

theorem resumeVcpu (up : m.exit = none) (kept : P m) : P m.resumeVcpu.machine := by
  have resumed := framed.resume up kept
  unfold Machine.resumeVcpu
  split
  · rename_i called
    rw [called] at resumed
    exact resumed
  · rename_i called
    rw [called] at resumed
    exact resumed

theorem deliver (kept : P m) (note : Gic.Notification) : P (m.deliver note) := by
  unfold Machine.deliver
  split
  · dsimp only
    split
    · split
      · exact framed.platform _ kept
      · exact framed.platform _ (framed.platform _ kept)
    · split
      · exact framed.platform _ kept
      · exact framed.platform _ (framed.platform _ kept)
  · split
    · exact framed.set _ kept
    · exact kept

theorem deliverAll (kept : P m) : P (deliverAll deliveryRounds m) :=
  deliverAll_keeps (P := P) (fun _ _ kept => framed.platform _ kept)
    (fun _ note kept => framed.deliver kept note) kept

variable [HostTimer τ]

theorem cancelTimer (kept : P m) : P m.cancelTimer.machine := by
  unfold Machine.cancelTimer
  dsimp only
  split
  · exact framed.platform _ kept
  · exact framed.platform _ kept

theorem arbitrate {r : Stepped ν τ η Unit} (kept : P m) (done : m.arbitrate = .ok r) :
    P r.machine := by
  obtain ⟨presented, gic, _, outcome⟩ := arbitrate_parts done
  have chosen : P (m.choose gic) := framed.set _ (framed.platform _ kept)
  rcases outcome with ⟨_, rfl⟩ | ⟨_, rfl⟩
  · exact framed.cancelTimer (framed.idle false chosen)
  · exact chosen

theorem fail (kept : P m) (e : MachineError) : P (m.fail e) := by
  have halted : P (m.halting e) := framed.halt (framed.platform _ (framed.platform _ kept))
  rcases fail_parts m e with ⟨_, same⟩ | ⟨cause, _, same⟩
  · rw [same]
    exact framed.cancelTimer halted
  · rw [same]
    exact framed.platform _ (framed.cancelTimer halted)

theorem settle {r : Stepped ν τ η Unit} (kept : P m) (done : m.settle = .ok r) : P r.machine := by
  unfold Machine.settle at done
  split at done
  · cases done
    exact kept
  rename_i up
  have up : m.exit = none := by simpa using up
  obtain ⟨chosen, ran, done⟩ := Checked.bind_eq_ok.mp done
  have arbitrated : P chosen.machine := framed.arbitrate (framed.deliverAll kept) ran
  have still : chosen.machine.exit = none := by
    rw [arbitrate_exit ran, deliverAll_exit, up]
  rcases andThen_ok done with ⟨_, _, ended⟩ | ⟨_, _, rfl⟩
  · split at ended
    · cases ended
      exact arbitrated
    · cases ended
      exact framed.resumeVcpu still arbitrated
  · exact arbitrated

theorem envelope {body : Machine ν τ η → Checked (Stepped ν τ η Unit)} {r : Stepped ν τ η Unit}
    (kept : P m) (done : m.envelope body = .ok r)
    (effect : ∀ r, body m.pauseVcpu.machine = .ok r → P r.machine) : P r.machine := by
  apply envelope_keeps done (P := P) (Q := P)
  · exact framed.fail (framed.pauseVcpu kept)
  · exact effect
  · exact framed.settle
  · exact fun e either => framed.fail (either.elim id id) e

theorem stop (kept : P m) (event : PowerEvent) : P (m.stop event).machine := by
  have cancelled := framed.cancelTimer kept
  unfold Machine.stop
  dsimp only
  split
  · exact cancelled
  · cases event with
    | reset => exact framed.leave _ (framed.platform _ cancelled)
    | off => exact framed.leave _ cancelled

theorem expireTimer (kept : P m) : P m.expireTimer.machine := by
  unfold Machine.expireTimer
  dsimp only
  split
  · exact framed.set _ (framed.platform _ (framed.platform _ kept))
  · exact framed.set _ (framed.platform _ (framed.platform _ kept))

omit [HostTimer τ] in
theorem acceptInput {base : UInt64} {data : List UInt8} {r : Stepped ν τ η Unit} (kept : P m)
    (done : m.acceptInput base data = .ok r) : P r.machine := by
  unfold Machine.acceptInput at done
  obtain ⟨answered, _, done⟩ := Checked.bind_eq_ok.mp done
  dsimp only at done
  split at done
  · cases done
    exact framed.platform _ kept
  · cases done
    exact framed.platform _ (framed.platform _ kept)

variable [HypercallHandler η]

theorem dispatchExit {r : Stepped ν τ η Unit} (kept : P m) (done : m.dispatchExit = .ok r) :
    P r.machine := by
  unfold Machine.dispatchExit at done
  obtain ⟨exited, _, done⟩ := Checked.bind_eq_ok.mp done
  have taken : P ({ m with platform := exited.platform }.setState exited.state) :=
    framed.set _ (framed.platform _ kept)
  dsimp only at done
  split at done
  · cases done
    exact taken
  · cases done
    exact taken
  · cases done
    exact framed.idle true taken
  · cases done
    exact framed.stop taken _

theorem effect {e : MachineEvent} {r : Stepped ν τ η Unit} (kept : P m)
    (done : m.effect e = .ok r) : P r.machine := by
  cases e with
  | exited => exact framed.dispatchExit kept done
  | timerExpired =>
      cases done
      exact framed.expireTimer kept
  | terminalInput base data | frameReceived base data => exact framed.acceptInput kept done
  | shutdown =>
      unfold Machine.effect at done
      rcases andThen_ok done with ⟨_, _, ended⟩ | ⟨_, _, rfl⟩
      · cases ended
        exact framed.leave _ (framed.cancelTimer kept)
      · exact framed.cancelTimer kept

theorem handleEvent {e : MachineEvent} {r : Stepped ν τ η Unit} (kept : P m)
    (done : m.handleEvent e = .ok r) : P r.machine := by
  rcases handleEvent_cases done with ⟨same, _⟩ | ⟨_, ran⟩ | ran
  · rw [same]
    exact kept
  · rcases andThen_ok ran with ⟨_, _, took⟩ | ⟨_, _, rfl⟩
    · exact framed.effect (framed.pauseVcpu kept) took
    · exact framed.pauseVcpu kept
  · exact framed.envelope kept ran fun _ took => framed.effect (framed.pauseVcpu kept) took

theorem handleExit {r : Stepped ν τ η Unit} (kept : P m) (done : m.handleExit = .ok r) :
    P r.machine :=
  framed.envelope kept done fun _ took => framed.dispatchExit (framed.pauseVcpu kept) took

end Framed

end Framed

variable [VcpuSession ν] [HostTimer τ]

-- Failing halts the machine, even if its timer cannot be cancelled.
theorem fail_halted (m : Machine ν τ η) (e : MachineError) : (m.fail e).halted = true := by
  have halted : (m.halting e).cancelTimer.machine.halted = true := halted_framed.cancelTimer rfl
  rcases fail_parts m e with ⟨_, same⟩ | ⟨cause, _, same⟩
  · rw [same]
    exact halted
  · rw [same]
    exact halted

theorem envelope_failed {body : Machine ν τ η → Checked (Stepped ν τ η Unit)} {e : MachineError}
    (done : m.envelope body = .ok ⟨.error e, m'⟩) : m'.halted = true := by
  unfold envelope at done
  obtain ⟨ran, _, done⟩ := Checked.bind_eq_ok.mp done
  obtain ⟨settled, _, done⟩ := Checked.bind_eq_ok.mp done
  split at done
  · rename_i answered
    cases done
    cases answered
  · cases done
    exact fail_halted _ _

theorem fail_untouched (m : Machine ν τ η) (e : MachineError) : Untouched m (m.fail e) := by
  have halted : Untouched m (m.halting e) := ⟨rfl, rfl, rfl, rfl, rfl, rfl⟩
  have cancelled := halted.trans (cancelTimer_untouched _)
  rcases fail_parts m e with ⟨_, same⟩ | ⟨cause, _, same⟩
  · rw [same]
    exact cancelled
  · rw [same]
    exact cancelled.trans ⟨rfl, rfl, rfl, rfl, rfl, rfl⟩

-- What an empty envelope does once the machine has an exit reason.
theorem pass_untouched {r : Stepped ν τ η Unit} (ended : m.exit ≠ none)
    (done : m.envelope (fun n => .ok ⟨.ok (), n⟩) = .ok r) : Untouched m r.machine := by
  have paused := pauseVcpu_untouched m
  apply envelope_keeps done (P := Untouched m) (Q := Untouched m)
  · exact fun e => paused.trans (fail_untouched _ e)
  · intro ran took
    cases took
    exact paused
  · intro n r taken settles
    unfold settle at settles
    split at settles
    · cases settles
      exact taken
    · rename_i up
      have none : n.exit = none := by simpa using up
      exact absurd (taken.exit.symm.trans none) ended
  · exact fun e either => (either.elim id id).trans (fail_untouched _ e)

-- What the machine is where a shutdown on request of the host was refused with this error.
def ShutdownRefused (e : MachineError) (m' : Machine ν τ η) : Prop :=
  ∃ m : Machine ν τ η, m.halted = false ∧ m.exit = none ∧ m.shutDown = .ok ⟨.error e, m'⟩

variable [HypercallHandler η]

theorem handleEvent_failed {event : MachineEvent} {e : MachineError}
    (done : m.handleEvent event = .ok ⟨.error e, m'⟩) :
    m'.halted = true ∨ event = .shutdown ∧ ShutdownRefused e m' := by
  unfold handleEvent at done
  split at done
  · rename_i halted
    cases done
    exact .inl halted
  rename_i running
  split at done
  · cases done
  rename_i up
  cases event with
  | exited | timerExpired | terminalInput base data | frameReceived base data =>
      exact .inl (envelope_failed done)
  | shutdown =>
      exact .inr ⟨rfl, m, Bool.eq_false_iff.mpr running, by simpa using up, done⟩

theorem handleAll_failed {l : List MachineEvent} {e : MachineError}
    (done : handleAll l m = .ok ⟨.error e, m'⟩) :
    m'.halted = true ∨ .shutdown ∈ l ∧ ShutdownRefused e m' := by
  induction l generalizing m with
  | nil => cases done
  | cons event rest ih =>
      unfold handleAll at done
      split at done
      · cases done
      obtain ⟨first, handled, done⟩ := Checked.bind_eq_ok.mp done
      rcases andThen_ok done with ⟨_, _, later⟩ | ⟨e, answered, same⟩
      · rcases ih later with halted | ⟨here, refused⟩
        · exact .inl halted
        · exact .inr ⟨List.mem_cons_of_mem _ here, refused⟩
      · obtain ⟨answer, n⟩ := first
        cases answered
        cases same
        rcases handleEvent_failed handled with halted | ⟨rfl, refused⟩
        · exact .inl halted
        · exact .inr ⟨List.mem_cons_self, refused⟩

-- A call by the host. All but the run answer with nothing.
def perform (m : Machine ν τ η) : Call → Checked (Stepped ν τ η Unit)
  | .event e => m.handleEvent e
  | .exit => m.handleExit
  | .process => m.processPending
  | .run => do
      let r ← m.run
      return ⟨r.answer.map fun _ => (), r.machine⟩

-- A run begins with an empty envelope, and if that succeeds the queue is handled.
theorem run_parts {r : Stepped ν τ η Unit} (done : m.perform .run = .ok r) :
    ∃ started, m.envelope (fun n => .ok ⟨.ok (), n⟩) = .ok started ∧
      (started.answer = .ok () ∧ started.machine.processPending = .ok r ∨
        ∃ e, started.answer = .error e ∧ r = ⟨.error e, started.machine⟩) := by
  unfold perform Machine.run at done
  obtain ⟨ran, whole, done⟩ := Checked.bind_eq_ok.mp done
  cases done
  obtain ⟨started, begun, whole⟩ := Checked.bind_eq_ok.mp whole
  obtain ⟨drained, handled, whole⟩ := Checked.bind_eq_ok.mp whole
  refine ⟨started, begun, ?_⟩
  rcases andThen_ok handled with ⟨_, answered, later⟩ | ⟨e, answered, rfl⟩
  · refine .inl ⟨answered, ?_⟩
    rw [later]
    obtain ⟨answer, n⟩ := drained
    cases answer with
    | ok u => cases whole; rfl
    | error e => cases whole; rfl
  · cases whole
    exact .inr ⟨e, answered, rfl⟩

-- The only error that does not halt the machine is that of a refused shutdown.
theorem perform_failed {c : Call} {e : MachineError} (done : m.perform c = .ok ⟨.error e, m'⟩) :
    m'.halted = true ∨ c.Shuts m.events ∧ ShutdownRefused e m' := by
  cases c with
  | event event => exact handleEvent_failed done
  | exit => exact .inl (envelope_failed done)
  | process => exact handleAll_failed done
  | run =>
      obtain ⟨started, begun, outcome⟩ := run_parts done
      rcases outcome with ⟨_, later⟩ | ⟨e, answered, same⟩
      · have queued : started.machine.events = m.events :=
          (events_framed m.events).envelope rfl begun fun r took => by
            cases took
            exact (events_framed m.events).pauseVcpu rfl
        have failed := handleAll_failed later
        rw [queued] at failed
        exact failed
      · obtain ⟨answer, n⟩ := started
        cases answered
        cases same
        exact .inl (envelope_failed begun)

-- What every event keeps, the whole queue keeps.
theorem handleAll_keeps {P : Machine ν τ η → Prop}
    (events : ∀ {m : Machine ν τ η} (l : List MachineEvent), P m → P { m with events := l })
    (event : ∀ {m : Machine ν τ η} {r : Stepped ν τ η Unit} (e : MachineEvent), P m →
      m.handleEvent e = .ok r → P r.machine)
    {l : List MachineEvent} {r : Stepped ν τ η Unit} (kept : P m)
    (done : handleAll l m = .ok r) : P r.machine := by
  induction l generalizing m with
  | nil =>
      cases done
      exact events [] kept
  | cons e rest ih =>
      unfold handleAll at done
      split at done
      · cases done
        exact events _ kept
      obtain ⟨first, handled, done⟩ := Checked.bind_eq_ok.mp done
      have once : P first.machine := event e (events rest kept) handled
      rcases andThen_ok done with ⟨_, _, later⟩ | ⟨_, _, rfl⟩
      · exact ih once later
      · exact once

theorem Framed.perform {P : Machine ν τ η → Prop} (framed : Framed P)
    (events : ∀ {m : Machine ν τ η} (l : List MachineEvent), P m → P { m with events := l })
    {c : Call} {r : Stepped ν τ η Unit} (kept : P m) (done : m.perform c = .ok r) :
    P r.machine := by
  cases c with
  | event e => exact framed.handleEvent kept done
  | exit => exact framed.handleExit kept done
  | process => exact handleAll_keeps events (fun _ => framed.handleEvent) kept done
  | run =>
      obtain ⟨started, begun, outcome⟩ := run_parts done
      have first : P started.machine := framed.envelope kept begun fun r took => by
        cases took
        exact framed.pauseVcpu kept
      rcases outcome with ⟨_, later⟩ | ⟨_, _, rfl⟩
      · exact handleAll_keeps events (fun _ => framed.handleEvent) first later
      · exact first

theorem handleEvent_checked {e : MachineEvent} {r : Stepped ν τ η Unit}
    (ended : m.halted = true ∨ m.exit ≠ none) (done : m.handleEvent e = .ok r) :
    r.machine = m := by
  unfold handleEvent at done
  split at done
  · cases done
    rfl
  rename_i running
  split at done
  · cases done
    rfl
  rename_i up
  rcases ended with halted | exited
  · exact absurd halted running
  · exact absurd (by simpa using up) exited

-- A machine that has come to an end is left alone; any other lets every event take effect.
theorem handleEvent_parts {e : MachineEvent} {r : Stepped ν τ η Unit}
    (done : m.handleEvent e = .ok r) :
    ((m.halted = true ∨ m.exit ≠ none) ∧ r.machine = m) ∨
      (m.halted = false ∧ m.exit = none ∧
        ((e = .shutdown ∧ Stepped.andThen m.pauseVcpu (fun _ n => n.effect e) = .ok r) ∨
          m.envelope (effect e) = .ok r)) := by
  by_cases ended : m.halted = true ∨ m.exit ≠ none
  · exact .inl ⟨ended, handleEvent_checked ended done⟩
  have running : m.halted = false := Bool.eq_false_iff.mpr fun halted => ended (.inl halted)
  have up : m.exit = none := Classical.byContradiction fun exited => ended (.inr exited)
  refine .inr ⟨running, up, ?_⟩
  unfold handleEvent at done
  rw [running, up] at done
  cases e with
  | exited | timerExpired | terminalInput _ _ | frameReceived _ _ => exact .inr done
  | shutdown => exact .inl ⟨rfl, done⟩

-- The queue may lose an event to a machine that is halted.
theorem handleAll_checked {l : List MachineEvent} {r : Stepped ν τ η Unit}
    (ended : m.halted = true ∨ m.exit ≠ none) (done : handleAll l m = .ok r) :
    ∃ left, r.machine = { m with events := left } := by
  induction l generalizing m with
  | nil =>
      cases done
      exact ⟨[], rfl⟩
  | cons event rest ih =>
      unfold handleAll at done
      split at done
      · cases done
        exact ⟨_, rfl⟩
      obtain ⟨first, handled, done⟩ := Checked.bind_eq_ok.mp done
      have same : first.machine = { m with events := rest } :=
        handleEvent_checked (m := { m with events := rest }) ended handled
      rcases andThen_ok done with ⟨_, _, later⟩ | ⟨_, _, rfl⟩
      · rw [same] at later
        obtain ⟨left, all⟩ := ih (m := { m with events := rest }) ended later
        exact ⟨left, all⟩
      · exact ⟨rest, same⟩

theorem perform_checked {c : Call} {r : Stepped ν τ η Unit} (checks : c.Checks)
    (ended : m.halted = true ∨ m.exit ≠ none) (done : m.perform c = .ok r) :
    ∃ left, r.machine = { m with events := left } := by
  cases c with
  | event e =>
      have same := handleEvent_checked ended done
      exact ⟨m.events, same⟩
  | process => exact handleAll_checked ended done
  | exit | run => exact checks.elim

-- Once the machine has an exit reason, only the dispatch of an exit can touch it.
theorem perform_untouched {c : Call} {r : Stepped ν τ η Unit} (ended : m.exit ≠ none)
    (other : c ≠ .exit) (done : m.perform c = .ok r) : Untouched m r.machine := by
  cases c with
  | event e =>
      obtain ⟨left, same⟩ := perform_checked (c := .event e) trivial (.inr ended) done
      rw [same]
      exact ⟨rfl, rfl, rfl, rfl, rfl, rfl⟩
  | process =>
      obtain ⟨left, same⟩ := perform_checked (c := .process) trivial (.inr ended) done
      rw [same]
      exact ⟨rfl, rfl, rfl, rfl, rfl, rfl⟩
  | exit => exact absurd rfl other
  | run =>
      obtain ⟨started, begun, outcome⟩ := run_parts done
      have first := pass_untouched ended begun
      rcases outcome with ⟨_, later⟩ | ⟨_, _, rfl⟩
      · have still : started.machine.exit ≠ none := by
          rw [first.exit]
          exact ended
        obtain ⟨left, same⟩ := handleAll_checked (.inr still) later
        rw [same]
        exact first.trans ⟨rfl, rfl, rfl, rfl, rfl, rfl⟩
      · exact first

-- Calls in any order, and between them whatever the guest and the host do beside the machine.
inductive Calls (allowed : Call → Prop) (m : Machine ν τ η) : Machine ν τ η → Prop
  | none : Calls allowed m m
  | outside {n n' : Machine ν τ η} (earlier : Calls allowed m n) (beside : Outside n n') :
      Calls allowed m n'
  | call {n : Machine ν τ η} {r : Stepped ν τ η Unit} (c : Call) (earlier : Calls allowed m n)
      (permitted : allowed c) (done : n.perform c = .ok r) : Calls allowed m r.machine

variable {allowed : Call → Prop}

theorem calls_halted (calls : Calls allowed m n) (halted : m.halted = true) : n.halted = true := by
  induction calls with
  | none => exact halted
  | outside _ beside ih => exact beside.halted.trans ih
  | call c _ _ done ih => exact halted_framed.perform (fun _ kept => kept) ih done

theorem calls_ended (calls : Calls allowed m n) (ended : m.exit ≠ none) : n.exit ≠ none := by
  induction calls with
  | none => exact ended
  | outside _ beside ih =>
      rw [beside.exit]
      exact ih
  | call c _ _ done ih => exact ended_framed.perform (fun _ kept => kept) ih done

theorem calls_exit (others : ∀ c, allowed c → c ≠ .exit) (calls : Calls allowed m n)
    (ended : m.exit ≠ none) : n.exit = m.exit := by
  induction calls with
  | none => rfl
  | outside _ beside ih => exact beside.exit.trans ih
  | call c _ permitted done ih =>
      have still : _ ≠ none := ih ▸ ended
      exact (perform_untouched still (others c permitted) done).exit.trans ih

-- The ends of a machine are for good. An error halts it unless it is that of a refused shutdown.
-- A machine that is halted stays so, and events find it as it was. One with an exit reason keeps
-- one and never resumes its guest; it keeps the one it has, and all its devices, unless an exit is
-- dispatched by hand.
theorem calls_absorbed {c : Call} {r : Stepped ν τ η Unit} (calls : Calls allowed m n)
    (done : n.perform c = .ok r) :
    (∀ e, r.answer = .error e →
      r.machine.halted = true ∨ c.Shuts n.events ∧ ShutdownRefused e r.machine) ∧
    (m.halted = true → r.machine.halted = true ∧
      (c.Checks → Untouched n r.machine ∧ r.machine.vcpu = n.vcpu)) ∧
    (m.exit ≠ none → r.machine.exit ≠ none ∧ Unresumed n.vcpu r.machine.vcpu ∧
      (c ≠ .exit → Untouched n r.machine)) ∧
    ((∀ c, allowed c → c ≠ .exit) → m.exit ≠ none → n.exit = m.exit) := by
  refine ⟨?_, ?_, ?_, ?_⟩
  · intro e failed
    obtain ⟨answer, after⟩ := r
    cases failed
    exact perform_failed done
  · intro halted
    have still := calls_halted calls halted
    refine ⟨halted_framed.perform (fun _ kept => kept) still done, ?_⟩
    intro checks
    obtain ⟨left, same⟩ := perform_checked checks (.inl still) done
    rw [same]
    exact ⟨⟨rfl, rfl, rfl, rfl, rfl, rfl⟩, rfl⟩
  · intro ended
    have still := calls_ended calls ended
    have kept := (unresumed_framed n.vcpu).perform (fun _ kept => kept) ⟨still, .same⟩ done
    exact ⟨kept.1, kept.2, fun other => perform_untouched still other done⟩
  · intro others ended
    exact calls_exit others calls ended

-- A guest that has trapped in a way that the monitor has no answer to.
def lostGuest : VcpuState := { VcpuState.initial with vector := 0x400, esr := 0x4000001 }

-- The trap halts the machine, and an event that comes later is not for it any more.
theorem calls_absorbed_lost :
    ∃ (start n m' : Machine StillVcpu WallTimer NoHypercalls) (e : MachineError),
      Machine.new .standard (StillVcpu.new lostGuest) (.ok .new) ⟨.accepting, none, none, .mk⟩ =
        .ok start ∧
      start.perform (.event .exited) = .ok ⟨.error e, n⟩ ∧ n.halted = true ∧
      n.perform (.event .timerExpired) = .ok ⟨.error .halted, m'⟩ ∧
      m'.halted = true ∧ Untouched n m' ∧ m'.vcpu = n.vcpu := by
  have ran : ((Machine.new .standard (StillVcpu.new lostGuest) (.ok WallTimer.new)
        ⟨.accepting, none, none, NoHypercalls.mk⟩).toOption.any fun start =>
      (start.perform (.event .exited)).toOption.any fun r =>
        !r.answer.isOk && r.machine.halted) = true := by
    unfold Machine.new
    rw [Gic.initial_listed]
    decide +kernel
  obtain ⟨start, built, ran⟩ := Checked.ok_of_any ran
  obtain ⟨⟨answer, n⟩, handled, ran⟩ := Checked.ok_of_any ran
  obtain ⟨failed, halted⟩ := Bool.and_eq_true_iff.mp ran
  cases answer with
  | ok u => cases failed
  | error e =>
      have later : n.perform (.event .timerExpired) = .ok ⟨.error .halted, n⟩ := if_pos halted
      have nothing : Calls (fun _ => True) n n := .none
      obtain ⟨still, checked⟩ := (calls_absorbed nothing later).2.1 halted
      obtain ⟨same, vcpu⟩ := checked trivial
      exact ⟨start, n, n, e, built, handled, halted, later, still, same, vcpu⟩

-- A run makes the same machine go on: the guest is resumed before the first event finds the machine
-- halted. And the error of a vCPU that cannot be paused for a shutdown leaves the machine running.
theorem halted_resumes :
    (∃ start n m' : Machine StillVcpu WallTimer NoHypercalls,
      Machine.new .standard (StillVcpu.new lostGuest) (.ok .new) ⟨.accepting, none, none, .mk⟩ =
        .ok start ∧
      (∃ e, start.perform (.event .exited) = .ok ⟨.error e, n⟩) ∧ n.halted = true ∧
      n.vcpu.running = false ∧
      (∃ e, (n.queue .shutdown).perform .run = .ok ⟨.error e, m'⟩) ∧ m'.vcpu.running = true) ∧
    ∃ start m' : Machine (RefusingVcpu StillVcpu) WallTimer NoHypercalls,
      Machine.new .standard ⟨⟨.initial, true, 1, 0⟩, fun _ => some .inputOutput⟩ (.ok .new)
        ⟨.accepting, none, none, .mk⟩ = .ok start ∧
      (∃ e, start.perform (.event .shutdown) = .ok ⟨.error e, m'⟩) ∧ m'.halted = false := by
  constructor
  · have ran : ((Machine.new .standard (StillVcpu.new lostGuest) (.ok WallTimer.new)
          ⟨.accepting, none, none, NoHypercalls.mk⟩).toOption.any fun start =>
        (start.perform (.event .exited)).toOption.any fun r =>
          ((r.machine.queue .shutdown).perform .run).toOption.any fun s =>
            !r.answer.isOk && !s.answer.isOk && r.machine.halted && !r.machine.vcpu.running &&
              s.machine.vcpu.running) = true := by
      unfold Machine.new
      rw [Gic.initial_listed]
      decide +kernel
    obtain ⟨start, built, ran⟩ := Checked.ok_of_any ran
    obtain ⟨⟨answer, n⟩, handled, ran⟩ := Checked.ok_of_any ran
    obtain ⟨⟨later, m'⟩, resumed, ran⟩ := Checked.ok_of_any ran
    simp only [Bool.and_eq_true, Bool.not_eq_true'] at ran
    obtain ⟨⟨⟨⟨failed, again⟩, halted⟩, stopped⟩, running⟩ := ran
    cases answer with
    | ok u => cases failed
    | error e =>
        cases later with
        | ok u => cases again
        | error e' =>
            exact ⟨start, n, m', built, ⟨e, handled⟩, halted, stopped, ⟨e', resumed⟩, running⟩
  · have ran : ((Machine.new .standard
          (⟨⟨.initial, true, 1, 0⟩, fun _ => some .inputOutput⟩ : RefusingVcpu StillVcpu)
          (.ok WallTimer.new) ⟨.accepting, none, none, NoHypercalls.mk⟩).toOption.any fun start =>
        (start.perform (.event .shutdown)).toOption.any fun r =>
          !r.answer.isOk && !r.machine.halted) = true := by
      unfold Machine.new
      rw [Gic.initial_listed]
      decide +kernel
    obtain ⟨start, built, ran⟩ := Checked.ok_of_any ran
    obtain ⟨⟨answer, m'⟩, handled, ran⟩ := Checked.ok_of_any ran
    simp only [Bool.and_eq_true, Bool.not_eq_true'] at ran
    obtain ⟨failed, running⟩ := ran
    cases answer with
    | ok u => cases failed
    | error e => exact ⟨start, m', built, ⟨e, handled⟩, running⟩

end Machine

end VmMonitor
