import VmMonitor.Proofs.Gic.Reached
import VmMonitor.Proofs.Machine.Built
import VmMonitor.Proofs.Machine.History

/-!
No wake-up is missed. After every event that was handled, no listener is still to be told, the guest
sees the interrupt that is presented, and it waits only if there is none that it could have.
-/

namespace VmMonitor

open Signalling Wiring

-- A vCPU whose calls, where they succeed, do what they say.
class SteadyVcpu (ν : Type) [VcpuSession ν] : Prop where
  state_setState (v : ν) (s : VcpuState) : VcpuSession.state (VcpuSession.setState v s) = s
  isRunning_setState (v : ν) (s : VcpuState) :
    VcpuSession.isRunning (VcpuSession.setState v s) = VcpuSession.isRunning v
  run_done {v v' : ν} (ran : VcpuSession.run v = (.ok (), v')) :
    VcpuSession.isRunning v' = true ∧ VcpuSession.state v' = VcpuSession.state v
  pause_done {v v' : ν} (paused : VcpuSession.pause v = (.ok (), v')) :
    VcpuSession.isRunning v' = false

instance : SteadyVcpu StillVcpu where
  state_setState _ _ := rfl
  isRunning_setState _ _ := rfl
  run_done {v v'} ran := by
    cases ran
    unfold StillVcpu.run
    split
    · exact ⟨‹_›, rfl⟩
    · exact ⟨rfl, rfl⟩
  pause_done {v v'} paused := by
    cases paused
    change (StillVcpu.pause v).running = false
    unfold StillVcpu.pause
    split
    · rfl
    · simpa using ‹¬ v.running = true›

namespace Gic

theorem arbitrate_none {g g' : Gic} (done : g.arbitrate = .ok (none, g')) : g' = g := by
  unfold arbitrate at done
  split at done
  · cases done
  · obtain ⟨found, _, done⟩ := Checked.bind_eq_ok.mp done
    cases found with
    | none => cases done; rfl
    | some e => cases done

end Gic

namespace Signalling

variable {δ : Type} [Signalling δ] {d : δ} {g g' : Gic}

theorem LineStep.reached {line : Option Nat} {lost : Nat → Prop} {before after : Bool}
    (step : LineStep line lost before after g g') (reached : g.Reached) : g'.Reached := by
  cases step with
  | still kept => exact reached
  | asserted own => exact Gic.reached_apply reached _
  | lowered own down => exact Gic.reached_apply reached _
  | @requested rs none silent spared =>
      clear silent spared
      induction rs generalizing g with
      | nil => exact reached
      | cons r rest ih => exact ih (Gic.reached_apply reached r)

theorem reassert_reached (reached : g.Reached) : (reassert d g).Reached := by
  unfold reassert
  split
  · split
    · exact Gic.reached_apply reached _
    · exact reached
  · exact reached

end Signalling

namespace Wiring

-- The controller has a history, and every device is fit to be asked.
structure Tracked {δ : Type} [Signalling δ] (w : Wiring δ) : Prop where
  sound : ∀ slot ∈ w.bus.slots, sound slot.device
  reached : w.gic.Reached

variable {δ : Type} [Signalling δ] {w w' : Wiring δ} {lost : UInt64 → Nat → Prop}

theorem setDevice_sound {bus : Bus δ} {base : UInt64} {d : δ} (valid : sound d)
    (others : ∀ slot ∈ bus.slots, sound slot.device) :
    ∀ slot ∈ (bus.setDevice base d).slots, sound slot.device := by
  intro t present
  rcases Bus.mem_setDevice present with ⟨old, _⟩ | ⟨_, device⟩
  · exact others t old
  · rw [device]
    exact valid

theorem step_tracked (tracked : w.Tracked) (step : Step lost w w') : w'.Tracked := by
  cases step with
  | device here moves =>
      have moved := moves (tracked.sound _ here)
      exact ⟨setDevice_sound moved.sound tracked.sound, moved.step.reached tracked.reached⟩
  | timer => exact ⟨tracked.sound, Gic.reached_apply tracked.reached (.assert Gic.timerLine)⟩
  | completed => exact ⟨tracked.sound, Gic.reached_complete tracked.reached⟩
  | arbitrated done => exact ⟨tracked.sound, Gic.reached_arbitrate tracked.reached done⟩
  | taken none => exact ⟨tracked.sound, Gic.reached_take tracked.reached⟩
  | @heard n rest next =>
      unfold hear
      split
      · exact ⟨tracked.sound, tracked.reached⟩
      · split
        · exact ⟨tracked.sound, tracked.reached⟩
        · rename_i s found
          have here := (Bus.at_mem found).1
          refine ⟨setDevice_sound (tracked.sound s here) tracked.sound, ?_⟩
          dsimp only
          split
          · exact reassert_reached tracked.reached
          · exact tracked.reached

end Wiring

namespace Machine

variable {ν τ η : Type} {m m' n : Machine ν τ η}

theorem stop_vcpu [HostTimer τ] (m : Machine ν τ η) (event : PowerEvent) :
    (m.stop event).machine.vcpu = m.vcpu := by
  unfold stop
  dsimp only
  split
  · exact (cancelTimer_frame m).1
  · cases event <;> exact (cancelTimer_frame m).1

theorem acceptInput_vcpu {base : UInt64} {data : List UInt8} {r : Stepped ν τ η Unit}
    (done : m.acceptInput base data = .ok r) : r.machine.vcpu = m.vcpu := by
  unfold acceptInput at done
  obtain ⟨answered, _, done⟩ := Checked.bind_eq_ok.mp done
  dsimp only at done
  split at done <;> cases done <;> rfl

variable [VcpuSession ν]

-- What the machine is once an event was handled.
structure Settled (m : Machine ν τ η) : Prop where
  told : m.board.gic.notifications = []
  shown : m.state.irqs.virtualIrq.toNat = m.board.gic.presented
  running : VcpuSession.isRunning m.vcpu = !m.idle
  waiting : m.idle = true →
    m.board.gic.presented = Gic.spurious ∧ ∀ n, ¬ m.board.gic.Deliverable n

theorem presented_fits {g : Gic} (queued : g.Queued) :
    (UInt32.ofNat g.presented).toNat = g.presented := by
  have small : g.presented < 1024 := by
    rcases queued.presented with none | some
    · rw [none]
      decide
    · exact Nat.lt_trans some (by decide)
  rw [UInt32.toNat_ofNat']
  exact Nat.mod_eq_of_lt (by omega)

-- Where arbitration leaves the machine, the vCPU still standing.
structure Arbitrated (m m' : Machine ν τ η) (presented : Option Nat) : Prop where
  chosen : m.board.gic.arbitrate = .ok (presented, m'.board.gic)
  shown : m'.state.irqs.virtualIrq = UInt32.ofNat m'.board.gic.presented
  running : VcpuSession.isRunning m'.vcpu = VcpuSession.isRunning m.vcpu
  waiting : m'.idle = true → presented = none

-- Where the guest is left to wait nothing was chosen, so that the controller is as it was and
-- would choose nothing again.
theorem Arbitrated.nothing {presented : Option Nat} (a : Arbitrated m m' presented)
    (queued : m'.board.gic.Queued) (idle : m'.idle = true) :
    m'.board.gic.presented = Gic.spurious ∧ ∀ n, ¬ m'.board.gic.Deliverable n := by
  have chosen := a.chosen
  rw [a.waiting idle] at chosen
  rw [← Gic.arbitrate_none chosen] at chosen
  rcases Gic.arbitrate_cases queued with ⟨_, held⟩ | ⟨free, nothing, _⟩ | ⟨_, e, _, taken⟩
  · rw [held] at chosen
    cases chosen
  · exact ⟨free, nothing⟩
  · rw [taken] at chosen
    cases chosen

section Vcpu

variable [SteadyVcpu ν]

theorem deliver_running (m : Machine ν τ η) (n : Gic.Notification) :
    VcpuSession.isRunning (m.deliver n).vcpu = VcpuSession.isRunning m.vcpu := by
  unfold deliver
  split
  · dsimp only
    split <;> split <;> rfl
  · split
    · exact SteadyVcpu.isRunning_setState ..
    · rfl

theorem deliverAll_running (m : Machine ν τ η) :
    VcpuSession.isRunning (deliverAll deliveryRounds m).vcpu = VcpuSession.isRunning m.vcpu :=
  deliverAll_keeps (P := fun n => VcpuSession.isRunning n.vcpu = VcpuSession.isRunning m.vcpu)
    (fun _ _ same => same) (fun n heard same => (deliver_running n heard).trans same) rfl

theorem pauseVcpu_stopped {r : Unit} (paused : m.pauseVcpu.answer = .ok r) :
    VcpuSession.isRunning m.pauseVcpu.machine.vcpu = false := by
  unfold pauseVcpu at paused ⊢
  split
  · rename_i running
    rw [if_pos running] at paused
    split
    · exact SteadyVcpu.pause_done ‹_›
    · rename_i refused
      rw [refused] at paused
      cases paused
  · simpa using ‹¬ VcpuSession.isRunning m.vcpu = true›

theorem resumeVcpu_done {r : Unit} (resumed : m.resumeVcpu.answer = .ok r) :
    VcpuSession.isRunning m.resumeVcpu.machine.vcpu = true ∧
      m.resumeVcpu.machine.state = m.state := by
  unfold resumeVcpu at resumed ⊢
  split
  · exact SteadyVcpu.run_done ‹_›
  · rename_i refused
    rw [refused] at resumed
    cases resumed

variable [HostTimer τ]

theorem arbitrate_arbitrated {r : Stepped ν τ η Unit} (done : m.arbitrate = .ok r) :
    ∃ presented, Arbitrated m r.machine presented := by
  obtain ⟨presented, gic, chosen, cases⟩ := arbitrate_parts done
  have shown : (m.choose gic).state.irqs.virtualIrq = UInt32.ofNat gic.presented := by
    unfold choose state setState
    rw [SteadyVcpu.state_setState]
  have running : VcpuSession.isRunning (m.choose gic).vcpu = VcpuSession.isRunning m.vcpu :=
    SteadyVcpu.isRunning_setState ..
  refine ⟨presented, ?_⟩
  rcases cases with ⟨_, rfl⟩ | ⟨kept, rfl⟩
  · obtain ⟨vcpu, board, idle⟩ := cancelTimer_frame { m.choose gic with idle := false }
    refine ⟨?_, ?_, ?_, ?_⟩
    · rw [board]
      exact chosen
    · unfold state
      rw [board, vcpu]
      exact shown
    · rw [vcpu]
      exact running
    · rw [idle]
      exact nofun
  · refine ⟨chosen, shown, running, fun idle => ?_⟩
    change m.idle = true at idle
    rw [idle, Bool.and_true] at kept
    exact Option.isSome_eq_false_iff.mp kept |> Option.isNone_iff_eq_none.mp

theorem settle_settled (stopped : VcpuSession.isRunning n.vcpu = false)
    (done : n.settle = .ok ⟨.ok (), m'⟩) (up : m'.exit = none) (queued : m'.board.gic.Queued) :
    Settled m' := by
  have told := settle_told done up
  obtain ⟨chosen, ran, left⟩ := settle_parts done up
  obtain ⟨presented, a⟩ := arbitrate_arbitrated ran
  have standing : VcpuSession.isRunning chosen.vcpu = false := by
    rw [a.running, deliverAll_running, stopped]
  rcases left with ⟨idle, rfl⟩ | ⟨awake, resumed⟩
  · refine ⟨told, ?_, by rw [standing, idle]; rfl, fun _ => a.nothing queued idle⟩
    rw [a.shown, presented_fits queued]
  · obtain ⟨board, idle⟩ := resumeVcpu_frame chosen
    have answered : chosen.resumeVcpu.answer = .ok () := by rw [resumed]
    obtain ⟨running, state⟩ := resumeVcpu_done answered
    rw [resumed] at board idle running state
    dsimp only at board idle running state
    rw [awake] at idle
    refine ⟨told, ?_, by rw [running, idle]; rfl, fun waits => ?_⟩
    · rw [state, a.shown, ← board, presented_fits queued]
    · rw [idle] at waits
      cases waits

theorem expireTimer_running (m : Machine ν τ η) :
    VcpuSession.isRunning m.expireTimer.machine.vcpu = VcpuSession.isRunning m.vcpu := by
  unfold expireTimer
  dsimp only
  split <;> exact SteadyVcpu.isRunning_setState ..

variable [HypercallHandler η]

theorem dispatchExit_running {r : Stepped ν τ η Unit} (done : m.dispatchExit = .ok r) :
    VcpuSession.isRunning r.machine.vcpu = VcpuSession.isRunning m.vcpu := by
  unfold dispatchExit at done
  obtain ⟨exited, _, done⟩ := Checked.bind_eq_ok.mp done
  dsimp only at done
  split at done
  · cases done
    exact SteadyVcpu.isRunning_setState ..
  · cases done
    exact SteadyVcpu.isRunning_setState ..
  · cases done
    exact SteadyVcpu.isRunning_setState ..
  · cases done
    rw [stop_vcpu]
    exact SteadyVcpu.isRunning_setState ..

theorem effect_running {e : MachineEvent} {r : Stepped ν τ η Unit} (done : m.effect e = .ok r) :
    VcpuSession.isRunning r.machine.vcpu = VcpuSession.isRunning m.vcpu := by
  cases e with
  | exited => exact dispatchExit_running done
  | timerExpired =>
      cases done
      exact expireTimer_running m
  | terminalInput base data | frameReceived base data => rw [acceptInput_vcpu done]
  | shutdown =>
      unfold effect at done
      have cancelled := (cancelTimer_frame m).1
      rcases andThen_ok done with ⟨_, _, ended⟩ | ⟨e, _, failed⟩
      · cases ended
        rw [cancelled]
      · rw [failed, cancelled]

theorem handleEvent_settled {e : MachineEvent} (done : m.handleEvent e = .ok ⟨.ok (), m'⟩)
    (up : m'.exit = none) (queued : m'.board.gic.Queued) : Settled m' := by
  obtain ⟨n, paused, took, closed⟩ := handleEvent_ended done up
  have stopped := (effect_running took).trans (pauseVcpu_stopped paused)
  exact settle_settled stopped closed up queued

-- Whatever the machine went through since it was built, an event that it handled leaves it
-- settled; and no round of delivery is ever cut short.
theorem run_settled [Host] {c : MachineConfig} {vcpu : ν} {hostTimer : Except HostError τ}
    {backends : Backends η} {start : Machine ν τ η} {e : MachineEvent}
    (built : Machine.new c vcpu hostTimer backends = .ok start)
    (run : Run (fun _ => True) start m) (handled : m.handleEvent e = .ok ⟨.ok (), m'⟩)
    (up : m'.exit = none) :
    Settled m' ∧ ∀ (n : Machine ν τ η) (rounds : Nat),
      deliverAll (deliveryRounds + rounds) n = deliverAll deliveryRounds n := by
  have whole : Follows (fun _ _ => True) start m' :=
    (run_follows (fun _ _ _ _ _ => trivial) run).trans
      (handleEvent_follows handled fun _ _ _ _ => trivial)
  obtain ⟨lines, fitted⟩ := new_fitted built
  have tracked : (m'.wiring []).Tracked :=
    (whole.steps up).keep (fun _ _ => step_tracked) ⟨fitted.sound, fitted.reached⟩
  refine ⟨handleEvent_settled handled up (Gic.reached_queued tracked.reached), ?_⟩
  intro n rounds
  rw [deliveryRounds, show 16 + rounds = 14 + rounds + 2 from by omega, deliverAll_unbounded,
    deliverAll_unbounded 14]

end Vcpu

-- A guest that has just trapped because it waits for an interrupt.
def waitingGuest : VcpuState := { VcpuState.initial with vector := 0x400, esr := 0x4000000 }

theorem run_settled_wait :
    ∃ start m' : Machine StillVcpu WallTimer NoHypercalls,
      Machine.new .standard (StillVcpu.new waitingGuest) (.ok .new)
        ⟨.accepting, none, none, .mk⟩ = .ok start ∧
      start.handleEvent .exited = .ok ⟨.ok (), m'⟩ ∧ m'.exit = none ∧ m'.idle = true ∧
      Settled m' := by
  have ran : ((Machine.new .standard (StillVcpu.new waitingGuest) (.ok WallTimer.new)
        ⟨.accepting, none, none, NoHypercalls.mk⟩).toOption.any fun start =>
      (start.handleEvent .exited).toOption.any fun r =>
        r.answer.isOk && (r.machine.exit.isNone && r.machine.idle)) = true := by
    unfold Machine.new
    rw [Gic.initial_listed]
    decide +kernel
  obtain ⟨start, built, ran⟩ := Checked.ok_of_any ran
  obtain ⟨m', handled, left⟩ := done_of_any ran
  obtain ⟨up, idle⟩ := Bool.and_eq_true_iff.mp left
  have open_ : m'.exit = none := Option.isNone_iff_eq_none.mp up
  exact ⟨start, m', built, handled, open_, idle, (run_settled built .done handled open_).1⟩

end Machine

end VmMonitor
