import VmMonitor.Proofs.Cpu.Identity
import VmMonitor.Proofs.Machine.Expiry
import VmMonitor.Proofs.Machine.Settled

/-!
The guest reads its identification registers as they were configured, whatever happened since the
machine was built. No event of the machine writes them, so that it comes down to the setup.
-/

namespace VmMonitor

-- A vCPU on which the host does not write the identification registers when it takes the guest off.
class IdentifiedVcpu (ν : Type) [VcpuSession ν] : Prop extends ReadableVcpu ν where
  pause_ids (v : ν) :
    (VcpuSession.state (VcpuSession.pause v).2).ids = (VcpuSession.state v).ids

instance : IdentifiedVcpu StillVcpu where
  pause_ids v := by
    change (StillVcpu.pause v).state.ids = v.state.ids
    unfold StillVcpu.pause
    split <;> rfl

namespace Machine

variable {ν τ η : Type} {m m' n : Machine ν τ η}

-- What the machine leaves alone while it settles: the registers the guest computes with, and those
-- it is identified by.
structure Carried (s s' : VcpuState) : Prop where
  regs : s'.regs = s.regs
  ids : s'.ids = s.ids

theorem Carried.refl (s : VcpuState) : Carried s s := ⟨rfl, rfl⟩

theorem Carried.trans {s s' s'' : VcpuState} (first : Carried s s') (second : Carried s' s'') :
    Carried s s'' :=
  ⟨second.regs.trans first.regs, second.ids.trans first.ids⟩

section Vcpu

variable [VcpuSession ν]

theorem carried_of_vcpu (same : m'.vcpu = m.vcpu) : Carried m.state m'.state := by
  unfold state
  rw [same]
  exact .refl _

variable [IdentifiedVcpu ν]

theorem state_setState (m : Machine ν τ η) (s : VcpuState) : (m.setState s).state = s :=
  ReadableVcpu.state_setState m.vcpu s

theorem pauseVcpu_ids (m : Machine ν τ η) : m.snapshot.ids = m.state.ids := by
  have kept := IdentifiedVcpu.pause_ids m.vcpu
  unfold snapshot pauseVcpu state
  split
  · split
    · rename_i called
      rw [called] at kept
      exact kept
    · rename_i called
      rw [called] at kept
      exact kept
  · rfl

theorem deliver_carried (m : Machine ν τ η) (note : Gic.Notification) :
    Carried m.state (m.deliver note).state := by
  unfold deliver
  split
  · dsimp only
    split <;> split <;> exact carried_of_vcpu rfl
  · split
    · rw [state_setState]
      exact ⟨rfl, rfl⟩
    · exact .refl _

theorem deliverAll_carried (m : Machine ν τ η) :
    Carried m.state (deliverAll deliveryRounds m).state :=
  deliverAll_keeps (P := fun n => Carried m.state n.state) (fun _ _ kept => kept)
    (fun n heard kept => kept.trans (deliver_carried n heard)) (.refl _)

variable [HostTimer τ]

theorem arbitrate_carried {r : Stepped ν τ η Unit} (done : m.arbitrate = .ok r) :
    Carried m.state r.machine.state := by
  obtain ⟨presented, gic, _, outcome⟩ := arbitrate_parts done
  have chosen : Carried m.state (m.choose gic).state := by
    unfold choose
    rw [state_setState]
    exact ⟨rfl, rfl⟩
  rcases outcome with ⟨_, rfl⟩ | ⟨_, rfl⟩
  · exact chosen.trans (carried_of_vcpu (cancelTimer_frame _).1)
  · exact chosen

theorem settle_carried {r : Stepped ν τ η Unit} (done : m.settle = .ok r) :
    Carried m.state r.machine.state := by
  unfold settle at done
  split at done
  · cases done
    exact .refl _
  obtain ⟨chosen, ran, done⟩ := Checked.bind_eq_ok.mp done
  have arbitrated := (deliverAll_carried m).trans (arbitrate_carried ran)
  rcases andThen_ok done with ⟨_, _, ended⟩ | ⟨_, _, rfl⟩
  · split at ended
    · cases ended
      exact arbitrated
    · cases ended
      rw [resumeVcpu_state]
      exact arbitrated
  · exact arbitrated

theorem expireTimer_carried (m : Machine ν τ η) :
    Carried m.state m.expireTimer.machine.state := by
  unfold expireTimer
  dsimp only
  split
  · rw [state_setState]
    exact ⟨rfl, rfl⟩
  · rw [state_setState]
    exact ⟨rfl, rfl⟩

end Vcpu

section Ids

variable [VcpuSession ν] [IdentifiedVcpu ν] [HostTimer τ] [HypercallHandler η]
  (discreet : HypercallHandler.Discreet η)

include discreet

theorem dispatchExit_ids {r : Stepped ν τ η Unit} (done : m.dispatchExit = .ok r) :
    r.machine.state.ids = m.state.ids := by
  unfold dispatchExit at done
  obtain ⟨exited, handled, done⟩ := Checked.bind_eq_ok.mp done
  have taken : ({ m with platform := exited.platform }.setState exited.state).state.ids =
      m.state.ids := by
    rw [state_setState]
    exact Platform.handleExit_ids discreet handled
  dsimp only at done
  split at done
  · cases done
    exact taken
  · cases done
    exact taken
  · cases done
    exact taken
  · cases done
    exact (carried_of_vcpu (stop_vcpu _ _)).ids.trans taken

theorem effect_ids {e : MachineEvent} {r : Stepped ν τ η Unit} (done : m.effect e = .ok r) :
    r.machine.state.ids = m.state.ids := by
  cases e with
  | exited => exact dispatchExit_ids discreet done
  | timerExpired =>
      cases done
      exact (expireTimer_carried m).ids
  | terminalInput base data | frameReceived base data =>
      exact (carried_of_vcpu (acceptInput_vcpu done)).ids
  | shutdown =>
      unfold effect at done
      have cancelled := carried_of_vcpu (cancelTimer_frame m).1
      rcases andThen_ok done with ⟨_, _, ended⟩ | ⟨_, _, rfl⟩
      · cases ended
        exact cancelled.ids
      · exact cancelled.ids

omit discreet [HypercallHandler η] in
theorem envelope_ids {body : Machine ν τ η → Checked (Stepped ν τ η Unit)}
    {r : Stepped ν τ η Unit} (done : m.envelope body = .ok r)
    (effect : ∀ r, body m.pauseVcpu.machine = .ok r → r.machine.state.ids = m.snapshot.ids) :
    r.machine.state.ids = m.state.ids := by
  have failed (n : Machine ν τ η) (e : MachineError) : (n.fail e).state.ids = n.state.ids :=
    (carried_of_vcpu (fail_vcpu n e)).ids
  rw [← pauseVcpu_ids m]
  apply envelope_keeps done (P := fun n => n.state.ids = m.snapshot.ids)
    (Q := fun n => n.state.ids = m.snapshot.ids)
  · exact fun e => failed _ e
  · exact effect
  · exact fun taken closed => (settle_carried closed).ids.trans taken
  · exact fun e kept => (failed _ e).trans (kept.elim id id)

theorem handleEvent_ids {e : MachineEvent} {r : Stepped ν τ η Unit}
    (done : m.handleEvent e = .ok r) : r.machine.state.ids = m.state.ids := by
  rcases handleEvent_cases done with ⟨same, _⟩ | ⟨_, ran⟩ | ran
  · rw [same]
  · rcases andThen_ok ran with ⟨_, _, took⟩ | ⟨_, _, rfl⟩
    · exact (effect_ids discreet took).trans (pauseVcpu_ids m)
    · exact pauseVcpu_ids m
  · exact envelope_ids ran fun _ took => effect_ids discreet took

theorem perform_ids {c : Call} {r : Stepped ν τ η Unit} (done : m.perform c = .ok r) :
    r.machine.state.ids = m.state.ids := by
  have drained {n : Machine ν τ η} {l : List MachineEvent} {r : Stepped ν τ η Unit}
      (done : handleAll l n = .ok r) : r.machine.state.ids = n.state.ids :=
    handleAll_keeps (P := fun n' => n'.state.ids = n.state.ids) (fun _ kept => kept)
      (fun _ kept handled => (handleEvent_ids discreet handled).trans kept) rfl done
  cases c with
  | event e => exact handleEvent_ids discreet done
  | exit => exact envelope_ids done fun _ took => dispatchExit_ids discreet took
  | process => exact drained done
  | run =>
      obtain ⟨started, begun, outcome⟩ := run_parts done
      have first : started.machine.state.ids = m.state.ids := envelope_ids begun fun r took => by
        cases took
        rfl
      rcases outcome with ⟨_, later⟩ | ⟨_, _, rfl⟩
      · exact (drained later).trans first
      · exact first

end Ids

section Run

variable [VcpuSession ν] [HostTimer τ] [HypercallHandler η]

-- Calls in any order, and between them whatever leaves the identification registers alone: the
-- guest runs, time passes, events arrive.
inductive Served (m : Machine ν τ η) : Machine ν τ η → Prop
  | start : Served m m
  | beside {n n' : Machine ν τ η} (earlier : Served m n)
      (alone : n'.state.ids.value = n.state.ids.value) : Served m n'
  | call {n : Machine ν τ η} {r : Stepped ν τ η Unit} (c : Call) (earlier : Served m n)
      (done : n.perform c = .ok r) : Served m r.machine

variable [IdentifiedVcpu ν]

theorem served_ids (discreet : HypercallHandler.Discreet η) (run : Served m n) :
    n.state.ids.value = m.state.ids.value := by
  induction run with
  | start => rfl
  | beside _ alone ih => exact alone.trans ih
  | call c _ done ih => rw [perform_ids discreet done, ih]

omit [HostTimer τ] [HypercallHandler η] in
theorem new_ids [Host] {c : MachineConfig} {vcpu : ν} {hostTimer : Except HostError τ}
    {backends : Backends η} (built : Machine.new c vcpu hostTimer backends = .ok m)
    (i : IdRegister) : m.state.ids.value i = SysReg.configured c.overrides i := by
  unfold Machine.new at built
  obtain ⟨_, _, built⟩ := Checked.bind_eq_ok.mp built
  obtain ⟨memory, _, built⟩ := Checked.bind_eq_ok.mp built
  obtain ⟨host, _, built⟩ := Checked.bind_eq_ok.mp built
  obtain ⟨⟨timer, gic⟩, _, built⟩ := Checked.bind_eq_ok.mp built
  obtain ⟨guest, loaded, built⟩ := Checked.bind_eq_ok.mp built
  obtain ⟨⟨bus₁, gic₁⟩, _, built⟩ := Checked.bind_eq_ok.mp built
  obtain ⟨⟨bus₂, gic₂⟩, _, built⟩ := Checked.bind_eq_ok.mp built
  obtain ⟨⟨bus₃, gic₃⟩, _, built⟩ := Checked.bind_eq_ok.mp built
  obtain ⟨⟨bus₄, gic₄⟩, _, built⟩ := Checked.bind_eq_ok.mp built
  cases built
  unfold state
  rw [ReadableVcpu.state_setState]
  exact SysReg.setUp_value (Checked.mapError_eq_ok.mp loaded) i

end Run

section Reads

variable [VcpuSession ν] [IdentifiedVcpu ν] [HostTimer τ]

-- The instruction is emulated, and on the way to the next one nothing is done to the registers.
theorem handleExit_carried [HypercallHandler η] {n : Machine ν τ η}
    (dispatched : m.pauseVcpu.machine.dispatchExit = .ok ⟨.ok (), n⟩)
    (done : m.handleExit = .ok ⟨.ok (), m'⟩) : Carried n.state m'.state := by
  obtain ⟨n', _, took, closed⟩ := envelope_ended done
  rw [dispatched] at took
  cases took
  exact settle_carried closed

-- Whatever came before, a read of an identification register that has trapped is emulated with the
-- configured value, and when the exit has been handled the guest finds that in its register.
theorem identity_fixed [Host] {c : MachineConfig} {vcpu : ν} {hostTimer : Except HostError τ}
    {backends : Backends NoHypercalls} {start m : Machine ν τ NoHypercalls} {i : IdRegister}
    {t : Nat} (built : Machine.new c vcpu hostTimer backends = .ok start)
    (run : Served start m) (reads : m.snapshot.Reads (.ident i) t) :
    m.pauseVcpu.machine.dispatchExit = .ok ⟨.ok (), m.pauseVcpu.machine.setState
      (m.snapshot.setReg t ((c.overrides[i.name]?).getD i.initial)).advancePc⟩ ∧
    ∀ (call : Call) (m' : Machine ν τ NoHypercalls),
      call = .exit ∨ call = .event .exited ∧ m.exit = none →
      m.perform call = .ok ⟨.ok (), m'⟩ →
        m'.state.regs =
          m.snapshot.regs.setIfInBounds t ((c.overrides[i.name]?).getD i.initial) := by
  have value : m.snapshot.ids.value i = (c.overrides[i.name]?).getD i.initial := by
    rw [pauseVcpu_ids, served_ids noHypercalls_discreet run]
    exact new_ids built i
  have dispatched : m.pauseVcpu.machine.dispatchExit = .ok ⟨.ok (), m.pauseVcpu.machine.setState
      (m.snapshot.setReg t ((c.overrides[i.name]?).getD i.initial)).advancePc⟩ := by
    unfold dispatchExit
    rw [Platform.handleExit_reads (s := m.pauseVcpu.machine.state) reads, ← value]
    rfl
  refine ⟨dispatched, fun call m' exits done => ?_⟩
  have handled : m.handleExit = .ok ⟨.ok (), m'⟩ := by
    rcases exits with rfl | ⟨rfl, up⟩
    · exact done
    · change m.handleEvent .exited = _ at done
      unfold handleEvent at done
      split at done
      · cases done
      · rw [up] at done
        exact done
  have carried := handleExit_carried dispatched handled
  rw [state_setState] at carried
  exact carried.regs

end Reads

-- A guest that has trapped on a store to its cache selector, and then on a read of its main
-- identification register into x3.
def selecting : VcpuState := { VcpuState.initial with vector := 0x400, esr := 0x60308000 }

def identifying [VcpuSession ν] (m : Machine ν τ η) : Machine ν τ η :=
  m.setState { m.state with vector := 0x400, esr := 0x60300061 }

def renamed : MachineConfig :=
  { MachineConfig.standard with overrides := .ofList [("MIDR_EL1", (0x1234 : UInt64))] }

theorem identity_fixed_renamed :
    ∃ (start n m' : Machine StillVcpu WallTimer NoHypercalls),
      Machine.new renamed (StillVcpu.new selecting) (.ok .new) ⟨.accepting, none, none, .mk⟩ =
        .ok start ∧
      start.perform .exit = .ok ⟨.ok (), n⟩ ∧ n.identifying.snapshot.Reads (.ident .midr) 3 ∧
      n.identifying.perform .exit = .ok ⟨.ok (), m'⟩ ∧ m'.state.reg 3 = 0x1234 := by
  have ran : ((Machine.new renamed (StillVcpu.new selecting) (.ok WallTimer.new)
        ⟨.accepting, none, none, NoHypercalls.mk⟩).toOption.any fun start =>
      (start.perform .exit).toOption.any fun r => r.answer.isOk &&
        (decide (r.machine.identifying.snapshot.Reads (.ident .midr) 3) &&
          (r.machine.identifying.perform .exit).toOption.any fun q =>
            q.answer.isOk && true)) = true := by
    unfold Machine.new
    rw [Gic.initial_listed]
    decide +kernel
  obtain ⟨start, built, ran⟩ := Checked.ok_of_any ran
  obtain ⟨n, selected, ran⟩ := done_of_any ran
  obtain ⟨reads, ran⟩ := Bool.and_eq_true_iff.mp ran
  have reads := of_decide_eq_true reads
  obtain ⟨m', identified, -⟩ := done_of_any ran
  have run : Served start n.identifying := by
    have stored : Served start n := .call .exit .start selected
    refine stored.beside ?_
    unfold identifying
    rw [state_setState]
  have regs := (identity_fixed built run reads).2 .exit m' (.inl rfl) identified
  refine ⟨start, n, m', built, selected, reads, identified, ?_⟩
  have midr : (renamed.overrides[IdRegister.midr.name]?).getD IdRegister.midr.initial = 0x1234 := by
    decide +kernel
  rw [midr] at regs
  unfold VcpuState.reg
  rw [regs]
  simp

end Machine

end VmMonitor
