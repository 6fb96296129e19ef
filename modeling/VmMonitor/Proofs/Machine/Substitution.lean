import VmMonitor.Proofs.Machine.Terminal

/-!
A machine asks its host timer for nothing but the calls that a host timer offers. Where one timer
answers them as another does, what the machine does is the same, whichever of the two it has.
-/

namespace VmMonitor

-- What the first timer does can be read off the second.
structure Simulates {τ υ : Type} [HostTimer τ] [HostTimer υ] (f : τ → υ) : Prop where
  arm : ∀ t ns, HostTimer.arm (f t) ns = (HostTimer.arm t ns).map fun r => (r.1, f r.2)
  markWaited : ∀ t, HostTimer.markWaited (f t) =
    ((HostTimer.markWaited t).1, f (HostTimer.markWaited t).2)
  clear : ∀ t, HostTimer.clear (f t) = ((HostTimer.clear t).1, f (HostTimer.clear t).2)

-- And it runs out when the second one does.
structure Paces {τ υ : Type} [HostTimer τ] [HostTimer υ] [ClockDriven τ] [ClockDriven υ]
    (f : τ → υ) : Prop extends Simulates f where
  advance : ∀ t ns, ClockDriven.advance (f t) ns =
    (ClockDriven.advance t ns).map fun r => (r.1, f r.2)

variable {τ υ : Type}

namespace VirtualTimer

def through (f : τ → υ) (t : VirtualTimer τ) : VirtualTimer υ := ⟨f t.host, t.ticksPerMs, t.armedAt⟩

variable {f : τ → υ} [HostTimer τ] [HostTimer υ]

theorem schedule_through (simulates : Simulates f) (t : VirtualTimer τ) (regs : TimerRegisters)
    (gic : Gic) :
    (t.through f).schedule regs gic =
      (t.schedule regs gic).map fun r => (r.1, r.2.1.through f, r.2.2) := by
  unfold schedule
  split
  · rfl
  split
  · rfl
  change (t.ticksToMicros (ticksLeft regs) >>= _) = _
  cases t.ticksToMicros (ticksLeft regs) with
  | error fault => rfl
  | ok micros =>
      change (HostTimer.arm (f t.host) (micros.toNat * 1000) >>= _) =
        (HostTimer.arm t.host (micros.toNat * 1000) >>= _).map _
      rw [simulates.arm]
      cases HostTimer.arm t.host (micros.toNat * 1000) with
      | error fault => rfl
      | ok armed =>
          obtain ⟨answer, host⟩ := armed
          cases answer <;> rfl

theorem cancel_through (simulates : Simulates f) (t : VirtualTimer τ) :
    (t.through f).cancel = (t.cancel.1, t.cancel.2.through f) := by
  cases called : HostTimer.clear t.host with
  | mk answer host =>
      have same : HostTimer.clear (t.through f).host = (answer, f host) := by
        rw [show (t.through f).host = f t.host from rfl, simulates.clear, called]
      simp only [cancel, called, same]
      cases answer <;> rfl

theorem handleTimeout_through (simulates : Simulates f) (t : VirtualTimer τ)
    (regs : TimerRegisters) (gic : Gic) :
    (t.through f).handleTimeout regs gic =
      ((t.handleTimeout regs gic).1, (t.handleTimeout regs gic).2.1.through f,
        (t.handleTimeout regs gic).2.2) := by
  obtain ⟨host, ticks, armedAt⟩ := t
  unfold handleTimeout through
  dsimp only
  rw [simulates.markWaited]
  cases HostTimer.markWaited host with
  | mk answer host =>
      cases answer with
      | error cause => rfl
      | ok adjusted =>
          cases adjusted with
          | true => rfl
          | false => cases armedAt <;> rfl

end VirtualTimer

namespace Platform

variable {δ η : Type} {f : τ → υ}

def through (f : τ → υ) (p : Platform δ τ η) : Platform δ υ η :=
  ⟨p.board, p.bus, p.timer.through f, p.hypercalls⟩

end Platform

def Exited.through {δ η α : Type} (f : τ → υ) (r : Exited δ τ η α) : Exited δ υ η α :=
  ⟨r.answer, r.state, r.platform.through f⟩

namespace Platform

variable {δ η : Type} {f : τ → υ} (p : Platform δ τ η) (s : VcpuState)

theorem dataAbort_through [BusDevice δ] :
    (p.through f).dataAbort s = (p.dataAbort s).map (Exited.through f) := by
  unfold dataAbort
  dsimp only
  split
  · rfl
  split
  · rfl
  split
  · change (p.bus.write p.board s.faultAddress _ _ >>= _) = _
    cases p.bus.write p.board s.faultAddress _ _ with
    | error fault => rfl
    | ok r =>
        obtain ⟨answer, bus, board⟩ := r
        cases answer <;> rfl
  · change (p.bus.read p.board s.faultAddress _ >>= _) = _
    cases p.bus.read p.board s.faultAddress _ with
    | error fault => rfl
    | ok r =>
        obtain ⟨answer, bus, board⟩ := r
        cases answer <;> rfl

theorem hypercall_through [HypercallHandler η] :
    (p.through f).hypercall s = (p.hypercall s).through f := by
  unfold hypercall
  dsimp only
  split
  · cases Psci.call (s.reg 0).toUInt32 (s.reg 1) (s.reg 2) <;> rfl
  · rfl

theorem physicalIrq_through :
    (p.through f).physicalIrq s = ((p.physicalIrq s).1, (p.physicalIrq s).2.through f) := by
  unfold physicalIrq
  split
  · rfl
  split <;> rfl

variable [HostTimer τ] [HostTimer υ]

theorem waitFor_through (simulates : Simulates f) :
    (p.through f).waitFor s = (p.waitFor s).map (Exited.through f) := by
  unfold waitFor
  split
  · rfl
  · dsimp only
    change ((p.timer.through f).schedule s.advancePc.timer p.board.gic >>= _) =
      (p.timer.schedule s.advancePc.timer p.board.gic >>= _).map _
    rw [VirtualTimer.schedule_through simulates]
    cases p.timer.schedule s.advancePc.timer p.board.gic with
    | error fault => rfl
    | ok r =>
        obtain ⟨answer, timer, gic⟩ := r
        cases answer <;> rfl

theorem handleExit_through [BusDevice δ] [HypercallHandler η] (simulates : Simulates f) :
    (p.through f).handleExit s = (p.handleExit s).map (Exited.through f) := by
  unfold handleExit
  split
  · unfold synchronous
    split
    · split <;> rfl
    · exact congrArg Except.ok (hypercall_through p s)
    · exact dataAbort_through p s
    · exact waitFor_through p s simulates
    · rfl
  · rw [physicalIrq_through]
    rfl
  · rw [physicalIrq_through]
    rfl
  · rfl
  · rfl
  · rfl

end Platform

namespace Machine

variable {ν η : Type} {f : τ → υ}

def through (f : τ → υ) (m : Machine ν τ η) : Machine ν υ η :=
  ⟨m.vcpu, m.platform.through f, m.events, m.idle, m.halted, m.exit⟩

end Machine

def Stepped.through {ν η α : Type} (f : τ → υ) (r : Stepped ν τ η α) : Stepped ν υ η α :=
  ⟨r.answer, r.machine.through f⟩

namespace Machine

variable {ν η : Type} {f : τ → υ} (m : Machine ν τ η)

theorem andThen_through {α β : Type} {first : Stepped ν τ η α}
    (next : α → Machine ν τ η → Checked (Stepped ν τ η β))
    (next' : α → Machine ν υ η → Checked (Stepped ν υ η β))
    (same : ∀ a n, next' a (through f n) = (next a n).map (Stepped.through f)) :
    Stepped.andThen (first.through f) next' =
      (Stepped.andThen first next).map (Stepped.through f) := by
  obtain ⟨answer, n⟩ := first
  cases answer with
  | ok a => exact same a n
  | error e => rfl

theorem advance_through [HostTimer τ] [HostTimer υ] [ClockDriven τ] [ClockDriven υ]
    (paces : Paces f) (ns : UInt64) :
    (m.through f).advance ns = (m.advance ns).map (through f) := by
  unfold advance
  change (ClockDriven.advance (f m.platform.timer.host) ns >>= _) =
    (ClockDriven.advance m.platform.timer.host ns >>= _).map _
  rw [paces.advance]
  cases ClockDriven.advance m.platform.timer.host ns with
  | error fault => rfl
  | ok passed =>
      refine congrArg Except.ok ?_
      rw [queue_all, queue_all]
      rfl

theorem acceptInput_through (base : UInt64) (data : List UInt8) :
    (m.through f).acceptInput base data = (m.acceptInput base data).map (Stepped.through f) := by
  unfold acceptInput
  change (m.platform.bus.input m.board base data >>= _) =
    (m.platform.bus.input m.board base data >>= _).map _
  cases m.platform.bus.input m.board base data with
  | error fault => rfl
  | ok r =>
      obtain ⟨answer, bus, board⟩ := r
      cases answer <;> rfl

section Vcpu

variable [VcpuSession ν]

theorem pauseVcpu_through : (m.through f).pauseVcpu = m.pauseVcpu.through f := by
  unfold pauseVcpu through
  dsimp only
  split
  · cases VcpuSession.pause m.vcpu with
    | mk answer vcpu => cases answer <;> rfl
  · rfl

theorem resumeVcpu_through : (m.through f).resumeVcpu = m.resumeVcpu.through f := by
  unfold resumeVcpu through
  dsimp only
  cases VcpuSession.run m.vcpu with
  | mk answer vcpu => cases answer <;> rfl

theorem deliver_through (n : Gic.Notification) :
    (m.through f).deliver n = (m.deliver n).through f := by
  obtain ⟨line, handler, kind⟩ := n
  cases handler with
  | timer => cases kind <;> rfl
  | device base =>
      cases kind with
      | completed =>
          unfold deliver
          change (if (m.platform.bus.endOfInterrupt m.board base line).1 then _ else _) =
            through f (if (m.platform.bus.endOfInterrupt m.board base line).1 then _ else _)
          split <;> rfl
      | levelChanged level =>
          unfold deliver
          change (if (m.platform.bus.levelChanged m.board base line level).1 then _ else _) =
            through f (if (m.platform.bus.levelChanged m.board base line level).1 then _ else _)
          split <;> rfl

theorem deliverAll_through (rounds : Nat) :
    deliverAll rounds (m.through f) = (deliverAll rounds m).through f := by
  induction rounds generalizing m with
  | zero => rfl
  | succ rounds ih =>
      have heard (l : List Gic.Notification) (n : Machine ν τ η) :
          l.foldl deliver (n.through f) = (l.foldl deliver n).through f := by
        induction l generalizing n with
        | nil => rfl
        | cons first rest ih =>
            rw [List.foldl_cons, List.foldl_cons, deliver_through, ih]
      unfold deliverAll
      change (if m.board.gic.notifications.isEmpty then _ else _) =
        through f (if m.board.gic.notifications.isEmpty then _ else _)
      split
      · rfl
      · rw [← ih, ← heard]
        rfl

variable [HostTimer τ] [HostTimer υ]

omit [VcpuSession ν] in
theorem cancelTimer_through (simulates : Simulates f) :
    (m.through f).cancelTimer = m.cancelTimer.through f := by
  cases called : m.platform.timer.cancel with
  | mk answer timer =>
      have same : (m.through f).platform.timer.cancel = (answer, timer.through f) := by
        rw [show (m.through f).platform.timer = m.platform.timer.through f from rfl,
          VirtualTimer.cancel_through simulates, called]
      simp only [cancelTimer, called, same]
      cases answer <;> rfl

theorem arbitrate_through (simulates : Simulates f) :
    (m.through f).arbitrate = m.arbitrate.map (Stepped.through f) := by
  unfold arbitrate
  change (m.board.gic.arbitrate >>= _) = (m.board.gic.arbitrate >>= _).map _
  cases m.board.gic.arbitrate with
  | error fault => rfl
  | ok found =>
      obtain ⟨presented, gic⟩ := found
      change (if presented.isSome && m.idle then _ else _) =
        (if presented.isSome && m.idle then _ else _ : Checked _).map _
      split
      · exact congrArg Except.ok (cancelTimer_through { m.choose gic with idle := false } simulates)
      · rfl

theorem fail_through (simulates : Simulates f) (e : MachineError) :
    (m.through f).fail e = (m.fail e).through f := by
  have cancelled : ((m.through f).halting e).cancelTimer = (m.halting e).cancelTimer.through f :=
    cancelTimer_through (m.halting e) simulates
  rcases fail_parts m e with ⟨done, same⟩ | ⟨cause, refused, same⟩
  · rcases fail_parts (m.through f) e with ⟨_, same'⟩ | ⟨_, refused, _⟩
    · rw [same, same', cancelled]
      rfl
    · rw [cancelled] at refused
      cases done.symm.trans refused
  · rcases fail_parts (m.through f) e with ⟨done, _⟩ | ⟨cause', refused', same'⟩
    · rw [cancelled] at done
      cases refused.symm.trans done
    · rw [same, same']
      rw [cancelled] at refused' ⊢
      cases refused.symm.trans refused'
      rfl

theorem settle_through (simulates : Simulates f) :
    (m.through f).settle = m.settle.map (Stepped.through f) := by
  unfold settle
  change (if m.exit.isSome then _ else _) = (if m.exit.isSome then _ else _ : Checked _).map _
  split
  · rfl
  · rw [deliverAll_through, arbitrate_through _ simulates]
    cases (deliverAll deliveryRounds m).arbitrate with
    | error fault => rfl
    | ok r =>
        have last (u : Unit) (n : Machine ν τ η) :
            (if (n.through f).idle then .ok ⟨.ok (), n.through f⟩
              else .ok (n.through f).resumeVcpu) =
              (if n.idle then .ok ⟨.ok (), n⟩ else .ok n.resumeVcpu : Checked _).map
                (Stepped.through f) := by
          change (if n.idle then _ else _) = _
          split
          · rfl
          · exact congrArg Except.ok (resumeVcpu_through n)
        exact andThen_through (f := f)
          (fun _ (n : Machine ν τ η) =>
            if n.idle then .ok ⟨.ok (), n⟩ else .ok n.resumeVcpu)
          (fun _ (n : Machine ν υ η) =>
            if n.idle then .ok ⟨.ok (), n⟩ else .ok n.resumeVcpu)
          last

theorem envelope_through (simulates : Simulates f)
    (body : Machine ν τ η → Checked (Stepped ν τ η Unit))
    (body' : Machine ν υ η → Checked (Stepped ν υ η Unit))
    (same : ∀ n, body' (through f n) = (body n).map (Stepped.through f)) :
    (m.through f).envelope body' = (m.envelope body).map (Stepped.through f) := by
  unfold envelope
  rw [pauseVcpu_through, andThen_through (fun _ n => body n) _ fun _ n => same n]
  cases Stepped.andThen m.pauseVcpu fun _ m => body m with
  | error fault => rfl
  | ok r =>
      change (Stepped.andThen (r.through f) _ >>= _) = (Stepped.andThen r _ >>= _).map _
      rw [andThen_through (fun _ n => n.settle) _ fun _ n => settle_through n simulates]
      cases Stepped.andThen r fun _ m => m.settle with
      | error fault => rfl
      | ok settled =>
          obtain ⟨answer, n⟩ := settled
          cases answer with
          | ok u => rfl
          | error e =>
              change Except.ok (⟨.error e, (n.through f).fail e⟩ : Stepped ν υ η Unit) = _
              rw [fail_through n simulates]
              rfl

omit [VcpuSession ν] in
theorem stop_through (simulates : Simulates f) (event : PowerEvent) :
    (m.through f).stop event = (m.stop event).through f := by
  unfold stop
  rw [cancelTimer_through m simulates]
  cases m.cancelTimer with
  | mk answer n =>
      cases answer with
      | error e => rfl
      | ok u => cases event <;> rfl

theorem expireTimer_through (simulates : Simulates f) :
    (m.through f).expireTimer = m.expireTimer.through f := by
  cases called : m.platform.timer.handleTimeout m.state.timer m.board.gic with
  | mk answer rest =>
      obtain ⟨timer, regs, gic⟩ := rest
      have same : (m.through f).platform.timer.handleTimeout (m.through f).state.timer
          (m.through f).board.gic = (answer, timer.through f, regs, gic) := by
        rw [show (m.through f).platform.timer = m.platform.timer.through f from rfl,
          VirtualTimer.handleTimeout_through simulates,
          show (m.through f).state = m.state from rfl,
          show (m.through f).board = m.board from rfl, called]
      simp only [expireTimer, called, same]
      cases answer <;> rfl

variable [HypercallHandler η]

theorem dispatchExit_through (simulates : Simulates f) :
    (m.through f).dispatchExit = m.dispatchExit.map (Stepped.through f) := by
  unfold dispatchExit
  change ((m.platform.through f).handleExit m.state >>= _) =
    (m.platform.handleExit m.state >>= _).map _
  rw [Platform.handleExit_through _ _ simulates]
  cases m.platform.handleExit m.state with
  | error fault => rfl
  | ok r =>
      obtain ⟨answer, s, platform⟩ := r
      cases answer with
      | error e => rfl
      | ok outcome =>
          cases outcome with
          | resume => rfl
          | idle => rfl
          | shutdown event =>
              let taken : Machine ν τ η := { m with platform := platform }
              have stopped := stop_through (taken.setState s) simulates event
              exact congrArg Except.ok stopped

theorem handleEvent_through (simulates : Simulates f) (e : MachineEvent) :
    (m.through f).handleEvent e = (m.handleEvent e).map (Stepped.through f) := by
  unfold handleEvent
  change (if m.halted then _ else _) = (if m.halted then _ else _ : Checked _).map _
  split
  · rfl
  change (if m.exit.isSome then _ else _) = (if m.exit.isSome then _ else _ : Checked _).map _
  split
  · rfl
  cases e with
  | exited => exact envelope_through m simulates _ _ fun n => dispatchExit_through n simulates
  | timerExpired =>
      exact envelope_through m simulates _ _ fun n =>
        congrArg Except.ok (expireTimer_through n simulates)
  | terminalInput base data | frameReceived base data =>
      exact envelope_through m simulates _ _ fun n => acceptInput_through n base data
  | shutdown =>
      change (m.through f).shutDown = m.shutDown.map _
      unfold shutDown
      rw [pauseVcpu_through]
      refine andThen_through (fun _ n => Stepped.andThen n.cancelTimer _) _ fun _ n => ?_
      rw [cancelTimer_through n simulates]
      exact andThen_through _ _ fun _ _ => rfl

theorem handleAll_through (simulates : Simulates f) (l : List MachineEvent) :
    handleAll l (m.through f) = (handleAll l m).map (Stepped.through f) := by
  induction l generalizing m with
  | nil => rfl
  | cons e rest ih =>
      unfold handleAll
      change (if m.exit.isSome then _ else _) = (if m.exit.isSome then _ else _ : Checked _).map _
      split
      · rfl
      · change ((through f { m with events := rest }).handleEvent e >>= _) = _
        rw [handleEvent_through _ simulates]
        cases handleEvent { m with events := rest } e with
        | error fault => rfl
        | ok first => exact andThen_through (fun _ n => handleAll rest n) _ fun _ n => ih n

theorem run_through (simulates : Simulates f) :
    (m.through f).run = m.run.map (Stepped.through f) := by
  unfold Machine.run
  rw [envelope_through m simulates (fun n => .ok ⟨.ok (), n⟩) _ fun _ => rfl]
  cases m.envelope fun m => .ok ⟨.ok (), m⟩ with
  | error fault => rfl
  | ok started =>
      change (Stepped.andThen (started.through f) _ >>= _) =
        (Stepped.andThen started _ >>= _).map _
      rw [andThen_through (fun _ n => n.processPending) _ fun _ n =>
        handleAll_through n simulates n.events]
      cases Stepped.andThen started fun _ m => m.processPending with
      | error fault => rfl
      | ok drained =>
          exact andThen_through (f := f)
            (fun (_ : Unit) (n : Machine ν τ η) => .ok ⟨.ok n.exit, n⟩)
            (fun (_ : Unit) (n : Machine ν υ η) => .ok ⟨.ok n.exit, n⟩) fun _ _ => rfl

-- Whatever is called, the machine answers the same and becomes the same.
theorem perform_through (simulates : Simulates f) (c : Call) :
    (m.through f).perform c = (m.perform c).map (Stepped.through f) := by
  cases c with
  | event e => exact handleEvent_through m simulates e
  | exit => exact envelope_through m simulates _ _ fun n => dispatchExit_through n simulates
  | process => exact handleAll_through m simulates m.events
  | run =>
      unfold perform
      dsimp only
      rw [run_through m simulates]
      cases m.run <;> rfl

end Vcpu

end Machine

end VmMonitor
