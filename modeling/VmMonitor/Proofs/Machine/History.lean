import VmMonitor.Proofs.Machine.Delivery

/-!
Histories of a machine: its start, events and exits in any order, and between them whatever the
guest and the host do beside the machine. Every history is a sequence of steps of the wiring.
-/

namespace VmMonitor

open Wiring

namespace Machine

variable {ν τ η : Type} {m m' m'' : Machine ν τ η} {lost : UInt64 → Nat → Prop}

-- As long as the machine has not exited, what happened are steps of the wiring. An exit is final.
structure Follows (lost : UInt64 → Nat → Prop) (m m' : Machine ν τ η) : Prop where
  exit : m'.exit = none → m.exit = none
  steps : m'.exit = none → Steps lost (m.wiring []) (m'.wiring [])

theorem Follows.refl (m : Machine ν τ η) : Follows lost m m := ⟨id, fun _ => .refl⟩

theorem Follows.trans (first : Follows lost m m') (second : Follows lost m' m'') :
    Follows lost m m'' :=
  ⟨fun up => first.exit (second.exit up),
    fun up => (first.steps (second.exit up)).trans (second.steps up)⟩

theorem Follows.mono {more : UInt64 → Nat → Prop} (wider : ∀ base q, lost base q → more base q)
    (follows : Follows lost m m') : Follows more m m' :=
  ⟨follows.exit, fun up => (follows.steps up).mono wider⟩

theorem follows_of (exit : m'.exit = m.exit)
    (steps : Steps lost (m.wiring []) (m'.wiring [])) : Follows lost m m' :=
  ⟨fun up => exit ▸ up, fun _ => steps⟩

theorem follows_same (exit : m'.exit = m.exit) (wiring : m'.wiring [] = m.wiring []) :
    Follows lost m m' :=
  follows_of exit (wiring ▸ .refl)

-- What may happen beside the machine: the guest runs, time passes, and events arrive. The devices
-- and the controller are the machine's own.
structure Outside (m m' : Machine ν τ η) : Prop where
  bus : m'.platform.bus = m.platform.bus
  gic : m'.board.gic = m.board.gic
  idle : m'.idle = m.idle
  halted : m'.halted = m.halted
  exit : m'.exit = m.exit

theorem outside_follows (beside : Outside m m') : Follows lost m m' := by
  refine follows_same beside.exit ?_
  unfold wiring Platform.wiring
  rw [beside.bus, show m'.platform.board.gic = m.platform.board.gic from beside.gic]

theorem queue_outside (m : Machine ν τ η) (e : MachineEvent) : Outside m (m.queue e) :=
  ⟨rfl, rfl, rfl, rfl, rfl⟩

theorem queue_all (l : List MachineEvent) (m : Machine ν τ η) :
    l.foldl queue m = { m with events := m.events ++ l } := by
  induction l generalizing m with
  | nil => simp
  | cons e rest ih => simp [ih, queue]

-- As time passes, nothing but the host timer and the queue is touched.
theorem advance_parts [ClockDriven τ] {ns : UInt64} (done : m.advance ns = .ok m') :
    ∃ fired host, ClockDriven.advance m.platform.timer.host ns = .ok (fired, host) ∧
      m' = { m with
        platform := { m.platform with timer := { m.platform.timer with host := host } }
        events := m.events ++ List.replicate fired .timerExpired } := by
  unfold advance at done
  obtain ⟨⟨fired, host⟩, passed, done⟩ := Checked.bind_eq_ok.mp done
  cases done
  exact ⟨fired, host, passed, queue_all _ _⟩

theorem advance_outside [ClockDriven τ] {ns : UInt64} (done : m.advance ns = .ok m') :
    Outside m m' := by
  obtain ⟨fired, host, _, rfl⟩ := advance_parts done
  exact ⟨rfl, rfl, rfl, rfl, rfl⟩

-- Either the first part failed and that was all, or the second part ran.
theorem andThen_ok {α β : Type} {first : Stepped ν τ η α} {r : Stepped ν τ η β}
    {next : α → Machine ν τ η → Checked (Stepped ν τ η β)}
    (done : Stepped.andThen first next = .ok r) :
    (∃ a, first.answer = .ok a ∧ next a first.machine = .ok r) ∨
      ∃ e, first.answer = .error e ∧ r = ⟨.error e, first.machine⟩ := by
  unfold Stepped.andThen at done
  cases answer : first.answer with
  | ok a =>
      rw [answer] at done
      exact .inl ⟨a, rfl, done⟩
  | error e =>
      rw [answer] at done
      cases done
      exact .inr ⟨e, rfl, rfl⟩

-- What passes a check of its answer has one of success.
theorem done_of_any {x : Checked (Stepped ν τ η Unit)} {p : Stepped ν τ η Unit → Bool}
    (passed : x.toOption.any (fun r => r.answer.isOk && p r) = true) :
    ∃ m', x = .ok ⟨.ok (), m'⟩ ∧ p ⟨.ok (), m'⟩ = true := by
  obtain ⟨⟨answer, m'⟩, done, both⟩ := Checked.ok_of_any passed
  obtain ⟨fine, kept⟩ := Bool.and_eq_true_iff.mp both
  cases answer with
  | error e => cases fine
  | ok u => exact ⟨m', done, kept⟩

theorem andThen_follows {α β : Type} {first : Stepped ν τ η α} {r : Stepped ν τ η β}
    {next : α → Machine ν τ η → Checked (Stepped ν τ η β)}
    (done : Stepped.andThen first next = .ok r) (before : Follows lost m first.machine)
    (after : ∀ a, next a first.machine = .ok r → Follows lost first.machine r.machine) :
    Follows lost m r.machine := by
  rcases andThen_ok done with ⟨a, _, ran⟩ | ⟨e, _, rfl⟩
  · exact before.trans (after a ran)
  · exact before

section Vcpu

variable [VcpuSession ν]

-- The state of the guest that an exit would be handled with.
def snapshot (m : Machine ν τ η) : VcpuState := m.pauseVcpu.machine.state

theorem pauseVcpu_follows (m : Machine ν τ η) : Follows lost m m.pauseVcpu.machine := by
  unfold pauseVcpu
  split
  · split <;> exact follows_same rfl rfl
  · exact .refl m

theorem resumeVcpu_follows (m : Machine ν τ η) : Follows lost m m.resumeVcpu.machine := by
  unfold resumeVcpu
  split <;> exact follows_same rfl rfl

theorem resumeVcpu_frame (m : Machine ν τ η) :
    m.resumeVcpu.machine.board = m.board ∧ m.resumeVcpu.machine.idle = m.idle := by
  unfold resumeVcpu
  split <;> exact ⟨rfl, rfl⟩

theorem deliver_exit (m : Machine ν τ η) (n : Gic.Notification) :
    (m.deliver n).exit = m.exit := by
  unfold deliver
  split
  · dsimp only
    split <;> split <;> rfl
  · split <;> rfl

theorem deliverAll_exit (m : Machine ν τ η) :
    (deliverAll deliveryRounds m).exit = m.exit :=
  deliverAll_keeps (P := fun n => n.exit = m.exit) (fun _ _ same => same)
    (fun n heard same => (deliver_exit n heard).trans same) rfl

end Vcpu

theorem cancelTimer_frame [HostTimer τ] (m : Machine ν τ η) :
    m.cancelTimer.machine.vcpu = m.vcpu ∧ m.cancelTimer.machine.board = m.board ∧
      m.cancelTimer.machine.idle = m.idle := by
  unfold cancelTimer
  dsimp only
  split <;> exact ⟨rfl, rfl, rfl⟩

theorem cancelTimer_follows [HostTimer τ] (m : Machine ν τ η) :
    Follows lost m m.cancelTimer.machine := by
  unfold cancelTimer
  dsimp only
  split <;> exact follows_same rfl rfl

theorem stop_follows [HostTimer τ] (m : Machine ν τ η) (event : PowerEvent) :
    Follows lost m (m.stop event).machine := by
  unfold stop
  dsimp only
  split
  · exact cancelTimer_follows m
  · exact ⟨nofun, nofun⟩

theorem acceptInput_follows {base : UInt64} {data : List UInt8} {r : Stepped ν τ η Unit}
    (done : m.acceptInput base data = .ok r) : Follows lost m r.machine := by
  unfold acceptInput at done
  obtain ⟨answered, reached, done⟩ := Checked.bind_eq_ok.mp done
  have steps : Steps lost (m.wiring []) ⟨answered.device, answered.board.gic, []⟩ :=
    Bus.input_steps reached
  dsimp only at done
  split at done <;> cases done <;> exact follows_of rfl steps

section Parts

variable [VcpuSession ν] [HostTimer τ]

-- The choice of the controller as the guest sees it.
def choose (m : Machine ν τ η) (gic : Gic) : Machine ν τ η :=
  (m.setBoard { m.board with gic := gic }).setState
    { m.state with irqs := { m.state.irqs with virtualIrq := UInt32.ofNat gic.presented } }

theorem arbitrate_parts {r : Stepped ν τ η Unit} (done : m.arbitrate = .ok r) :
    ∃ presented gic, m.board.gic.arbitrate = .ok (presented, gic) ∧
      ((presented.isSome && m.idle) = true ∧
          r = cancelTimer { m.choose gic with idle := false } ∨
        (presented.isSome && m.idle) = false ∧ r = ⟨.ok (), m.choose gic⟩) := by
  unfold arbitrate at done
  obtain ⟨⟨presented, gic⟩, chosen, done⟩ := Checked.bind_eq_ok.mp done
  refine ⟨presented, gic, chosen, ?_⟩
  change (if presented.isSome && m.idle then
    .ok (cancelTimer { m.choose gic with idle := false }) else .ok ⟨.ok (), m.choose gic⟩) =
      Except.ok r at done
  split at done
  · rename_i woken
    cases done
    exact .inl ⟨woken, rfl⟩
  · rename_i still
    cases done
    exact .inr ⟨Bool.eq_false_iff.mpr still, rfl⟩

theorem arbitrate_gic {r : Stepped ν τ η Unit} (done : m.arbitrate = .ok r) :
    ∃ presented, m.board.gic.arbitrate = .ok (presented, r.machine.board.gic) := by
  obtain ⟨presented, gic, chosen, cases⟩ := arbitrate_parts done
  refine ⟨presented, ?_⟩
  rcases cases with ⟨_, rfl⟩ | ⟨_, rfl⟩
  · rw [(cancelTimer_frame _).2.1]
    exact chosen
  · exact chosen

theorem arbitrate_follows {r : Stepped ν τ η Unit} (done : m.arbitrate = .ok r) :
    Follows lost m r.machine := by
  obtain ⟨presented, gic, chosen, cases⟩ := arbitrate_parts done
  have step : Steps lost (m.wiring []) ((m.choose gic).wiring []) := .single (.arbitrated chosen)
  rcases cases with ⟨_, rfl⟩ | ⟨_, rfl⟩
  · have woken : Follows lost m { m.choose gic with idle := false } := follows_of rfl step
    exact woken.trans (cancelTimer_follows _)
  · exact follows_of rfl step

theorem settle_follows {r : Stepped ν τ η Unit} (done : m.settle = .ok r) :
    Follows lost m r.machine := by
  unfold settle at done
  split at done
  · cases done
    exact .refl m
  · obtain ⟨arbitrated, chosen, done⟩ := Checked.bind_eq_ok.mp done
    refine (follows_of (deliverAll_exit m) (deliverAll_steps m)).trans ?_
    refine andThen_follows done (arbitrate_follows chosen) fun _ ran => ?_
    split at ran
    · cases ran
      exact .refl _
    · cases ran
      exact resumeVcpu_follows _

-- A machine that is about to fail.
def halting (m : Machine ν τ η) (e : MachineError) : Machine ν τ η :=
  { (m.logError s!"vm: fatal error: {e.message}").logError m.state.dump with halted := true }

-- Failing is not stopped by a timer that cannot be cancelled; that is one more line in the log.
theorem fail_parts (m : Machine ν τ η) (e : MachineError) :
    ((m.halting e).cancelTimer.answer = .ok () ∧ m.fail e = (m.halting e).cancelTimer.machine) ∨
      ∃ cause, (m.halting e).cancelTimer.answer = .error cause ∧
        m.fail e = (m.halting e).cancelTimer.machine.warn
          s!"vm: failed to cancel the timer: {cause.message}" := by
  unfold fail
  dsimp only
  split
  · rename_i cancelled
    exact .inl ⟨cancelled, rfl⟩
  · rename_i cause refused
    exact .inr ⟨cause, refused, rfl⟩

theorem fail_vcpu (m : Machine ν τ η) (e : MachineError) : (m.fail e).vcpu = m.vcpu := by
  rcases fail_parts m e with ⟨_, same⟩ | ⟨cause, _, same⟩
  · rw [same]
    exact (cancelTimer_frame _).1
  · rw [same]
    exact (cancelTimer_frame _).1

theorem fail_follows (m : Machine ν τ η) (e : MachineError) : Follows lost m (m.fail e) := by
  have logged : Follows lost m (m.halting e) := follows_same rfl rfl
  have cancelled := logged.trans (cancelTimer_follows _)
  rcases fail_parts m e with ⟨_, same⟩ | ⟨cause, _, same⟩
  · rw [same]
    exact cancelled
  · rw [same]
    exact cancelled.trans (follows_same rfl rfl)

-- What every part of the envelope keeps, the whole envelope keeps.
theorem envelope_keeps {P Q : Machine ν τ η → Prop}
    {body : Machine ν τ η → Checked (Stepped ν τ η Unit)} {r : Stepped ν τ η Unit}
    (done : m.envelope body = .ok r) (refused : ∀ e, P (m.pauseVcpu.machine.fail e))
    (effect : ∀ ran, body m.pauseVcpu.machine = .ok ran → Q ran.machine)
    (settles : ∀ {n : Machine ν τ η} {r : Stepped ν τ η Unit}, Q n → n.settle = .ok r →
      P r.machine)
    (fails : ∀ {n : Machine ν τ η} (e : MachineError), Q n ∨ P n → P (n.fail e)) :
    P r.machine := by
  unfold envelope at done
  obtain ⟨ran, started, done⟩ := Checked.bind_eq_ok.mp done
  obtain ⟨settled, ended, done⟩ := Checked.bind_eq_ok.mp done
  rcases andThen_ok started with ⟨_, _, took⟩ | ⟨e, _, rfl⟩
  · have taken := effect ran took
    rcases andThen_ok ended with ⟨_, _, closed⟩ | ⟨e, _, rfl⟩
    · have through := settles taken closed
      split at done
      · cases done
        exact through
      · cases done
        exact fails _ (.inr through)
    · cases done
      exact fails _ (.inl taken)
  · cases ended
    cases done
    exact refused e

theorem envelope_follows {body : Machine ν τ η → Checked (Stepped ν τ η Unit)}
    {r : Stepped ν τ η Unit} (done : m.envelope body = .ok r)
    (effect : ∀ r, body m.pauseVcpu.machine = .ok r →
      Follows lost m.pauseVcpu.machine r.machine) : Follows lost m r.machine := by
  have paused : Follows lost m m.pauseVcpu.machine := pauseVcpu_follows m
  apply envelope_keeps (P := Follows lost m) (Q := Follows lost m) done
  · exact fun e => paused.trans (fail_follows _ e)
  · exact fun ran took => paused.trans (effect ran took)
  · exact fun taken closed => taken.trans (settle_follows closed)
  · exact fun e kept => (kept.elim id id).trans (fail_follows _ e)

theorem expireTimer_follows (m : Machine ν τ η) : Follows lost m m.expireTimer.machine := by
  have steps : Steps lost (m.wiring []) ⟨m.platform.bus,
      (m.platform.timer.handleTimeout m.state.timer m.board.gic).2.2.2, []⟩ :=
    Platform.timer_steps (VirtualTimer.handleTimeout_gic ..)
  unfold expireTimer
  dsimp only
  split <;> exact follows_of rfl steps

theorem envelope_ended {body : Machine ν τ η → Checked (Stepped ν τ η Unit)}
    (done : m.envelope body = .ok ⟨.ok (), m'⟩) :
    ∃ n, m.pauseVcpu.answer = .ok () ∧ body m.pauseVcpu.machine = .ok ⟨.ok (), n⟩ ∧
      n.settle = .ok ⟨.ok (), m'⟩ := by
  unfold envelope at done
  obtain ⟨ran, started, done⟩ := Checked.bind_eq_ok.mp done
  obtain ⟨settled, ended, done⟩ := Checked.bind_eq_ok.mp done
  split at done
  · cases done
    rcases andThen_ok ended with ⟨_, took, closed⟩ | ⟨e, _, failed⟩
    · rcases andThen_ok started with ⟨_, paused, effect⟩ | ⟨e, _, failed⟩
      · obtain ⟨answer, n⟩ := ran
        cases took
        exact ⟨n, paused, effect, closed⟩
      · rw [failed] at took
        cases took
    · cases failed
  · cases done

-- The way through the end of the envelope of a machine that has not exited.
theorem settle_parts (done : m.settle = .ok ⟨.ok (), m'⟩) (up : m'.exit = none) :
    ∃ n, (deliverAll deliveryRounds m).arbitrate = .ok ⟨.ok (), n⟩ ∧
      (n.idle = true ∧ m' = n ∨ n.idle = false ∧ n.resumeVcpu = ⟨.ok (), m'⟩) := by
  unfold settle at done
  split at done
  · rename_i exited
    cases done
    rw [up] at exited
    cases exited
  obtain ⟨⟨answer, n⟩, ran, done⟩ := Checked.bind_eq_ok.mp done
  rcases andThen_ok done with ⟨_, answered, ended⟩ | ⟨e, _, failed⟩
  · cases answered
    refine ⟨n, ran, ?_⟩
    split at ended
    · cases ended
      exact .inl ⟨‹_›, rfl⟩
    · exact .inr ⟨Bool.eq_false_iff.mpr ‹_›, Except.ok.inj ended⟩
  · cases failed

-- All that is owed has been told when the guest goes on or waits.
theorem settle_told (done : m.settle = .ok ⟨.ok (), m'⟩) (up : m'.exit = none) :
    m'.board.gic.notifications = [] := by
  obtain ⟨n, ran, left⟩ := settle_parts done up
  obtain ⟨presented, chosen⟩ := arbitrate_gic ran
  have told : n.board.gic.notifications = [] := by
    rw [Gic.arbitrate_notifications chosen]
    exact deliverAll_notifications m
  rcases left with ⟨_, rfl⟩ | ⟨_, resumed⟩
  · exact told
  · rw [← (resumeVcpu_frame n).1, resumed] at told
    exact told

end Parts

section Bodies

variable [VcpuSession ν] [HostTimer τ] [HypercallHandler η]

theorem dispatchExit_follows {r : Stepped ν τ η Unit} (done : m.dispatchExit = .ok r) :
    Follows m.state.Withdraws m r.machine := by
  unfold dispatchExit at done
  obtain ⟨exited, handled, done⟩ := Checked.bind_eq_ok.mp done
  have taken : Follows m.state.Withdraws m
      ({ m with platform := exited.platform }.setState exited.state) :=
    follows_of rfl (Platform.handleExit_steps handled)
  dsimp only at done
  split at done
  · cases done
    exact taken
  · cases done
    exact taken
  · cases done
    exact taken.trans (follows_same rfl rfl)
  · cases done
    exact taken.trans (stop_follows _ _)

-- What an event does to a machine whose vCPU stands still.
def effect (e : MachineEvent) (m : Machine ν τ η) : Checked (Stepped ν τ η Unit) :=
  match e with
  | .exited => m.dispatchExit
  | .timerExpired => .ok m.expireTimer
  | .terminalInput base data | .frameReceived base data => m.acceptInput base data
  | .shutdown =>
      Stepped.andThen m.cancelTimer fun _ m => .ok ⟨.ok (), { m with exit := some .shutdown }⟩

theorem effect_follows {e : MachineEvent} {r : Stepped ν τ η Unit} (done : m.effect e = .ok r)
    (spared : e = .exited → ∀ base q, m.state.Withdraws base q → lost base q) :
    Follows lost m r.machine := by
  cases e with
  | exited => exact (dispatchExit_follows done).mono (spared rfl)
  | timerExpired =>
      cases done
      exact expireTimer_follows m
  | terminalInput base data | frameReceived base data => exact acceptInput_follows done
  | shutdown =>
      unfold effect at done
      refine andThen_follows done (cancelTimer_follows _) fun _ ended => ?_
      cases ended
      exact ⟨nofun, nofun⟩

-- An event is refused or dropped, or it takes effect, and all but a shutdown in the envelope.
theorem handleEvent_cases {e : MachineEvent} {r : Stepped ν τ η Unit}
    (done : m.handleEvent e = .ok r) :
    (r.machine = m ∧ (r.answer = .ok () → m.exit ≠ none)) ∨
      (e = .shutdown ∧ Stepped.andThen m.pauseVcpu (fun _ n => n.effect e) = .ok r) ∨
      m.envelope (effect e) = .ok r := by
  unfold handleEvent at done
  split at done
  · cases done
    exact .inl ⟨rfl, nofun⟩
  split at done
  · rename_i exited
    cases done
    exact .inl ⟨rfl, fun _ none => by rw [none] at exited; cases exited⟩
  cases e with
  | exited | timerExpired | terminalInput _ _ | frameReceived _ _ => exact .inr (.inr done)
  | shutdown => exact .inr (.inl ⟨rfl, done⟩)

theorem handleExit_follows {r : Stepped ν τ η Unit} (done : m.handleExit = .ok r) :
    Follows m.snapshot.Withdraws m r.machine :=
  envelope_follows done fun _ => dispatchExit_follows

theorem handleEvent_follows {e : MachineEvent} {r : Stepped ν τ η Unit}
    (done : m.handleEvent e = .ok r)
    (spared : e = .exited → ∀ base q, m.snapshot.Withdraws base q → lost base q) :
    Follows lost m r.machine := by
  rcases handleEvent_cases done with ⟨same, _⟩ | ⟨_, ran⟩ | ran
  · rw [same]
    exact .refl m
  · exact andThen_follows ran (pauseVcpu_follows m) fun _ took => effect_follows took spared
  · exact envelope_follows ran fun _ took => effect_follows took spared

-- An event that was handled, the machine not having exited, went through the whole envelope.
theorem handleEvent_ended {e : MachineEvent} (done : m.handleEvent e = .ok ⟨.ok (), m'⟩)
    (up : m'.exit = none) :
    ∃ n, m.pauseVcpu.answer = .ok () ∧ m.pauseVcpu.machine.effect e = .ok ⟨.ok (), n⟩ ∧
      n.settle = .ok ⟨.ok (), m'⟩ := by
  rcases handleEvent_cases done with ⟨rfl, exited⟩ | ⟨rfl, ran⟩ | ran
  · exact absurd up (exited rfl)
  · rcases andThen_ok ran with ⟨_, _, took⟩ | ⟨e, _, failed⟩
    · unfold effect at took
      rcases andThen_ok took with ⟨_, _, ended⟩ | ⟨e, _, failed⟩
      · cases ended
        cases up
      · cases failed
    · cases failed
  · exact envelope_ended ran

-- A history in which every exit that is handled finds the guest in an allowed state. A call may
-- answer with an error and the history go on.
inductive Run (allowed : VcpuState → Prop) (m : Machine ν τ η) : Machine ν τ η → Prop
  | done : Run allowed m m
  | outside {n n' : Machine ν τ η} (earlier : Run allowed m n) (beside : Outside n n') :
      Run allowed m n'
  | start {n : Machine ν τ η} {r : Stepped ν τ η Unit} (earlier : Run allowed m n)
      (ran : n.envelope (fun n => .ok ⟨.ok (), n⟩) = .ok r) : Run allowed m r.machine
  | event {n : Machine ν τ η} {r : Stepped ν τ η Unit} (e : MachineEvent)
      (earlier : Run allowed m n) (spared : e = .exited → allowed n.snapshot)
      (ran : n.handleEvent e = .ok r) : Run allowed m r.machine
  | exit {n : Machine ν τ η} {r : Stepped ν τ η Unit} (earlier : Run allowed m n)
      (spared : allowed n.snapshot) (ran : n.handleExit = .ok r) : Run allowed m r.machine

theorem run_follows {allowed : VcpuState → Prop}
    (spared : ∀ s, allowed s → ∀ base q, s.Withdraws base q → lost base q)
    (run : Run allowed m m') : Follows lost m m' := by
  induction run with
  | done => exact .refl m
  | outside _ beside ih => exact ih.trans (outside_follows beside)
  | start _ ran ih =>
      refine ih.trans (envelope_follows ran fun _ done => ?_)
      cases done
      exact .refl _
  | event e _ allowed ran ih =>
      exact ih.trans (handleEvent_follows ran fun exited => spared _ (allowed exited))
  | exit _ allowed ran ih =>
      exact ih.trans ((handleExit_follows ran).mono (spared _ allowed))

theorem Run.trans {allowed : VcpuState → Prop} (first : Run allowed m m')
    (second : Run allowed m' m'') : Run allowed m m'' := by
  induction second with
  | done => exact first
  | outside _ beside ih => exact ih.outside beside
  | start _ ran ih => exact ih.start ran
  | event e _ spared ran ih => exact ih.event e spared ran
  | exit _ spared ran ih => exact ih.exit spared ran

-- The loop of the machine itself makes a history.
theorem handleAll_history {l : List MachineEvent} {r : Stepped ν τ η Unit}
    (done : handleAll l m = .ok r) : Run (fun _ => True) m r.machine := by
  induction l generalizing m with
  | nil =>
      cases done
      exact .outside .done ⟨rfl, rfl, rfl, rfl, rfl⟩
  | cons e rest ih =>
      unfold handleAll at done
      split at done
      · cases done
        exact .outside .done ⟨rfl, rfl, rfl, rfl, rfl⟩
      obtain ⟨first, handled, done⟩ := Checked.bind_eq_ok.mp done
      have popped : Run (fun _ => True) m { m with events := rest } :=
        .outside .done ⟨rfl, rfl, rfl, rfl, rfl⟩
      have once := popped.event e (fun _ => trivial) handled
      rcases andThen_ok done with ⟨_, _, later⟩ | ⟨_, _, rfl⟩
      · exact once.trans (ih later)
      · exact once

theorem run_history {r : Stepped ν τ η (Option ExitReason)} (done : m.run = .ok r) :
    Run (fun _ => True) m r.machine := by
  unfold Machine.run at done
  obtain ⟨started, begun, done⟩ := Checked.bind_eq_ok.mp done
  obtain ⟨drained, handled, done⟩ := Checked.bind_eq_ok.mp done
  have first : Run (fun _ => True) m started.machine := .start .done begun
  have whole : Run (fun _ => True) m drained.machine := by
    rcases andThen_ok handled with ⟨_, _, later⟩ | ⟨_, _, rfl⟩
    · exact first.trans (handleAll_history later)
    · exact first
  rcases andThen_ok done with ⟨_, _, ended⟩ | ⟨_, _, rfl⟩
  · cases ended
    exact whole
  · exact whole

end Bodies

end Machine

end VmMonitor
