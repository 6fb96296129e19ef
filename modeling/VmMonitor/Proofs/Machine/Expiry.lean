import VmMonitor.Proofs.Machine.Built
import VmMonitor.Proofs.Machine.Terminal
import VmMonitor.Proofs.Timer.Observed

/-!
Expiries of the host timer. The event that tells of one may come late, twice or from somebody else;
it counts exactly if the guest waits, an arming is outstanding and the time for it has come. While
one is outstanding the machine is idle, and the expiry is on its way.
-/

namespace VmMonitor

-- A vCPU of which the monitor reads what it wrote, and which does not lose that when it is resumed.
class ReadableVcpu (ν : Type) [VcpuSession ν] : Prop where
  state_setState (v : ν) (s : VcpuState) : VcpuSession.state (VcpuSession.setState v s) = s
  state_run (v : ν) : VcpuSession.state (VcpuSession.run v).2 = VcpuSession.state v

instance : ReadableVcpu StillVcpu where
  state_setState _ _ := rfl
  state_run v := by
    change (StillVcpu.run v).state = v.state
    unfold StillVcpu.run
    split <;> rfl

namespace Platform

variable {δ τ η : Type} {p : Platform δ τ η} {s : VcpuState} {r : Exited δ τ η TrapOutcome}

theorem physicalIrq_timer (p : Platform δ τ η) (s : VcpuState) :
    (p.physicalIrq s).2.timer = p.timer := by
  unfold physicalIrq
  split
  · rfl
  split <;> rfl

theorem hypercall_timer [HypercallHandler η] (p : Platform δ τ η) (s : VcpuState) :
    (p.hypercall s).platform.timer = p.timer := by
  unfold hypercall
  dsimp only
  split
  · split <;> rfl
  · rfl

theorem dataAbort_timer [BusDevice δ] (done : p.dataAbort s = .ok r) :
    r.platform.timer = p.timer := by
  unfold dataAbort at done
  dsimp only at done
  split at done
  · cases done
    rfl
  split at done
  · cases done
    rfl
  split at done
  · obtain ⟨answered, _, done⟩ := Checked.bind_eq_ok.mp done
    split at done <;> cases done <;> rfl
  · obtain ⟨answered, _, done⟩ := Checked.bind_eq_ok.mp done
    split at done <;> cases done <;> rfl

-- Only a guest that waits has to do with the host timer.
theorem handleExit_timer [BusDevice δ] [HostTimer τ] [HypercallHandler η]
    (done : p.handleExit s = .ok r) : r.platform.timer = p.timer ∨ p.waitFor s = .ok r := by
  unfold handleExit at done
  split at done
  · unfold synchronous at done
    split at done
    · split at done <;> cases done <;> exact .inl rfl
    · cases done
      exact .inl (hypercall_timer p s)
    · exact .inl (dataAbort_timer done)
    · exact .inr done
    · cases done
      exact .inl rfl
  · cases done
    exact .inl (physicalIrq_timer p s)
  · cases done
    exact .inl (physicalIrq_timer p s)
  · cases done
    exact .inl rfl
  · cases done
    exact .inl rfl
  · cases done
    exact .inl rfl

-- A timer that an exit armed is registered, and the guest is to wait.
theorem handleExit_recorded {p : Platform δ ObservedTimer η}
    {r : Exited δ ObservedTimer η TrapOutcome} [BusDevice δ] [HypercallHandler η]
    (recorded : Recorded p.timer) (done : p.handleExit s = .ok r) :
    r.platform.timer = p.timer ∨ r.answer = .ok .idle ∧ Recorded r.platform.timer ∧
      ∀ due, r.platform.timer.host.inner.timer.due = some due →
        r.platform.timer.host.Registered due := by
  rcases handleExit_timer done with same | waited
  · exact .inl same
  unfold waitFor at waited
  split at waited
  · cases waited
    exact .inl rfl
  obtain ⟨⟨answer, timer, gic⟩, scheduled, waited⟩ := Checked.bind_eq_ok.mp waited
  obtain ⟨rfl, same | ⟨armed, registered⟩⟩ := VirtualTimer.schedule_recorded recorded scheduled
  · cases waited
    exact .inl same
  · cases waited
    exact .inr ⟨rfl, armed, registered⟩

end Platform

namespace Machine

variable {ν τ η : Type}

-- The same as far as waiting for the timer goes.
structure SameWait (m m' : Machine ν τ η) : Prop where
  timer : m'.platform.timer = m.platform.timer
  idle : m'.idle = m.idle
  halted : m'.halted = m.halted
  exit : m'.exit = m.exit

section SameWait

variable {m m' : Machine ν τ η}

theorem SameWait.refl (m : Machine ν τ η) : SameWait m m := ⟨rfl, rfl, rfl, rfl⟩

theorem SameWait.trans {m'' : Machine ν τ η} (first : SameWait m m') (second : SameWait m' m'') :
    SameWait m m'' :=
  ⟨second.timer.trans first.timer, second.idle.trans first.idle,
    second.halted.trans first.halted, second.exit.trans first.exit⟩

theorem acceptInput_wait {base : UInt64} {data : List UInt8} {r : Stepped ν τ η Unit}
    (done : m.acceptInput base data = .ok r) : SameWait m r.machine := by
  unfold acceptInput at done
  obtain ⟨answered, _, done⟩ := Checked.bind_eq_ok.mp done
  dsimp only at done
  split at done <;> cases done <;> exact ⟨rfl, rfl, rfl, rfl⟩

variable [VcpuSession ν]

theorem pauseVcpu_wait (m : Machine ν τ η) : SameWait m m.pauseVcpu.machine := by
  unfold pauseVcpu
  split
  · split <;> exact ⟨rfl, rfl, rfl, rfl⟩
  · exact .refl m

theorem resumeVcpu_wait (m : Machine ν τ η) : SameWait m m.resumeVcpu.machine := by
  unfold resumeVcpu
  split <;> exact ⟨rfl, rfl, rfl, rfl⟩

theorem deliver_wait (m : Machine ν τ η) (n : Gic.Notification) : SameWait m (m.deliver n) := by
  unfold deliver
  split
  · dsimp only
    split <;> split <;> exact ⟨rfl, rfl, rfl, rfl⟩
  · split <;> exact ⟨rfl, rfl, rfl, rfl⟩

theorem deliverAll_wait (m : Machine ν τ η) : SameWait m (deliverAll deliveryRounds m) :=
  deliverAll_keeps (P := SameWait m) (fun _ _ same => same.trans ⟨rfl, rfl, rfl, rfl⟩)
    (fun n heard same => same.trans (deliver_wait n heard)) (.refl m)

end SameWait

variable {m m' n : Machine ν ObservedTimer η} {queued : List MachineEvent}

-- What is outstanding on the host timer while these events are to be handled.
structure Watched (queued : List MachineEvent) (m : Machine ν ObservedTimer η) : Prop where
  recorded : Recorded m.platform.timer
  waits : m.platform.timer.host.outstanding.isSome = true → m.idle = true
  comes : ∀ due, m.platform.timer.host.inner.timer.due = some due →
    m.platform.timer.host.Registered due ∨
      due ≤ m.platform.timer.host.now ∧ .timerExpired ∈ queued
  ended : m.halted = true ∨ m.exit ≠ none → m.platform.timer.host.outstanding = none

theorem Watched.same (watched : Watched queued m) (same : SameWait m m') : Watched queued m' := by
  obtain ⟨timer, idle, halted, exit⟩ := same
  refine ⟨?_, ?_, ?_, ?_⟩
  · rw [timer]
    exact watched.recorded
  · rw [timer, idle]
    exact watched.waits
  · rw [timer]
    exact watched.comes
  · rw [timer, halted, exit]
    exact watched.ended

theorem Watched.more {more : List MachineEvent} (watched : Watched queued m)
    (subset : .timerExpired ∈ queued → .timerExpired ∈ more) : Watched more m :=
  ⟨watched.recorded, watched.waits,
    fun due set => (watched.comes due set).imp id fun ⟨come, here⟩ => ⟨come, subset here⟩,
    watched.ended⟩

-- With nothing outstanding there is nothing to wait for.
theorem watched_none (recorded : Recorded m.platform.timer)
    (none : m.platform.timer.host.outstanding = none) : Watched queued m := by
  refine ⟨recorded, ?_, ?_, fun _ => none⟩
  · intro some
    rw [none] at some
    cases some
  · intro due set
    rw [recorded.due, none] at set
    cases set

theorem cancelTimer_recorded (recorded : Recorded m.platform.timer) :
    m.cancelTimer.answer = .ok () ∧ Recorded m.cancelTimer.machine.platform.timer ∧
      m.cancelTimer.machine.platform.timer.host.outstanding = none :=
  ⟨rfl, VirtualTimer.cancel_recorded recorded |>.2⟩

theorem cancelTimer_watched (recorded : Recorded m.platform.timer) :
    Watched queued m.cancelTimer.machine :=
  have cancelled := cancelTimer_recorded recorded
  watched_none cancelled.2.1 cancelled.2.2

theorem queue_watched (watched : Watched m.events m) (e : MachineEvent) :
    Watched (m.queue e).events (m.queue e) := by
  have same : Watched m.events (m.queue e) := watched.same ⟨rfl, rfl, rfl, rfl⟩
  exact same.more fun here => List.mem_append_left _ here

theorem advance_watched {ns : UInt64} (watched : Watched m.events m)
    (done : m.advance ns = .ok n) : Watched n.events n := by
  obtain ⟨fired, host, passed, rfl⟩ := advance_parts done
  obtain ⟨log, timer, later, runs⟩ := ObservedTimer.advance_parts passed
  have outstanding : host.outstanding = m.platform.timer.host.outstanding :=
    congrArg TimerNote.outstanding log
  refine ⟨⟨?_, ?_, ?_⟩, ?_, ?_, ?_⟩
  · exact (congrArg ClockTimer.due timer).trans
      (watched.recorded.due.trans (congrArg (Option.map UInt64.ofNat) outstanding.symm))
  · exact watched.recorded.armed.trans (congrArg Option.isSome outstanding.symm)
  · change TimerNote.Warranted host.log
    rw [log]
    exact watched.recorded.warranted
  · intro some
    exact watched.waits ((congrArg Option.isSome outstanding).symm.trans some)
  · intro due set
    have before : m.platform.timer.host.inner.timer.due = some due :=
      (congrArg ClockTimer.due timer).symm.trans set
    rcases watched.comes due before with registered | ⟨come, here⟩
    · rcases runs due registered with still | ⟨come, some⟩
      · exact .inl still
      · refine .inr ⟨come, List.mem_append_right _ ?_⟩
        exact List.mem_replicate.mpr ⟨Nat.ne_of_gt some, rfl⟩
    · exact .inr ⟨UInt64.le_trans come later, List.mem_append_left _ here⟩
  · intro ended
    exact outstanding.trans (watched.ended ended)

section Calls

variable [VcpuSession ν]

theorem arbitrate_watched {r : Stepped ν ObservedTimer η Unit} (watched : Watched queued m)
    (done : m.arbitrate = .ok r) : Watched queued r.machine := by
  obtain ⟨presented, gic, _, outcome⟩ := arbitrate_parts done
  rcases outcome with ⟨_, rfl⟩ | ⟨_, rfl⟩
  · exact cancelTimer_watched watched.recorded
  · exact watched.same ⟨rfl, rfl, rfl, rfl⟩

theorem settle_watched {r : Stepped ν ObservedTimer η Unit} (watched : Watched queued m)
    (done : m.settle = .ok r) : Watched queued r.machine := by
  unfold settle at done
  split at done
  · cases done
    exact watched
  obtain ⟨chosen, ran, done⟩ := Checked.bind_eq_ok.mp done
  have arbitrated := arbitrate_watched (watched.same (deliverAll_wait m)) ran
  rcases andThen_ok done with ⟨_, _, ended⟩ | ⟨_, _, rfl⟩
  · split at ended
    · cases ended
      exact arbitrated
    · cases ended
      exact arbitrated.same (resumeVcpu_wait _)
  · exact arbitrated

theorem fail_watched (recorded : Recorded m.platform.timer) (e : MachineError) :
    Watched queued (m.fail e) := cancelTimer_watched recorded

theorem envelope_watched {before : List MachineEvent}
    {body : Machine ν ObservedTimer η → Checked (Stepped ν ObservedTimer η Unit)}
    {r : Stepped ν ObservedTimer η Unit} (watched : Watched before m)
    (done : m.envelope body = .ok r)
    (effect : ∀ r, body m.pauseVcpu.machine = .ok r → Watched queued r.machine) :
    Watched queued r.machine := by
  apply envelope_keeps done (P := Watched queued) (Q := Watched queued)
  · exact fail_watched (watched.same (pauseVcpu_wait m)).recorded
  · exact effect
  · exact settle_watched
  · exact fun e either => fail_watched (either.elim Watched.recorded Watched.recorded) e

theorem pass_watched {r : Stepped ν ObservedTimer η Unit} (watched : Watched queued m)
    (done : m.envelope (fun n => .ok ⟨.ok (), n⟩) = .ok r) : Watched queued r.machine :=
  envelope_watched watched done fun r took => by
    cases took
    exact watched.same (pauseVcpu_wait m)

theorem expireTimer_watched (watched : Watched (.timerExpired :: queued) m) :
    Watched queued m.expireTimer.machine := by
  have outcome := VirtualTimer.handleTimeout_recorded watched.recorded m.state.timer m.board.gic
  have timer : m.expireTimer.machine.platform.timer =
      (m.platform.timer.handleTimeout m.state.timer m.board.gic).2.1 := by
    unfold expireTimer
    dsimp only
    split <;> rfl
  have same : m.expireTimer.machine.idle = m.idle ∧ m.expireTimer.machine.halted = m.halted ∧
      m.expireTimer.machine.exit = m.exit := by
    unfold expireTimer
    dsimp only
    split <;> exact ⟨rfl, rfl, rfl⟩
  rcases outcome with ⟨_, _, _, _, recorded, none⟩ | ⟨early, stale⟩
  · rw [← timer] at recorded none
    exact watched_none recorded none
  · rw [stale] at timer
    refine ⟨?_, ?_, ?_, ?_⟩
    · rw [timer]
      exact VirtualTimer.stale_recorded watched.recorded
    · rw [timer, same.1]
      exact watched.waits
    · rw [timer]
      intro due set
      rcases watched.comes due set with registered | ⟨come, _⟩
      · exact .inl registered
      · have left := watched.recorded.due.symm.trans set
        obtain ⟨d, some, rfl⟩ := Option.map_eq_some_iff.mp left
        exact absurd come (early d some)
    · rw [timer, same.2.1, same.2.2]
      exact watched.ended

variable [HypercallHandler η]

theorem dispatchExit_watched {r : Stepped ν ObservedTimer η Unit} (running : m.halted = false)
    (up : m.exit = none) (watched : Watched queued m) (done : m.dispatchExit = .ok r) :
    Watched queued r.machine := by
  unfold dispatchExit at done
  obtain ⟨exited, handled, done⟩ := Checked.bind_eq_ok.mp done
  rcases Platform.handleExit_recorded watched.recorded handled with same | ⟨idle, armed, registered⟩
  · have taken : Watched queued ({ m with platform := exited.platform }.setState exited.state) :=
      watched.same ⟨same, rfl, rfl, rfl⟩
    dsimp only at done
    split at done
    · cases done
      exact taken
    · cases done
      exact taken
    · cases done
      exact ⟨taken.recorded, fun _ => rfl, taken.comes, taken.ended⟩
    · rename_i event _
      cases done
      have cancelled := cancelTimer_recorded taken.recorded
      unfold stop
      dsimp only
      rw [cancelled.1]
      dsimp only
      cases event <;> exact watched_none cancelled.2.1 cancelled.2.2
  · dsimp only at done
    rw [idle] at done
    cases done
    refine ⟨armed, fun _ => rfl, fun due set => .inl (registered due set), ?_⟩
    rintro (halted | ended)
    · exact absurd (running.symm.trans halted) Bool.false_ne_true
    · exact absurd up ended

theorem effect_watched {e : MachineEvent} {r : Stepped ν ObservedTimer η Unit}
    (running : m.halted = false) (up : m.exit = none) (watched : Watched (e :: queued) m)
    (done : m.effect e = .ok r) : Watched queued r.machine := by
  have others (differs : e ≠ .timerExpired) : Watched queued m := by
    refine watched.more fun here => ?_
    rcases List.mem_cons.mp here with same | later
    · exact absurd same.symm differs
    · exact later
  cases e with
  | exited => exact dispatchExit_watched running up (others nofun) done
  | timerExpired =>
      cases done
      exact expireTimer_watched watched
  | terminalInput base data | frameReceived base data =>
      exact (others nofun).same (acceptInput_wait done)
  | shutdown =>
      have cancelled := cancelTimer_recorded watched.recorded
      unfold effect at done
      rcases andThen_ok done with ⟨_, _, ended⟩ | ⟨_, _, rfl⟩
      · cases ended
        exact watched_none cancelled.2.1 cancelled.2.2
      · exact watched_none cancelled.2.1 cancelled.2.2

theorem handleEvent_watched {e : MachineEvent} {r : Stepped ν ObservedTimer η Unit}
    (watched : Watched (e :: queued) m) (done : m.handleEvent e = .ok r) :
    Watched queued r.machine := by
  rcases handleEvent_parts done with ⟨ended, same⟩ | ⟨running, up, live⟩
  · rw [same]
    exact watched_none watched.recorded (watched.ended ended)
  have wait := pauseVcpu_wait m
  have paused := watched.same wait
  have took (r : Stepped ν ObservedTimer η Unit)
      (effected : m.pauseVcpu.machine.effect e = .ok r) : Watched queued r.machine :=
    effect_watched (wait.halted.trans running) (wait.exit.trans up) paused effected
  rcases live with ⟨rfl, ran⟩ | ran
  · rcases andThen_ok ran with ⟨_, _, effected⟩ | ⟨_, _, rfl⟩
    · exact took r effected
    · exact paused.more fun here => (List.mem_cons.mp here).resolve_left nofun
  · exact envelope_watched watched ran took

end Calls

section Told

variable {m m' : Machine ν τ η} [VcpuSession ν] [HostTimer τ]

-- No listener is owed anything, unless the machine has come to an end.
def Told (m : Machine ν τ η) : Prop :=
  m.halted = false → m.exit = none → m.board.gic.notifications = []

theorem envelope_told {body : Machine ν τ η → Checked (Stepped ν τ η Unit)}
    {r : Stepped ν τ η Unit} (done : m.envelope body = .ok r) : Told r.machine := by
  intro running up
  obtain ⟨answer, after⟩ := r
  cases answer with
  | ok u =>
      obtain ⟨_, _, _, closed⟩ := envelope_ended done
      exact settle_told closed up
  | error e =>
      have halted := envelope_failed done
      exact absurd (running.symm.trans halted) Bool.false_ne_true

variable [HypercallHandler η]

theorem handleEvent_told {e : MachineEvent} {r : Stepped ν τ η Unit} (told : Told m)
    (done : m.handleEvent e = .ok r) : Told r.machine := by
  rcases handleEvent_parts done with ⟨_, same⟩ | ⟨running, up, ⟨rfl, ran⟩ | ran⟩
  · rw [same]
    exact told
  · have silent : r.machine.exit = none → r.machine.board.gic = m.board.gic := by
      intro open_
      have paused := pauseVcpu_untouched m
      rcases andThen_ok ran with ⟨_, _, took⟩ | ⟨_, _, rfl⟩
      · unfold effect at took
        rcases andThen_ok took with ⟨_, _, closed⟩ | ⟨_, _, rfl⟩
        · cases closed
          cases open_
        · exact (paused.trans (cancelTimer_untouched _)).gic
      · exact paused.gic
    intro _ open_
    rw [silent open_]
    exact told running up
  · exact envelope_told ran

end Told

section Unmoved

variable {m m' : Machine ν τ η} [VcpuSession ν]

-- The guest finds its timer as it was, and nothing was asserted; at most an interrupt that was
-- pending is presented now.
structure Unmoved (m m' : Machine ν τ η) : Prop where
  timer : m'.state.timer = m.state.timer
  gic : m'.board.gic = m.board.gic ∨
    ∃ presented, m.board.gic.arbitrate = .ok (presented, m'.board.gic)

theorem Unmoved.refl (m : Machine ν τ η) : Unmoved m m := ⟨rfl, .inl rfl⟩

theorem Unmoved.after {n : Machine ν τ η} (timer : n.state.timer = m.state.timer)
    (gic : n.board.gic = m.board.gic) (unmoved : Unmoved n m') : Unmoved m m' := by
  refine ⟨unmoved.timer.trans timer, ?_⟩
  rw [← gic]
  exact unmoved.gic

variable [HostTimer τ]

theorem fail_unmoved (unmoved : Unmoved m m') (e : MachineError) : Unmoved m (m'.fail e) := by
  refine ⟨?_, ?_⟩
  · unfold state
    rw [fail_vcpu]
    exact unmoved.timer
  · rw [(fail_untouched m' e).gic]
    exact unmoved.gic

variable [ReadableVcpu ν]

-- Choosing an interrupt asserts none.
theorem arbitrate_unmoved {r : Stepped ν τ η Unit} (done : m.arbitrate = .ok r) :
    Unmoved m r.machine := by
  obtain ⟨presented, gic, found, outcome⟩ := arbitrate_parts done
  have shown : Unmoved m (m.choose gic) := by
    refine ⟨?_, .inr ⟨presented, found⟩⟩
    change (VcpuSession.state (VcpuSession.setState m.vcpu _)).timer = _
    rw [ReadableVcpu.state_setState]
  rcases outcome with ⟨_, rfl⟩ | ⟨_, rfl⟩
  · obtain ⟨vcpu, board, _⟩ := cancelTimer_frame { m.choose gic with idle := false }
    refine ⟨?_, ?_⟩
    · unfold state
      rw [vcpu]
      exact shown.timer
    · rw [board]
      exact shown.gic
  · exact shown

omit [HostTimer τ] in
theorem resumeVcpu_state (m : Machine ν τ η) : m.resumeVcpu.machine.state = m.state := by
  have kept := ReadableVcpu.state_run m.vcpu
  unfold resumeVcpu state
  split
  · rename_i called
    rw [called] at kept
    exact kept
  · rename_i called
    rw [called] at kept
    exact kept

omit [HostTimer τ] in
theorem resumeVcpu_unmoved (unmoved : Unmoved m m') : Unmoved m m'.resumeVcpu.machine := by
  refine ⟨?_, ?_⟩
  · rw [resumeVcpu_state]
    exact unmoved.timer
  · rw [(resumeVcpu_frame m').1]
    exact unmoved.gic

theorem settle_unmoved {r : Stepped ν τ η Unit} (silent : m.board.gic.notifications = [])
    (done : m.settle = .ok r) : Unmoved m r.machine := by
  unfold settle at done
  split at done
  · cases done
    exact .refl m
  rw [deliveryRounds, deliverAll_done 15 silent] at done
  obtain ⟨chosen, ran, done⟩ := Checked.bind_eq_ok.mp done
  have arbitrated := arbitrate_unmoved ran
  rcases andThen_ok done with ⟨_, _, ended⟩ | ⟨_, _, rfl⟩
  · split at ended
    · cases ended
      exact arbitrated
    · cases ended
      exact resumeVcpu_unmoved arbitrated
  · exact arbitrated

-- An event that does nothing by itself.
theorem envelope_unmoved {body : Machine ν τ η → Checked (Stepped ν τ η Unit)}
    {r : Stepped ν τ η Unit} (silent : m.board.gic.notifications = [])
    (still : ∀ r, body m.pauseVcpu.machine = .ok r →
      r.machine.state.timer = m.pauseVcpu.machine.state.timer ∧
        r.machine.board.gic = m.pauseVcpu.machine.board.gic)
    (done : m.envelope body = .ok r) : Unmoved m.pauseVcpu.machine r.machine := by
  apply envelope_keeps done (P := Unmoved m.pauseVcpu.machine) (Q := fun n =>
    n.state.timer = m.pauseVcpu.machine.state.timer ∧
      n.board.gic = m.pauseVcpu.machine.board.gic)
  · exact fail_unmoved (.refl _)
  · exact still
  · intro n r taken closed
    have quiet : n.board.gic.notifications = [] := by
      rw [taken.2, (pauseVcpu_untouched m).gic]
      exact silent
    exact (settle_unmoved quiet closed).after taken.1 taken.2
  · rintro n e (⟨timer, gic⟩ | unmoved)
    · exact fail_unmoved ⟨timer, .inl gic⟩ e
    · exact fail_unmoved unmoved e

end Unmoved

section Run

variable [VcpuSession ν] [HypercallHandler η]

-- An expiry moves nothing unless the guest waits for one that is due.
theorem handleEvent_expiry [ReadableVcpu ν] {r : Stepped ν ObservedTimer η Unit}
    (watched : Watched queued m) (told : Told m)
    (done : m.handleEvent .timerExpired = .ok r) :
    r.machine = m ∨ Unmoved m.pauseVcpu.machine r.machine ∨
      m.idle = true ∧ ∃ due, m.platform.timer.host.outstanding = some due ∧
        UInt64.ofNat due ≤ m.platform.timer.host.now := by
  rcases handleEvent_parts done with ⟨_, same⟩ | ⟨running, up, ⟨shut, _⟩ | ran⟩
  · exact .inl same
  · cases shut
  have paused := pauseVcpu_wait m
  have outcome := VirtualTimer.handleTimeout_recorded
    (watched.same paused).recorded m.pauseVcpu.machine.state.timer m.pauseVcpu.machine.board.gic
  rcases outcome with ⟨due, left, come, _⟩ | ⟨_, stale⟩
  · rw [paused.timer] at left come
    exact .inr (.inr ⟨watched.waits (by rw [left]; rfl), due, left, come⟩)
  · refine .inr (.inl (envelope_unmoved (told running up) ?_ ran))
    intro r took
    cases took
    unfold expireTimer
    dsimp only
    rw [stale]
    refine ⟨?_, rfl⟩
    change (VcpuSession.state (VcpuSession.setState _ _)).timer = _
    rw [ReadableVcpu.state_setState]

end Run

end Machine

end VmMonitor
