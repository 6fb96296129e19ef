import VmMonitor.Proofs.Machine.Expiry
import VmMonitor.Proofs.Machine.Substitution

/-!
Machines on pretend time. Time passes, events are queued and handled, and the guest runs, in any
order. What the machine asked of its timer meanwhile tells which expiry is still to come, and only
that one is ever consumed.
-/

namespace VmMonitor

-- Keeping a record makes no difference to a timer.
theorem ObservedTimer.paces : Paces ObservedTimer.inner where
  arm t ns := by
    simp only [HostTimer.arm]
    cases t.inner.arm ns <;> rfl
  markWaited _ := rfl
  clear _ := rfl
  advance t ns := by
    simp only [ClockDriven.advance]
    cases t.inner.advance ns <;> rfl

-- A timer of which nothing is on record yet.
def ObservedTimer.unused (t : SimulatedTimer) : ObservedTimer := ⟨t, []⟩

namespace Machine

variable {ν τ υ η : Type}

-- What happens beside the machine and its timer: the guest runs, and stores what it likes.
structure Beside (m m' : Machine ν τ η) : Prop extends Outside m m' where
  timer : m'.platform.timer = m.platform.timer
  events : m'.events = m.events

theorem Unmoved.through [VcpuSession ν] {m m' : Machine ν τ η} (f : τ → υ)
    (unmoved : Unmoved m m') : Unmoved (m.through f) (m'.through f) :=
  ⟨unmoved.timer, unmoved.gic⟩

section Timed

variable [VcpuSession ν] [HostTimer τ] [ClockDriven τ] [HypercallHandler η]

-- What can come next on pretend time.
inductive Happening (m : Machine ν τ η) : Machine ν τ η → Prop
  | beside {m' : Machine ν τ η} (beside : Beside m m') : Happening m m'
  -- Anybody can send an event.
  | sent (e : MachineEvent) : Happening m (m.queue e)
  | elapsed {m' : Machine ν τ η} (ns : UInt64) (done : m.advance ns = .ok m') : Happening m m'
  -- An event is handled that was never queued.
  | handled {r : Stepped ν τ η Unit} (e : MachineEvent) (done : m.handleEvent e = .ok r) :
      Happening m r.machine
  | taken {r : Stepped ν τ η Unit} (e : MachineEvent) (rest : List MachineEvent)
      (queued : m.events = e :: rest)
      (done : { m with events := rest }.handleEvent e = .ok r) : Happening m r.machine
  -- A run begins.
  | begun {r : Stepped ν τ η Unit} (done : m.envelope (fun n => .ok ⟨.ok (), n⟩) = .ok r) :
      Happening m r.machine

inductive Timed (start : Machine ν τ η) : Machine ν τ η → Prop
  | start : Timed start start
  | step {m m' : Machine ν τ η} (earlier : Timed start m) (next : Happening m m') :
      Timed start m'

variable {start m m' : Machine ν τ η}

theorem handleAll_timed {l : List MachineEvent} {r : Stepped ν τ η Unit} (earlier : Timed start m)
    (queued : m.events = l) (done : handleAll l m = .ok r) : Timed start r.machine := by
  induction l generalizing m with
  | nil =>
      cases done
      rw [← queued]
      exact earlier
  | cons e rest ih =>
      unfold handleAll at done
      split at done
      · cases done
        rw [← queued]
        exact earlier
      obtain ⟨first, handled, done⟩ := Checked.bind_eq_ok.mp done
      have once : Timed start first.machine := earlier.step (.taken e rest queued handled)
      rcases andThen_ok done with ⟨_, _, later⟩ | ⟨_, _, rfl⟩
      · exact ih once ((events_framed rest).handleEvent rfl handled) later
      · exact once

-- Whatever the host calls is made of such steps. Only an exit cannot be dispatched by hand once the
-- machine has come to an end.
theorem perform_timed {c : Call} {r : Stepped ν τ η Unit} (earlier : Timed start m)
    (live : c = .exit → m.halted = false ∧ m.exit = none) (done : m.perform c = .ok r) :
    Timed start r.machine := by
  cases c with
  | event e => exact earlier.step (.handled e done)
  | exit =>
      obtain ⟨running, up⟩ := live rfl
      apply earlier.step
      apply Happening.handled .exited
      unfold handleEvent
      rw [running, up]
      exact done
  | process => exact handleAll_timed earlier rfl done
  | run =>
      obtain ⟨started, begun, outcome⟩ := run_parts done
      have first : Timed start started.machine := earlier.step (.begun begun)
      rcases outcome with ⟨_, later⟩ | ⟨_, _, rfl⟩
      · exact handleAll_timed first rfl later
      · exact first

end Timed

section Through

variable [VcpuSession ν] [HostTimer τ] [HostTimer υ] [ClockDriven τ] [ClockDriven υ]
  [HypercallHandler η] {f : τ → υ} {m m' : Machine ν τ η}

theorem happening_through (paces : Paces f) (next : Happening m m') :
    Happening (m.through f) (m'.through f) := by
  have simulates := paces.toSimulates
  cases next with
  | beside beside =>
      refine .beside ⟨⟨beside.bus, beside.gic, beside.idle, beside.halted, beside.exit⟩, ?_,
        beside.events⟩
      exact congrArg (VirtualTimer.through f) beside.timer
  | sent e => exact .sent e
  | elapsed ns done =>
      apply Happening.elapsed ns
      rw [advance_through m paces, done]
      rfl
  | handled e done =>
      have same := handleEvent_through m simulates e
      rw [done] at same
      exact .handled e same
  | taken e rest queued done =>
      have same := handleEvent_through { m with events := rest } simulates e
      rw [done] at same
      exact .taken (r := Stepped.through f _) e rest queued same
  | begun done =>
      have same := envelope_through m simulates (fun n => .ok ⟨.ok (), n⟩)
        (fun n => .ok ⟨.ok (), n⟩) fun _ => rfl
      rw [done] at same
      exact .begun same

-- What happens to the one machine happens to the other.
theorem happening_lift (paces : Paces f) {n' : Machine ν υ η}
    (next : Happening (m.through f) n') : ∃ m', Happening m m' ∧ m'.through f = n' := by
  have simulates := paces.toSimulates
  cases next with
  | beside beside =>
      let m' : Machine ν τ η :=
        { vcpu := n'.vcpu, platform := { n'.platform with timer := m.platform.timer }
          events := n'.events, idle := n'.idle, halted := n'.halted, exit := n'.exit }
      refine ⟨m', .beside ⟨⟨beside.bus, beside.gic, beside.idle, beside.halted, beside.exit⟩, rfl,
        beside.events⟩, ?_⟩
      have timer := beside.timer
      obtain ⟨vcpu, ⟨board, bus, t, hypercalls⟩, events, idle, halted, exit⟩ := n'
      cases timer
      rfl
  | sent e => exact ⟨m.queue e, .sent e, rfl⟩
  | elapsed ns done =>
      rw [advance_through m paces] at done
      obtain ⟨m', passed, same⟩ := Checked.map_eq_ok.mp done
      exact ⟨m', .elapsed ns passed, same⟩
  | handled e done =>
      rw [handleEvent_through m simulates] at done
      obtain ⟨r, ran, rfl⟩ := Checked.map_eq_ok.mp done
      exact ⟨r.machine, .handled e ran, rfl⟩
  | taken e rest queued done =>
      have same := handleEvent_through { m with events := rest } simulates e
      obtain ⟨r, ran, rfl⟩ := Checked.map_eq_ok.mp (same.symm.trans done)
      exact ⟨r.machine, .taken e rest queued ran, rfl⟩
  | begun done =>
      rw [envelope_through m simulates (fun n => .ok ⟨.ok (), n⟩) _ fun _ => rfl] at done
      obtain ⟨r, ran, rfl⟩ := Checked.map_eq_ok.mp done
      exact ⟨r.machine, .begun ran, rfl⟩

theorem timed_through (paces : Paces f) {start : Machine ν τ η} (timed : Timed start m) :
    Timed (start.through f) (m.through f) := by
  induction timed with
  | start => exact .start
  | step _ next ih => exact ih.step (happening_through paces next)

theorem timed_lift (paces : Paces f) {start : Machine ν τ η} {n : Machine ν υ η}
    (timed : Timed (start.through f) n) : ∃ m, Timed start m ∧ m.through f = n := by
  induction timed with
  | start => exact ⟨start, .start, rfl⟩
  | step _ next ih =>
      obtain ⟨m, earlier, rfl⟩ := ih
      obtain ⟨m', next, same⟩ := happening_lift paces next
      exact ⟨m', earlier.step next, same⟩

end Through

section Accounted

variable [VcpuSession ν] [HypercallHandler η]

theorem happening_watched {m m' : Machine ν ObservedTimer η} (watched : Watched m.events m)
    (next : Happening m m') : Watched m'.events m' := by
  cases next with
  | beside beside =>
      rw [beside.events]
      exact watched.same ⟨beside.timer, beside.idle, beside.halted, beside.exit⟩
  | sent e => exact queue_watched watched e
  | elapsed ns done => exact advance_watched watched done
  | handled e done =>
      rw [(events_framed m.events).handleEvent rfl done]
      exact handleEvent_watched (watched.more (List.mem_cons_of_mem e)) done
  | taken e rest queued done =>
      rw [(events_framed rest).handleEvent rfl done]
      rw [queued] at watched
      have popped : Watched (e :: rest) { m with events := rest } :=
        watched.same ⟨rfl, rfl, rfl, rfl⟩
      exact handleEvent_watched popped done
  | begun done =>
      have left := (events_framed m.events).envelope rfl done fun r took => by
        cases took
        exact (events_framed m.events).pauseVcpu rfl
      rw [left]
      exact pass_watched watched done

theorem happening_told [HostTimer τ] [ClockDriven τ] {m m' : Machine ν τ η} (told : Told m)
    (next : Happening m m') : Told m' := by
  have outside {m' : Machine ν τ η} (beside : Outside m m') : Told m' := by
    intro running up
    rw [beside.gic]
    exact told (beside.halted.symm.trans running) (beside.exit.symm.trans up)
  cases next with
  | beside beside => exact outside beside.toOutside
  | sent e => exact outside (queue_outside m e)
  | elapsed ns done => exact outside (advance_outside done)
  | handled e done => exact handleEvent_told told done
  | taken e rest _ done => exact handleEvent_told (m := { m with events := rest }) told done
  | begun done => exact envelope_told done

theorem timed_watched {start m : Machine ν ObservedTimer η} (watched : Watched start.events start)
    (told : Told start) (timed : Timed start m) : Watched m.events m ∧ Told m := by
  induction timed with
  | start => exact ⟨watched, told⟩
  | step _ next ih => exact ⟨happening_watched ih.1 next, happening_told ih.2 next⟩

-- The machine has a history in which its timer was called like this.
def Noted (start : Machine ν SimulatedTimer η) (log : List TimerNote)
    (m : Machine ν SimulatedTimer η) : Prop :=
  ∃ n : Machine ν ObservedTimer η, Timed (start.through ObservedTimer.unused) n ∧
    n.through ObservedTimer.inner = m ∧ n.platform.timer.host.log = log

-- What the calls on the timer tell about a machine between two events.
structure Accounted (log : List TimerNote) (m : Machine ν SimulatedTimer η) : Prop where
  -- The timer and the machine both know what is outstanding.
  due : m.platform.timer.host.timer.due = (TimerNote.outstanding log).map UInt64.ofNat
  armed : m.platform.timer.armedAt.isSome = (TimerNote.outstanding log).isSome
  waits : ∀ due, TimerNote.outstanding log = some due → m.idle = true
  comes : ∀ due, TimerNote.outstanding log = some due →
    ⟨m.platform.timer.host.timer.id, UInt64.ofNat due⟩ ∈ m.platform.timer.host.clock.deadlines ∨
      due ≤ m.platform.timer.host.clock.now.toNat ∧ .timerExpired ∈ m.events
  consumed : ∀ later now earlier, log = later ++ .consumed now :: earlier →
    ∃ due, TimerNote.outstanding earlier = some due ∧ due ≤ now.toNat
  once : ∀ later now between before earlier,
    log = later ++ .consumed now :: (between ++ .consumed before :: earlier) →
      ∃ due, .armed due ∈ between
  -- An expiry that is handled next moves nothing unless it is the one that is outstanding.
  counts : ∀ rest n r, n = { m with events := rest } → n.handleEvent .timerExpired = .ok r →
    r.machine = n ∨ Unmoved n.pauseVcpu.machine r.machine ∨
      m.idle = true ∧ ∃ due, TimerNote.outstanding log = some due ∧
        due ≤ m.platform.timer.host.clock.now.toNat

-- What an expiry does to a machine can be seen on the one whose timer keeps a record.
theorem expiry_counts [ReadableVcpu ν] {n : Machine ν ObservedTimer η} {queued : List MachineEvent}
    {r : Stepped ν SimulatedTimer η Unit} (watched : Watched queued n) (told : Told n)
    (done : (n.through ObservedTimer.inner).handleEvent .timerExpired = .ok r) :
    r.machine = n.through ObservedTimer.inner ∨
      Unmoved (n.through ObservedTimer.inner).pauseVcpu.machine r.machine ∨
      n.idle = true ∧ ∃ due, n.platform.timer.host.outstanding = some due ∧
        UInt64.ofNat due ≤ n.platform.timer.host.now := by
  rw [handleEvent_through n ObservedTimer.paces.toSimulates] at done
  obtain ⟨r, ran, rfl⟩ := Checked.map_eq_ok.mp done
  rcases handleEvent_expiry watched told ran with same | unmoved | counted
  · exact .inl (congrArg (through ObservedTimer.inner) same)
  · rw [pauseVcpu_through]
    exact .inr (.inl (unmoved.through _))
  · exact .inr (.inr counted)

theorem watched_accounted [ReadableVcpu ν] {n : Machine ν ObservedTimer η}
    (watched : Watched n.events n) (told : Told n)
    (bounded : TimerNote.Bounded n.platform.timer.host.log) :
    Accounted n.platform.timer.host.log (n.through ObservedTimer.inner) := by
  have recorded := watched.recorded
  have reached {due : Nat} {log : List TimerNote} {now : UInt64}
      (part : ∀ note ∈ log, note ∈ n.platform.timer.host.log)
      (left : TimerNote.outstanding log = some due) (come : UInt64.ofNat due ≤ now) :
      due ≤ now.toNat := by
    have small := bounded due (part _ (TimerNote.outstanding_mem left))
    rw [UInt64.le_iff_toNat_le, UInt64.toNat_ofNat_of_lt' small] at come
    exact come
  refine ⟨recorded.due, recorded.armed, ?_, ?_, ?_, ?_, ?_⟩
  · intro due left
    apply watched.waits
    exact Option.isSome_iff_exists.mpr ⟨due, left⟩
  · intro due left
    have set : n.platform.timer.host.inner.timer.due = some (UInt64.ofNat due) := by
      rw [recorded.due]
      exact congrArg (Option.map UInt64.ofNat) left
    rcases watched.comes _ set with registered | ⟨come, here⟩
    · exact .inl registered
    · exact .inr ⟨reached (fun _ here => here) left come, here⟩
  · intro later now earlier same
    obtain ⟨due, left, come⟩ := recorded.warranted later now earlier same
    refine ⟨due, left, reached ?_ left come⟩
    intro note here
    rw [same]
    exact List.mem_append_right _ (List.mem_cons_of_mem _ here)
  · intro later now between before earlier same
    obtain ⟨due, left, _⟩ := recorded.warranted later now _ same
    exact ⟨due, TimerNote.outstanding_armed left rfl⟩
  · rintro rest _ r rfl done
    have popped : Watched n.events { n with events := rest } := watched.same ⟨rfl, rfl, rfl, rfl⟩
    refine (expiry_counts popped told done).imp id (Or.imp id ?_)
    rintro ⟨idle, due, left, come⟩
    exact ⟨idle, due, left, reached (fun _ here => here) left come⟩

-- An expiry counts only for a guest that waits, for the arming that is outstanding and in its time;
-- every arming is consumed at most once; the timer is armed only while the machine is idle, and an
-- expiry that is still to come is registered or queued. All of this holds however time passes and
-- whoever sends events.
theorem timed_accounted [Host] [ReadableVcpu ν] {c : MachineConfig} {vcpu : ν}
    {host : SimulatedTimer} {backends : Backends η} {start : Machine ν SimulatedTimer η}
    (unset : host.timer.due = none) (built : Machine.new c vcpu (.ok host) backends = .ok start)
    (m : Machine ν SimulatedTimer η) :
    (Timed start m ↔ ∃ log, Noted start log m) ∧
      ∀ log, Noted start log m → TimerNote.Bounded log → Accounted log m := by
  refine ⟨⟨?_, ?_⟩, ?_⟩
  · intro timed
    have seen : Timed ((start.through ObservedTimer.unused).through ObservedTimer.inner) m := timed
    obtain ⟨n, timed, same⟩ := timed_lift ObservedTimer.paces seen
    exact ⟨_, n, timed, same, rfl⟩
  · rintro ⟨log, n, timed, rfl, _⟩
    exact timed_through ObservedTimer.paces timed
  · rintro _ ⟨n, timed, rfl, rfl⟩ bounded
    obtain ⟨⟨lines, fitted⟩, events, armedAt, given⟩ := new_parts built
    cases given
    have recorded : Recorded (start.through ObservedTimer.unused).platform.timer :=
      ⟨unset, congrArg Option.isSome armedAt, TimerNote.warranted_nil⟩
    have told : Told (start.through ObservedTimer.unused) := fun _ _ => fitted.told
    obtain ⟨watched, told⟩ := timed_watched (watched_none recorded rfl) told timed
    exact watched_accounted watched told bounded

-- A guest that has set its timer to a millisecond, and then waits.
def sleepingGuest : VcpuState :=
  { VcpuState.initial with
    vector := 0x400, esr := 0x4000000, timer := ⟨1, 62500, 0, 62500000⟩ }

-- The timer is armed as the guest begins to wait, and consumed when it runs out.
theorem timed_accounted_sleep :
    ∃ start m m' : Machine StillVcpu SimulatedTimer NoHypercalls,
      SimulatedTimer.new.timer.due = none ∧
      Machine.new .standard (StillVcpu.new .initial) (.ok .new) ⟨.accepting, none, none, .mk⟩ =
        .ok start ∧
      Noted start [.armed 1000000] m ∧ Accounted [.armed 1000000] m ∧
      Noted start [.consumed 1000000, .armed 1000000] m' ∧
      Accounted [.consumed 1000000, .armed 1000000] m' ∧ Timed start m' := by
  have ran : ((Machine.new .standard (StillVcpu.new .initial) (.ok SimulatedTimer.new)
        ⟨.accepting, none, none, NoHypercalls.mk⟩).toOption.any fun start =>
      (((start.through ObservedTimer.unused).setState sleepingGuest).perform
          (.event .exited)).toOption.any fun r =>
        r.machine.platform.timer.host.log = [.armed 1000000] &&
          (r.machine.advance 1000000).toOption.any fun n =>
            (n.perform .process).toOption.any fun r =>
              r.machine.platform.timer.host.log = [.consumed 1000000, .armed 1000000]) = true := by
    unfold Machine.new
    rw [Gic.initial_listed]
    decide +kernel
  obtain ⟨start, built, ran⟩ := Checked.ok_of_any ran
  obtain ⟨slept, handled, ran⟩ := Checked.ok_of_any ran
  obtain ⟨armed, ran⟩ := Bool.and_eq_true_iff.mp ran
  obtain ⟨later, passed, ran⟩ := Checked.ok_of_any ran
  obtain ⟨woken, drained, consumed⟩ := Checked.ok_of_any ran
  have asleep : Timed (start.through ObservedTimer.unused)
      ((start.through ObservedTimer.unused).setState sleepingGuest) :=
    .step .start (.beside ⟨⟨rfl, rfl, rfl, rfl, rfl⟩, rfl, rfl⟩)
  have waits := perform_timed (c := .event .exited) asleep nofun handled
  have wakes := perform_timed (c := .process) (waits.step (.elapsed _ passed)) nofun drained
  have first : Noted start [.armed 1000000] _ := ⟨_, waits, rfl, of_decide_eq_true armed⟩
  have second : Noted start [.consumed 1000000, .armed 1000000] _ :=
    ⟨_, wakes, rfl, of_decide_eq_true consumed⟩
  have small (due : Nat) (same : TimerNote.armed due = .armed 1000000) : due < UInt64.size := by
    cases same
    decide
  have unset : SimulatedTimer.new.timer.due = none := rfl
  have account := timed_accounted unset built
  refine ⟨start, _, _, unset, built, first, (account _).2 _ first ?_, second,
    (account _).2 _ second ?_, (account _).1.mpr ⟨_, second⟩⟩
  · intro due here
    exact small due (List.mem_singleton.mp here)
  · intro due here
    rcases List.mem_cons.mp here with same | here
    · cases same
    · exact small due (List.mem_singleton.mp here)

end Accounted

end Machine

end VmMonitor
