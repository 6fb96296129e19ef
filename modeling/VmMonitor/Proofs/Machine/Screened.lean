import VmMonitor.Proofs.Bus.Edge
import VmMonitor.Proofs.Machine.Restored

/-!
Accesses that fail. Which ones a device refuses is told by the offset and the width alone, and it
refuses them before it does anything. So an access to the bus that ends in an error leaves the
devices behind it, the controller, guest memory and what left for the host as they were.
-/

namespace VmMonitor

class Screening (δ : Type) where
  refuses : δ → Access → Bool

open Screening

class LawfulScreening (δ : Type) [BusDevice δ] [Screening δ] : Prop where
  read_refused (d : δ) (b : Board) {a : Access} (refused : refuses d a = true) :
    BusDevice.read d b a = .ok ⟨.error (a.unsupported .read), d, b⟩
  read_answered {d : δ} {b : Board} {a : Access} {r : Answered δ UInt64}
    (passed : refuses d a = false) (done : BusDevice.read d b a = .ok r) : r.answer.isOk = true
  write_refused (d : δ) (b : Board) {a : Access} (value : UInt64) (refused : refuses d a = true) :
    BusDevice.write d b a value = .ok ⟨.error (a.unsupported .write), d, b⟩
  write_answered {d : δ} {b : Board} {a : Access} {value : UInt64} {r : Answered δ Unit}
    (passed : refuses d a = false) (done : BusDevice.write d b a value = .ok r) :
    r.answer.isOk = true

instance : Screening Distributor where
  refuses _ a := !(Distributor.Bank.of a.offset.toNat).allows a.width

instance : LawfulScreening Distributor where
  read_refused d b a refused := by
    change d.read b a = _
    unfold Distributor.read
    dsimp only
    split
    · rfl
    · exact absurd refused ‹_›
  read_answered {d b a r} passed done := by
    change d.read b a = _ at done
    unfold Distributor.read at done
    dsimp only at done
    split at done
    · exact absurd passed (Bool.not_eq_false _ ▸ ‹_›)
    split at done
    · obtain ⟨answer, _, done⟩ := Checked.bind_eq_ok.mp done
      cases answer <;> cases done <;> rfl
    all_goals cases done; rfl
  write_refused d b a value refused := by
    change d.write b a value = _
    unfold Distributor.write
    dsimp only
    split
    · rfl
    · exact absurd refused ‹_›
  write_answered {d b a value r} passed done := by
    change d.write b a value = _ at done
    unfold Distributor.write at done
    dsimp only at done
    split at done
    · exact absurd passed (Bool.not_eq_false _ ▸ ‹_›)
    split at done
    · obtain ⟨⟨d', b'⟩, _, done⟩ := Checked.bind_eq_ok.mp done
      cases done
      rfl
    all_goals cases done; rfl

instance : Screening Uart where
  refuses _ a := a.width = .double

instance : LawfulScreening Uart where
  read_refused u b a refused := by
    change u.read b a = _
    unfold Uart.read
    rw [if_pos (of_decide_eq_true refused)]
    rfl
  read_answered {u b a r} passed done := by
    change u.read b a = _ at done
    unfold Uart.read at done
    rw [if_neg (of_decide_eq_false passed)] at done
    dsimp only at done
    split at done
    · cases done; rfl
    split at done
    · cases done; rfl
    split at done
    · cases done; rfl
    obtain ⟨answer, _, done⟩ := Checked.bind_eq_ok.mp done
    cases answer <;> cases done <;> rfl
  write_refused u b a value refused := by
    change u.write b a value = _
    unfold Uart.write
    rw [if_pos (of_decide_eq_true refused)]
    rfl
  write_answered {u b a value r} passed done := by
    change u.write b a value = _ at done
    unfold Uart.write at done
    rw [if_neg (of_decide_eq_false passed)] at done
    dsimp only at done
    split at done
    · cases done; rfl
    split at done
    · cases done; rfl
    obtain ⟨⟨u', b'⟩, _, done⟩ := Checked.bind_eq_ok.mp done
    cases done
    rfl

section Transport

variable {ν : Type} [VirtioDevice ν]

instance : Screening (Transport ν) where
  refuses _ a := if Transport.configStart ≤ a.offset then a.width = .double else a.width ≠ .word

instance : LawfulScreening (Transport ν) where
  read_refused t b a refused := by
    change t.read b a = _
    change (if _ then _ else _) = true at refused
    unfold Transport.read
    split at refused
    · rename_i config
      rw [if_pos config, if_pos (of_decide_eq_true refused)]
    · rename_i register
      rw [if_neg register, if_pos (of_decide_eq_true refused)]
  read_answered {t b a r} passed done := by
    change t.read b a = _ at done
    change (if _ then _ else _) = false at passed
    unfold Transport.read at done
    split at passed
    · rename_i config
      rw [if_pos config, if_neg (of_decide_eq_false passed)] at done
      cases done
      rfl
    · rename_i register
      rw [if_neg register, if_neg (of_decide_eq_false passed)] at done
      cases done
      rfl
  write_refused t b a value refused := by
    change t.write b a value = _
    change (if _ then _ else _) = true at refused
    unfold Transport.write
    split at refused
    · rename_i config
      rw [if_pos config, if_pos (of_decide_eq_true refused)]
      rfl
    · rename_i register
      rw [if_neg register, if_pos (of_decide_eq_true refused)]
      rfl
  write_answered {t b a value r} passed done := by
    change t.write b a value = _ at done
    change (if _ then _ else _) = false at passed
    unfold Transport.write at done
    split at passed
    · rename_i config
      rw [if_pos config, if_neg (of_decide_eq_false passed)] at done
      cases done
      rfl
    · rename_i register
      rw [if_neg register, if_neg (of_decide_eq_false passed)] at done
      obtain ⟨⟨t', b'⟩, _, done⟩ := Checked.bind_eq_ok.mp done
      cases done
      rfl

end Transport

-- Devices of two kinds.

instance {δ ε : Type} [Screening δ] [Screening ε] : Screening (δ ⊕ ε) where
  refuses
    | .inl d, a => refuses d a
    | .inr d, a => refuses d a

instance {δ ε : Type} [BusDevice δ] [BusDevice ε] [Screening δ] [Screening ε] [LawfulScreening δ]
    [LawfulScreening ε] : LawfulScreening (δ ⊕ ε) where
  read_refused d b a refused := by
    cases d with
    | inl d =>
        change BusDevice.read d b a >>= _ = _
        rw [LawfulScreening.read_refused d b refused]
        rfl
    | inr d =>
        change BusDevice.read d b a >>= _ = _
        rw [LawfulScreening.read_refused d b refused]
        rfl
  read_answered {d b a r} passed done := by
    cases d with
    | inl d =>
        obtain ⟨answered, reached, done⟩ := Checked.bind_eq_ok.mp done
        cases done
        have fine := LawfulScreening.read_answered (show refuses d a = false from passed) reached
        exact fine
    | inr d =>
        obtain ⟨answered, reached, done⟩ := Checked.bind_eq_ok.mp done
        cases done
        have fine := LawfulScreening.read_answered (show refuses d a = false from passed) reached
        exact fine
  write_refused d b a value refused := by
    cases d with
    | inl d =>
        change BusDevice.write d b a value >>= _ = _
        rw [LawfulScreening.write_refused d b value refused]
        rfl
    | inr d =>
        change BusDevice.write d b a value >>= _ = _
        rw [LawfulScreening.write_refused d b value refused]
        rfl
  write_answered {d b a value r} passed done := by
    cases d with
    | inl d =>
        obtain ⟨answered, reached, done⟩ := Checked.bind_eq_ok.mp done
        cases done
        have fine := LawfulScreening.write_answered (show refuses d a = false from passed) reached
        exact fine
    | inr d =>
        obtain ⟨answered, reached, done⟩ := Checked.bind_eq_ok.mp done
        cases done
        have fine := LawfulScreening.write_answered (show refuses d a = false from passed) reached
        exact fine

namespace Bus

section Slots

variable {δ : Type} {bus : Bus δ} {s : Slot δ}

theorem setDevice_same (ordered : Ascending bus.slots) (here : s ∈ bus.slots) :
    bus.setDevice s.window.base s.device = bus := by
  refine congrArg Bus.mk ((List.map_congr_left fun t there => ?_).trans (List.map_id bus.slots))
  split
  · rename_i same
    rw [ordered.unique there here same, id]
  · rfl

-- An access that is not aligned, that is not wholly inside one window, or that the device behind
-- the window refuses.
def Refuses [Screening δ] (bus : Bus δ) (address : UInt64) (width : Width) : Prop :=
  address.toNat % width.bytes ≠ 0 ∨ ∀ s, bus.slotFor? address = some s →
    s.window.len.toNat < address.toNat - s.window.base.toNat + width.bytes ∨
      refuses s.device ⟨address - s.window.base, address, width⟩ = true

-- An access that is routed at all is refused on the way, or goes to the device behind a window.
theorem route_screened [Screening δ] {address : UInt64} {width : Width} {direction : Direction}
    {routed : Except BusError (Slot δ × Access)}
    (done : bus.route address width direction = .ok routed) :
    (bus.Refuses address width ∧ ∃ e, routed = .error e) ∨ ∃ s ∈ bus.slots,
      routed = .ok (s, ⟨address - s.window.base, address, width⟩) ∧
      (bus.Refuses address width ↔
        refuses s.device ⟨address - s.window.base, address, width⟩ = true) := by
  by_cases aligned : address.toNat % width.bytes = 0
  · cases found : bus.slotFor? address with
    | none =>
        simp only [route, aligned, found, ne_eq, not_true_eq_false, if_false] at done
        cases done
        refine .inl ⟨.inr fun s other => ?_, _, rfl⟩
        rw [found] at other
        cases other
    | some s =>
        obtain ⟨here, inside⟩ := slotFor_contains found
        have above : s.window.base ≤ address :=
          of_decide_eq_true (Bool.and_eq_true_iff.mp inside).1
        rw [route_sum aligned found above] at done
        split at done
        · cases done
          split
          · rename_i short
            refine .inl ⟨.inr fun t other => ?_, _, rfl⟩
            cases found.symm.trans other
            exact .inl short
          · rename_i fits
            refine .inr ⟨s, here, rfl, fun refused => ?_, fun refused => .inr fun t other => ?_⟩
            · rcases refused with odd | refused
              · exact absurd aligned odd
              · exact (refused s found).resolve_left fits
            · cases found.symm.trans other
              exact .inr refused
        · cases done
  · rw [route_misaligned aligned] at done
    cases done
    exact .inl ⟨.inl aligned, _, rfl⟩

-- What an access ends in: a refusal that leaves everything as it was, or an answer.
inductive Screened [Screening δ] (bus : Bus δ) (b : Board) (address : UInt64) (width : Width)
    {α : Type} : Answered (Bus δ) α → Prop
  | refused (refused : bus.Refuses address width) (e : BusError) :
      Screened bus b address width ⟨.error e, bus, b⟩
  | answered (passed : ¬ bus.Refuses address width) {r : Answered (Bus δ) α}
      (fine : r.answer.isOk = true) : Screened bus b address width r

theorem Screened.unchanged [Screening δ] {b : Board} {address : UInt64} {width : Width} {α : Type}
    {r : Answered (Bus δ) α} (screened : Screened bus b address width r) :
    ((∃ e, r.answer = .error e) ↔ bus.Refuses address width) ∧
      ∀ e, r.answer = .error e → r.device = bus ∧ r.board = b := by
  cases screened with
  | refused refused e =>
      exact ⟨⟨fun _ => refused, fun _ => ⟨e, rfl⟩⟩, fun _ _ => ⟨rfl, rfl⟩⟩
  | answered passed fine =>
      have answered : ∀ e, r.answer ≠ .error e := fun e failed => by
        rw [failed] at fine
        cases fine
      exact ⟨⟨fun ⟨e, failed⟩ => absurd failed (answered e), fun refused => absurd refused passed⟩,
        fun e failed => absurd failed (answered e)⟩

end Slots

section Accesses

variable {δ : Type} [BusDevice δ] [Screening δ] [LawfulScreening δ] {bus : Bus δ} {b : Board}
  {address : UInt64} {width : Width}

theorem read_screened (ordered : Ascending bus.slots) {r : Answered (Bus δ) UInt64}
    (done : bus.read b address width = .ok r) : Screened bus b address width r := by
  unfold Bus.read at done
  obtain ⟨routed, found, done⟩ := Checked.bind_eq_ok.mp done
  rcases route_screened found with ⟨refused, e, rfl⟩ | ⟨s, here, rfl, screened⟩
  · cases done
    exact .refused refused e
  obtain ⟨answered, asked, done⟩ := Checked.bind_eq_ok.mp done
  cases done
  cases screen : refuses s.device ⟨address - s.window.base, address, width⟩ with
  | true =>
      rw [LawfulScreening.read_refused s.device b screen] at asked
      cases asked
      dsimp only
      rw [setDevice_same ordered here]
      exact .refused (screened.mpr screen) _
  | false =>
      refine .answered (fun refused => absurd (screened.mp refused) (by rw [screen]; nofun)) ?_
      have answer := LawfulScreening.read_answered screen asked
      cases found : answered.answer with
      | ok value => rfl
      | error e => rw [found] at answer; cases answer

theorem write_screened (ordered : Ascending bus.slots) {value : UInt64}
    {r : Answered (Bus δ) Unit} (done : bus.write b address width value = .ok r) :
    Screened bus b address width r := by
  unfold Bus.write at done
  obtain ⟨routed, found, done⟩ := Checked.bind_eq_ok.mp done
  rcases route_screened found with ⟨refused, e, rfl⟩ | ⟨s, here, rfl, screened⟩
  · cases done
    exact .refused refused e
  obtain ⟨answered, asked, done⟩ := Checked.bind_eq_ok.mp done
  cases done
  cases screen : refuses s.device ⟨address - s.window.base, address, width⟩ with
  | true =>
      rw [LawfulScreening.write_refused s.device b _ screen] at asked
      cases asked
      dsimp only
      rw [setDevice_same ordered here]
      exact .refused (screened.mpr screen) _
  | false =>
      refine .answered (fun refused => absurd (screened.mp refused) (by rw [screen]; nofun)) ?_
      have answer := LawfulScreening.write_answered screen asked
      exact answer

end Accesses

theorem Alike.ascending {δ : Type} [PowerOn δ] {bus bus' : Bus δ} (same : Alike bus bus') :
    Ascending bus.slots := by
  obtain ⟨both, rfl, _, ordered, _⟩ := same
  exact List.pairwise_map.mpr ordered

end Bus

namespace Machine

variable {ν τ η : Type} [VcpuSession ν] [HostTimer τ] [HypercallHandler η]

theorem run_ascending [Host] {c : MachineConfig} {vcpu : ν} {timer : Except HostError τ}
    {backends : Backends η} {start m : Machine ν τ η}
    (built : Machine.new c vcpu timer backends = .ok start)
    (run : Run (fun _ => True) start m) : Bus.Ascending m.platform.bus.slots :=
  Bus.Alike.ascending (run_kept (P := fun bus => Bus.Alike bus start.platform.bus)
    (Bus.alike_kept _) (new_alike built built) run)

-- Which accesses fail is told by the layout of the bus and by the rules of its devices, the same
-- for loads and for stores. One that fails changes nothing, in no device, in the controller, in
-- guest memory and in what left for the host.
theorem access_refused [Host] {c : MachineConfig} {vcpu : ν} {timer : Except HostError τ}
    {backends : Backends η} {start m : Machine ν τ η}
    (built : Machine.new c vcpu timer backends = .ok start)
    (run : Run (fun _ => True) start m) (b : Board) (address : UInt64) (width : Width)
    (value : UInt64) :
    (∀ r, m.platform.bus.read b address width = .ok r →
      ((∃ e, r.answer = .error e) ↔ m.platform.bus.Refuses address width) ∧
      ∀ e, r.answer = .error e → r.device = m.platform.bus ∧ r.board = b) ∧
    (∀ r, m.platform.bus.write b address width value = .ok r →
      ((∃ e, r.answer = .error e) ↔ m.platform.bus.Refuses address width) ∧
      ∀ e, r.answer = .error e → r.device = m.platform.bus ∧ r.board = b) := by
  have ordered := run_ascending built run
  exact ⟨fun r done => (Bus.read_screened ordered done).unchanged,
    fun r done => (Bus.write_screened ordered done).unchanged⟩

-- The guest has set the mask of the UART. A store of eight bytes to it is refused, and the mask is
-- what it was.
theorem access_refused_unmasked :
    ∃ (start m : Machine StillVcpu WallTimer NoHypercalls) (r : Answered (Bus MachineDevice) Unit),
      Machine.new .standard (StillVcpu.new unmaskingGuest) (.ok .new)
        ⟨.accepting, none, none, .mk⟩ = .ok start ∧
      start.perform .exit = .ok ⟨.ok (), m⟩ ∧ m.reads 0x09000038 .word = .ok (.ok 0x10) ∧
      m.platform.bus.write m.board 0x09000038 .double 0 = .ok r ∧ (∃ e, r.answer = .error e) ∧
      m.platform.bus.Refuses 0x09000038 .double ∧ r.device = m.platform.bus ∧
      r.board = m.board := by
  have ran : ((Machine.new .standard (StillVcpu.new unmaskingGuest) (.ok WallTimer.new)
        ⟨.accepting, none, none, NoHypercalls.mk⟩).toOption.any fun start =>
      (start.perform .exit).toOption.any fun r => r.answer.isOk &&
        (decide (r.machine.reads 0x09000038 .word = .ok (.ok 0x10)) &&
          (r.machine.platform.bus.write r.machine.board 0x09000038 .double 0).toOption.any
            fun r => !r.answer.isOk)) = true := by
    unfold Machine.new
    rw [Gic.initial_listed]
    decide +kernel
  obtain ⟨start, built, ran⟩ := Checked.ok_of_any ran
  obtain ⟨m, first, ran⟩ := done_of_any ran
  obtain ⟨unmasked, ran⟩ := Bool.and_eq_true_iff.mp ran
  obtain ⟨r, answered, failed⟩ := Checked.ok_of_any ran
  have refused : ∃ e, r.answer = .error e := by
    cases found : r.answer with
    | ok u => rw [found] at failed; cases failed
    | error e => exact ⟨e, rfl⟩
  obtain ⟨told, same⟩ := (access_refused built (Run.exit .done trivial first) m.board 0x09000038
    .double 0).2 r answered
  obtain ⟨e, was⟩ := refused
  exact ⟨start, m, r, built, first, of_decide_eq_true unmasked, answered, ⟨e, was⟩,
    told.mp ⟨e, was⟩, (same e was).1, (same e was).2⟩

end Machine

end VmMonitor
