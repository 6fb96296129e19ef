import VmMonitor.Proofs.Bus.Owner
import VmMonitor.Proofs.Cpu.Refused
import VmMonitor.Proofs.Cpu.Trap

/-!
Loads and stores that trap because there is no memory at their address. If the syndrome says what was
tried, it is tried on the bus, once; the guest sees of it what the instruction would have done, and
the rest of its state stays as it was.
-/

namespace VmMonitor

open Bits

-- The number that the bytes of this width stand for.
def Width.number (w : Width) (signed : Bool) (value : UInt64) : Int :=
  if signed then (value.toNat : Int).bmod (2 ^ (8 * w.bytes)) else (w.truncate value).toNat

theorem Width.ofBytes?_pow {k : Nat} (small : k < 4) :
    ∃ w : Width, ofBytes? (2 ^ k) = some w ∧ w.bytes = 2 ^ k := by
  match k, small with
  | 0, _ => exact ⟨.byte, rfl, rfl⟩
  | 1, _ => exact ⟨.half, rfl, rfl⟩
  | 2, _ => exact ⟨.word, rfl, rfl⟩
  | 3, _ => exact ⟨.double, rfl, rfl⟩

-- What the bus answers is no wider than was asked for.
theorem Bus.read_truncated {δ : Type} [BusDevice δ] {bus : Bus δ} {board : Board}
    {address value : UInt64} {width : Width} {r : Answered (Bus δ) UInt64}
    (done : bus.read board address width = .ok r) (answered : r.answer = .ok value) :
    width.truncate value = value := by
  unfold read at done
  obtain ⟨routed, _, done⟩ := Checked.bind_eq_ok.mp done
  cases routed with
  | error e =>
      cases done
      cases answered
  | ok target =>
      obtain ⟨a, _, done⟩ := Checked.bind_eq_ok.mp done
      cases done
      obtain ⟨raw, _, rfl⟩ := Checked.map_eq_ok.mp answered
      rw [Width.and_mask, Width.truncate_truncate]

namespace VcpuState

-- The guest has trapped on a load or store.
def Aborts (s : VcpuState) : Prop := s.vector = 0x400 ∧ field s.esr.toNat 26 6 = 0x24

instance (s : VcpuState) : Decidable s.Aborts := inferInstanceAs (Decidable (_ ∧ _))

-- What the syndrome says of it: whether it says anything, the size, how a load is to be extended, the
-- register, and the direction.

def described (s : VcpuState) : Bool := s.esr.toNat.testBit 24

def accessSize (s : VcpuState) : Nat := 2 ^ field s.esr.toNat 22 2

def signed (s : VcpuState) : Bool := s.esr.toNat.testBit 21

def transferred (s : VcpuState) : Nat := field s.esr.toNat 16 5

def wide (s : VcpuState) : Bool := s.esr.toNat.testBit 15

def stores (s : VcpuState) : Bool := s.esr.toNat.testBit 6

end VcpuState

namespace Platform

variable {δ τ η α : Type}

-- The number that a load leaves in its register.

theorem signExtend_number (w : Width) (value : UInt64) :
    ((signExtend w value).toNat : Int) = w.number true value % 2 ^ 64 := by
  have bits : (signExtend w value).toBitVec =
      (value.toBitVec.setWidth (8 * w.bytes)).signExtend 64 := by
    rw [← shifted_back _ (by cases w <;> decide) (by cases w <;> decide)]
    cases w <;> rfl
  have narrow : min 64 (8 * w.bytes) = 8 * w.bytes := by cases w <;> rfl
  have signed : (signExtend w value).toBitVec.toInt = w.number true value := by
    rw [bits, BitVec.toInt_signExtend, BitVec.toInt_setWidth, narrow, Int.bmod_bmod]
    rfl
  rw [← signed]
  exact toNat_toInt _

theorem loaded_number {a : DataAbort} {w : Width} {value : UInt64}
    (fits : w.truncate value = value) :
    ((loaded a w value).toNat : Int) =
      w.number a.signExtend value % (if a.sixtyFour then 2 ^ 64 else 2 ^ 32) := by
  let full := if a.signExtend then signExtend w value else value
  have extended : (full.toNat : Int) = w.number a.signExtend value % 2 ^ 64 := by
    cases sign : a.signExtend with
    | true =>
        simp only [full, sign, if_true]
        exact signExtend_number w value
    | false =>
        have inside := value.toNat_lt
        simp only [full, sign, Width.number, fits, Bool.false_eq_true, if_false]
        omega
  unfold loaded
  cases a.sixtyFour with
  | true => exact extended
  | false =>
      have cut : (full &&& 0xffffffff).toNat = full.toNat % 2 ^ 32 := by
        rw [UInt64.toNat_and]
        exact Nat.and_two_pow_sub_one_eq_mod _ 32
      change ((full &&& 0xffffffff).toNat : Int) = w.number a.signExtend value % 2 ^ 32
      rw [cut]
      omega

-- One access to the bus and nothing else has happened.
def accessed (p : Platform δ τ η) (r : Answered (Bus δ) α) : Platform δ τ η :=
  { p with bus := r.device, board := r.board }

-- A refusal is reported and leaves the guest as it is.
def concluded (p : Platform δ τ η) (s : VcpuState) (f : α → VcpuState)
    (r : Answered (Bus δ) α) : Exited δ τ η TrapOutcome :=
  match r.answer with
  | .error e => ⟨.error (.mmio e), s, p.accessed r⟩
  | .ok a => ⟨.ok .resume, f a, p.accessed r⟩

section Abort

variable [BusDevice δ] {p : Platform δ τ η} {s : VcpuState} {a : DataAbort} {width : Width}

theorem dataAbort_undescribed (silent : s.described = false) :
    p.dataAbort s = .ok ⟨.error (unimplemented s), s, p⟩ := by
  unfold dataAbort
  rw [Syndrome.dataAbort_eq]
  exact if_pos (congrArg not silent)

theorem dataAbort_write (what : DataAbort.ofIss s.syndrome.iss = a) (valid : a.valid = true)
    (size : Width.ofBytes? a.size = some width) (write : a.isWrite = true) :
    p.dataAbort s = (p.bus.write p.board s.faultAddress width
      (width.truncate (s.reg a.transfer))).map (p.concluded s fun _ => s.advancePc) := by
  unfold dataAbort
  rw [what, ← Width.and_mask]
  dsimp only
  rw [valid, size, write]
  change (p.bus.write p.board s.faultAddress width (s.reg a.transfer &&& width.mask)).bind _ = _
  cases p.bus.write p.board s.faultAddress width (s.reg a.transfer &&& width.mask) with
  | error fault => rfl
  | ok r =>
      obtain ⟨answer, bus, board⟩ := r
      cases answer <;> rfl

theorem dataAbort_read (what : DataAbort.ofIss s.syndrome.iss = a) (valid : a.valid = true)
    (size : Width.ofBytes? a.size = some width) (read : a.isWrite = false) :
    p.dataAbort s = (p.bus.read p.board s.faultAddress width).map
      (p.concluded s fun value => (s.setReg a.transfer (loaded a width value)).advancePc) := by
  unfold dataAbort
  rw [what]
  dsimp only
  rw [valid, size, read]
  change (p.bus.read p.board s.faultAddress width).bind _ = _
  cases p.bus.read p.board s.faultAddress width with
  | error fault => rfl
  | ok r =>
      obtain ⟨answer, bus, board⟩ := r
      cases answer <;> rfl

end Abort

variable [BusDevice δ] [HostTimer τ] [HypercallHandler η] {p : Platform δ τ η} {s : VcpuState}

theorem handleExit_aborts (aborts : s.Aborts) : p.handleExit s = p.dataAbort s := by
  obtain ⟨taken, code⟩ := aborts
  have trapped : s.syndrome.class? = some .dataAbort := VcpuState.class?_of_code code
  rw [handleExit_synchronous taken]
  unfold synchronous
  rw [trapped]

-- The exit comes down to this access to the bus, and `Completed` says what the guest sees of it.
structure ComesTo (p : Platform δ τ η) (s : VcpuState) (access : Checked (Answered (Bus δ) α))
    (Completed : α → VcpuState → Prop) : Prop where
  fault : ∀ f, access = .error f → p.handleExit s = .error f
  refused : ∀ r e, access = .ok r → r.answer = .error e →
    p.handleExit s = .ok ⟨.error (.mmio e), s, p.accessed r⟩
  done : ∀ r a, access = .ok r → r.answer = .ok a →
    ∃ s', Completed a s' ∧ p.handleExit s = .ok ⟨.ok .resume, s', p.accessed r⟩

theorem ComesTo.of_map {access : Checked (Answered (Bus δ) α)} {f : α → VcpuState}
    {Completed : α → VcpuState → Prop} (runs : p.handleExit s = access.map (p.concluded s f))
    (completes : ∀ r a, access = .ok r → r.answer = .ok a → Completed a (f a)) :
    p.ComesTo s access Completed := by
  refine ⟨fun fault broken => ?_, fun r e answered refused => ?_, fun r a answered done =>
    ⟨f a, completes r a answered done, ?_⟩⟩
  · rw [runs, broken]
    rfl
  · rw [runs, answered]
    refine congrArg Except.ok ?_
    unfold concluded
    rw [refused]
  · rw [runs, answered]
    refine congrArg Except.ok ?_
    unfold concluded
    rw [done]

-- Every load and store that the syndrome describes is one access to the bus, of the size and at the
-- address described. What a load leaves in its register is the number that it has read, signed or
-- not, in 64 bits or in 32.
theorem abort_emulated (aborts : s.Aborts) :
    (s.described = false →
      p.handleExit s = .ok ⟨.error (.unimplementedTrap s.esr s.vector), s, p⟩) ∧
    (s.described = true → ∃ (address value : UInt64) (width : Width),
      address.toNat = field s.hpfar.toNat 4 44 * 2 ^ 12 + field s.far.toNat 0 12 ∧
      width.bytes = s.accessSize ∧
      value.toNat = (s.contents s.transferred).toNat % 2 ^ (8 * s.accessSize) ∧
      (s.stores = true →
        p.ComesTo s (p.bus.write p.board address width value) fun _ s' =>
          s.Past s' ∧ s'.regs = s.regs) ∧
      (s.stores = false →
        p.ComesTo s (p.bus.read p.board address width) fun v s' => ∃ word : UInt64,
          (word.toNat : Int) = width.number s.signed v % (if s.wide then 2 ^ 64 else 2 ^ 32) ∧
            s.Receives s' s.transferred word)) := by
  have runs := handleExit_aborts (p := p) aborts
  refine ⟨fun silent => runs.trans (dataAbort_undescribed silent), fun described => ?_⟩
  obtain ⟨width, known, size⟩ := Width.ofBytes?_pow (field_lt s.esr.toNat 22 2)
  have what : DataAbort.ofIss s.syndrome.iss =
      ⟨s.described, s.accessSize, s.signed, s.transferred, s.wide, s.stores⟩ :=
    Syndrome.dataAbort_eq _
  refine ⟨s.faultAddress, width.truncate (s.reg s.transferred), width, s.faultAddress_toNat, size,
    ?_, fun stores => ?_, fun loads => ?_⟩
  · rw [Width.truncate_toNat, size, s.contents_eq]
    rfl
  · have wrote := runs.trans (dataAbort_write what described known stores)
    exact .of_map wrote fun _ _ _ _ => ⟨s.advancePc_past, rfl⟩
  · have read := runs.trans (dataAbort_read what described known loads)
    exact .of_map read fun _ _ answered given =>
      ⟨_, loaded_number (Bus.read_truncated answered given),
        VcpuState.setReg_receives (field_lt s.esr.toNat 16 5) _⟩

-- A machine with one device, and a guest that loads a signed byte from it into 32 bits of register 5.

def echoing : Platform Bench.Echo SimulatedTimer NoHypercalls :=
  ⟨⟨⟨⟨[]⟩, #[]⟩, .initial⟩, ⟨[⟨⟨0x1000, 0x100⟩, ⟨false, []⟩⟩]⟩, ⟨.new, 62500, none⟩, .mk⟩

def byteLoad : VcpuState :=
  { VcpuState.initial with vector := 0x400, esr := 0x91250000, hpfar := 0x10 }

theorem abort_emulated_signed :
    byteLoad.Aborts ∧ byteLoad.described = true ∧ ∃ s' p',
      echoing.handleExit byteLoad = .ok ⟨.ok .resume, s', p'⟩ ∧ s'.reg 5 = 0xffffff81 ∧
      byteLoad.Past s' ∧ ∀ n, n ≠ 5 → s'.reg n = byteLoad.reg n := by
  have aborts : byteLoad.Aborts := by decide
  have described : byteLoad.described = true := by decide
  obtain ⟨address, value, width, place, size, _, _, loads⟩ :=
    (abort_emulated (p := echoing) aborts).2 described
  have here : address = 0x1000 := UInt64.toNat_inj.mp (place.trans (by decide))
  have byte : width = .byte := by
    cases width with
    | byte => rfl
    | half | word | double => exact absurd size (by decide)
  subst here byte
  have read : echoing.bus.read echoing.board 0x1000 .byte =
      .ok ⟨.ok 0x81, echoing.bus, echoing.board⟩ := rfl
  obtain ⟨s', loaded, ran⟩ := (loads (by decide)).done _ _ read rfl
  obtain ⟨word, number, received⟩ := loaded
  have signed : (word.toNat : Int) = 0xffffff81 := number.trans (by decide)
  have target : s'.reg 5 = 0xffffff81 :=
    received.target.trans (UInt64.toNat_inj.mp (Int.ofNat_inj.mp signed))
  exact ⟨aborts, described, s', _, ran, target, received.toPast, received.others⟩

end Platform

end VmMonitor
