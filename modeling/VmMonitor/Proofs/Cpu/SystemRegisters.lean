import VmMonitor.Proofs.Cpu.Abort
import VmMonitor.Proofs.Cpu.Identity
import VmMonitor.Proofs.Cpu.Refused

/-!
The system registers as the guest sees them through MRS and MSR. Which register is meant, and whether
the access goes through, is read off the syndrome; what was written is what is read back, with few
exceptions, and to write one register is to write no other.
-/

namespace VmMonitor

open Bits

namespace VcpuState

-- The guest has trapped on an access to a system register.
def AsksRegister (s : VcpuState) : Prop := s.vector = 0x400 ∧ field s.esr.toNat 26 6 = 0x18

instance (s : VcpuState) : Decidable s.AsksRegister := inferInstanceAs (Decidable (_ ∧ _))

-- What the syndrome says of it: the register that is named, whether it is read, and the general
-- purpose register.

def named (s : VcpuState) : SysRegId.Fields :=
  ⟨field s.esr.toNat 20 2, field s.esr.toNat 14 3, field s.esr.toNat 10 4, field s.esr.toNat 1 4,
    field s.esr.toNat 17 3⟩

def fetches (s : VcpuState) : Bool := s.esr.toNat.testBit 0

def exchanged (s : VcpuState) : Nat := field s.esr.toNat 5 5

theorem ofIss_named (s : VcpuState) : (SysRegId.ofIss s.syndrome.iss).fields = s.named := by
  rw [SysRegId.fields_ofIss, Syndrome.iss_field _ (by decide), Syndrome.iss_field _ (by decide),
    Syndrome.iss_field _ (by decide), Syndrome.iss_field _ (by decide),
    Syndrome.iss_field _ (by decide)]
  rfl

-- A system register was written, and the guest is past the instruction and otherwise as it was.
structure Wrote (s s' : VcpuState) : Prop where
  pc : s'.pc.toNat = (s.pc.toNat + 4) % 2 ^ 64
  rest : s' = { s with sys := s'.sys, timer := s'.timer, pc := s'.pc }

theorem write_wrote {r : SysReg} (free : r.writeable = true) (s : VcpuState) (value : UInt64) :
    s.Wrote (r.write s value).advancePc := by
  cases r with
  | ident _ | ccsidr | oslsr | cntfrq | cntvct => cases free
  | _ => exact ⟨UInt64.toNat_add s.pc 4, rfl⟩

-- The system registers of the two are the same.
structure SameSystem (s t : VcpuState) : Prop where
  ids : t.ids = s.ids
  sys : t.sys = s.sys
  timer : t.timer = s.timer

end VcpuState

namespace SysReg

theorem find?_fields {id : SysRegId} {r : SysReg} : find? id = some r ↔ r.id.fields = id.fields := by
  constructor
  · intro found
    rw [SysRegId.issKey_inj (find?_key.mp found)]
  · intro same
    rw [← SysRegId.fields_inj same]
    exact find?_id r

-- What the guest reads after it has written `value` to register `r`, where it read from `s` before.
structure Rewritten (r : SysReg) (value : UInt64) (s t : VcpuState) : Prop where
  plain : r ∈ [csselr, actlr, mdscr, osdlr, cntvCval] → r.read t = value
  -- The status of the timer is not for the guest to write.
  control : r = cntvCtl → r.read t = (r.read s &&& 4) ||| (value &&& 3)
  lock : r = oslar → r.read t = 0
  others : ∀ r', r' ≠ r → (r, r') ≠ (oslar, oslsr) → (r, r') ≠ (csselr, ccsidr) →
    r'.read t = r'.read s
  locked : r = oslar → ∀ i, (oslsr.read t).toNat.testBit i =
    if i = 1 then value.toNat.testBit 0 else (oslsr.read s).toNat.testBit i
  selected : r = csselr → ccsidr.read t =
    s.ids.ccsidr.get ⟨value.toNat % 16, Nat.mod_lt _ (by decide)⟩

theorem lock_bit (s : VcpuState) (value : UInt64) (i : Nat) :
    (oslsr.read (oslar.write s value)).toNat.testBit i =
      if i = 1 then value.toNat.testBit 0 else (oslsr.read s).toNat.testBit i := by
  have bit : osLocked.toNat.testBit i = decide (i = 1) := by
    have single : osLocked.toNat = 2 ^ 1 := rfl
    rw [single, Nat.testBit_two_pow]
    simp only [eq_comm]
  change (if value &&& 1 != 0 then s.sys.oslsr ||| osLocked
    else s.sys.oslsr &&& ~~~osLocked).toNat.testBit i = _
  rw [flag (x := value) (m := 1) (i := 0) rfl]
  cases locks : value.toNat.testBit 0 with
  | true =>
      rw [if_pos rfl, UInt64.toNat_or, Nat.testBit_or, bit]
      by_cases one : i = 1 <;> simp [one, read]
  | false =>
      have clear : (~~~osLocked).toNat.testBit i = (decide (i < 64) && !decide (i = 1)) := by
        have complement : (~~~osLocked).toNat = 2 ^ 64 - (osLocked.toNat + 1) := rfl
        rw [complement, Nat.testBit_two_pow_sub_succ (by decide), bit]
      rw [if_neg Bool.false_ne_true, UInt64.toNat_and, Nat.testBit_and, clear]
      by_cases one : i = 1
      · simp [one]
      · by_cases inside : i < 64
        · simp [one, inside, read]
        · simp [one, read, bit_past s.sys.oslsr.toNat_lt (Nat.not_lt.mp inside)]

theorem write_others {r r' : SysReg} (free : r.writeable = true) (other : r' ≠ r)
    (lock : (r, r') ≠ (oslar, oslsr)) (cache : (r, r') ≠ (csselr, ccsidr)) (s : VcpuState)
    (value : UInt64) : r'.read (r.write s value) = r'.read s := by
  cases r with
  | ident _ | ccsidr | oslsr | cntfrq | cntvct => cases free
  | _ =>
    cases r' with
    | _ => first | rfl | exact absurd rfl other | exact absurd rfl lock | exact absurd rfl cache

theorem write_rewritten {r : SysReg} (free : r.writeable = true) (s : VcpuState)
    (value : UInt64) : r.Rewritten value s (r.write s value) where
  plain := by
    intro listed
    cases r with
    | csselr | actlr | mdscr | osdlr | cntvCval => rfl
    | _ => exact absurd listed (by simp)
  control := by
    rintro rfl
    rfl
  lock := by
    rintro rfl
    rfl
  others r' other lock cache := write_others free other lock cache s value
  locked := by
    rintro rfl
    exact lock_bit s value
  selected := by
    rintro rfl
    have index : cacheIndex (csselr.write s value) = value.toNat % 16 := by
      change (value &&& 0xf).toNat = _
      rw [UInt64.toNat_and]
      exact Nat.and_two_pow_sub_one_eq_mod _ 4
    change (s.ids.ccsidr[cacheIndex (csselr.write s value)]?).getD 0 = _
    rw [index, Vector.getElem?_eq_getElem (Nat.mod_lt _ (by decide))]
    rfl

-- What is read depends on nothing else of the guest.
theorem Rewritten.congr {r : SysReg} {value : UInt64} {s t u : VcpuState}
    (rewritten : r.Rewritten value s t) (same : t.SameSystem u) : r.Rewritten value s u := by
  have reads (r : SysReg) : r.read u = r.read t := by
    cases r <;> simp only [read, cacheIndex, same.ids, same.sys, same.timer]
  obtain ⟨plain, control, lock, others, locked, selected⟩ := rewritten
  constructor <;> simpa only [reads]

end SysReg

namespace Platform

variable {δ τ η : Type} [BusDevice δ] [HostTimer τ] [HypercallHandler η] {p : Platform δ τ η}
  {s : VcpuState}

-- What comes of a trapped MRS or MSR.
structure Emulates (p : Platform δ τ η) (s : VcpuState) : Prop where
  accepted : (∃ s' p', p.handleExit s = .ok ⟨.ok .resume, s', p'⟩) ↔
    ∃ r : SysReg, r.id.fields = s.named ∧ (s.fetches = true ∨ r.writeable = true)
  unknown : (∀ r : SysReg, r.id.fields ≠ s.named) → ∃ id : SysRegId, id.fields = s.named ∧
    p.handleExit s = .ok ⟨.error (.unknownSystemRegister id), s, p⟩
  refused : ∀ r : SysReg, r.id.fields = s.named → s.fetches = false → r.writeable = false →
    p.handleExit s = .ok ⟨.error (.nonWriteableRegister r.name), s, p⟩
  read : ∀ r : SysReg, r.id.fields = s.named → s.fetches = true →
    ∃ s', p.handleExit s = .ok ⟨.ok .resume, s', p⟩ ∧ s.Receives s' s.exchanged (r.read s)
  written : ∀ r : SysReg, r.id.fields = s.named → s.fetches = false → r.writeable = true →
    ∃ s', p.handleExit s = .ok ⟨.ok .resume, s', p⟩ ∧ s.Wrote s' ∧
      ∀ t, s'.SameSystem t → r.Rewritten (s.contents s.exchanged) s t

theorem handleExit_asks (asks : s.AsksRegister) :
    p.handleExit s = match sysRegAccess s (.ofIss s.syndrome.iss) with
      | .ok s' => .ok ⟨.ok .resume, s', p⟩
      | .error e => .ok ⟨.error e, s, p⟩ := by
  obtain ⟨taken, code⟩ := asks
  have trapped : s.syndrome.class? = some .systemRegister := VcpuState.class?_of_code code
  rw [handleExit_synchronous taken]
  cases accessed : sysRegAccess s (.ofIss s.syndrome.iss) <;>
    simp only [synchronous, trapped, accessed]

theorem sysRegAccess_unknown (unknown : ∀ r : SysReg, r.id.fields ≠ s.named) :
    sysRegAccess s (.ofIss s.syndrome.iss) =
      .error (.unknownSystemRegister (.ofIss s.syndrome.iss)) := by
  have missing : SysReg.find? (.ofIss s.syndrome.iss) = none := by
    cases found : SysReg.find? (.ofIss s.syndrome.iss) with
    | none => rfl
    | some r => exact absurd ((SysReg.find?_fields.mp found).trans s.ofIss_named) (unknown r)
  unfold sysRegAccess
  rw [Syndrome.sysRegAccess_eq]
  dsimp only
  rw [missing]

theorem sysRegAccess_known {r : SysReg} (known : r.id.fields = s.named) :
    sysRegAccess s (.ofIss s.syndrome.iss) =
      if s.fetches then .ok (s.setReg s.exchanged (r.read s)).advancePc
      else if r.writeable then .ok (r.write s (s.reg s.exchanged)).advancePc
      else .error (.nonWriteableRegister r.name) := by
  have found : SysReg.find? (.ofIss s.syndrome.iss) = some r :=
    SysReg.find?_fields.mpr (known.trans s.ofIss_named.symm)
  unfold sysRegAccess
  rw [Syndrome.sysRegAccess_eq]
  dsimp only
  rw [found]
  rfl

theorem register_emulated (asks : s.AsksRegister) : p.Emulates s := by
  have runs := handleExit_asks (p := p) asks
  have unknown (missing : ∀ r : SysReg, r.id.fields ≠ s.named) : p.handleExit s =
      .ok ⟨.error (.unknownSystemRegister (.ofIss s.syndrome.iss)), s, p⟩ := by
    rw [runs, sysRegAccess_unknown missing]
  have refused (r : SysReg) (known : r.id.fields = s.named) (writes : s.fetches = false)
      (fixed : r.writeable = false) :
      p.handleExit s = .ok ⟨.error (.nonWriteableRegister r.name), s, p⟩ := by
    rw [runs, sysRegAccess_known known, writes, fixed]
    rfl
  have read (r : SysReg) (known : r.id.fields = s.named) (reads : s.fetches = true) :
      p.handleExit s = .ok ⟨.ok .resume, (s.setReg s.exchanged (r.read s)).advancePc, p⟩ := by
    rw [runs, sysRegAccess_known known, reads]
    rfl
  have written (r : SysReg) (known : r.id.fields = s.named) (writes : s.fetches = false)
      (free : r.writeable = true) :
      p.handleExit s = .ok ⟨.ok .resume, (r.write s (s.reg s.exchanged)).advancePc, p⟩ := by
    rw [runs, sysRegAccess_known known, writes, free]
    rfl
  refine ⟨⟨?_, ?_⟩, fun missing => ⟨_, s.ofIss_named, unknown missing⟩, refused,
    fun r known reads => ⟨_, read r known reads,
      VcpuState.setReg_receives (field_lt s.esr.toNat 5 5) _⟩,
    fun r known writes free => ⟨_, written r known writes free, s.write_wrote free _,
      fun t same => ?_⟩⟩
  · rintro ⟨s', p', accepted⟩
    by_cases known : ∃ r : SysReg, r.id.fields = s.named
    · obtain ⟨r, known⟩ := known
      refine ⟨r, known, ?_⟩
      by_cases reads : s.fetches = true
      · exact .inl reads
      · by_cases free : r.writeable = true
        · exact .inr free
        · rw [refused r known (eq_false_of_ne_true reads) (eq_false_of_ne_true free)] at accepted
          cases accepted
    · rw [unknown fun r same => known ⟨r, same⟩] at accepted
      cases accepted
  · rintro ⟨r, known, reads | free⟩
    · exact ⟨_, _, read r known reads⟩
    · cases reads : s.fetches with
      | true => exact ⟨_, _, read r known reads⟩
      | false => exact ⟨_, _, written r known reads free⟩
  · rw [s.contents_eq]
    exact (SysReg.write_rewritten free s _).congr ⟨same.ids, same.sys, same.timer⟩

-- A guest that stores all ones in the control register of its timer while the condition is met.
def rearming : VcpuState :=
  (({ VcpuState.initial with
      vector := 0x400, esr := 0x6232f806, timer := ⟨4, 0, 0, 0⟩ } : VcpuState).setReg 0 0xff)

-- Then it loads what is there into register 2.
theorem register_emulated_control :
    rearming.AsksRegister ∧ ∃ s' t',
      (bare SimulatedTimer.new).handleExit rearming =
        .ok ⟨.ok .resume, s', bare SimulatedTimer.new⟩ ∧
      (bare SimulatedTimer.new).handleExit { s' with esr := 0x6232f847 } =
        .ok ⟨.ok .resume, t', bare SimulatedTimer.new⟩ ∧ t'.reg 2 = 7 := by
  have asks : rearming.AsksRegister := by decide
  obtain ⟨s', stored, wrote, rewritten⟩ :=
    (register_emulated (p := bare SimulatedTimer.new) asks).written .cntvCtl (by decide)
      (by decide) rfl
  let t : VcpuState := { s' with esr := 0x6232f847 }
  let like : VcpuState := { rearming with esr := 0x6232f847 }
  have code : field like.esr.toNat 26 6 = 0x18 := by decide
  have named : SysReg.cntvCtl.id.fields = like.named := by decide
  have fetches : like.fetches = true := by decide
  have target : like.exchanged = 2 := by decide
  have later : t.AsksRegister := ⟨congrArg VcpuState.vector wrote.rest, code⟩
  obtain ⟨t', loaded, received⟩ :=
    (register_emulated (p := bare SimulatedTimer.new) later).read .cntvCtl named fetches
  have two : t'.reg 2 = if 2 = 31 then 0 else SysReg.cntvCtl.read t := target ▸ received.target
  have value := (rewritten t ⟨rfl, rfl, rfl⟩).control rfl
  exact ⟨asks, s', t', stored, loaded, two.trans (value.trans (by decide))⟩

end Platform

end VmMonitor
