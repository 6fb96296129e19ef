import VmMonitor.Cpu.Exit
import VmMonitor.Proofs.Bits

/-!
What a trapped instruction says of itself, and what the guest finds in its registers once it is taken
past the instruction. In the syndrome the class of the exception is in bits 31 to 26, and below it are
the access and its registers. Register 31 is none: it reads as zero, and what is written to it is gone.
-/

namespace VmMonitor

open Bits

namespace SysRegId

-- What names a register.
@[ext]
structure Fields where
  op0 : Nat
  op1 : Nat
  crn : Nat
  crm : Nat
  op2 : Nat
  deriving DecidableEq, Repr

def fields (r : SysRegId) : Fields :=
  ⟨r.op0.toNat, r.op1.toNat, r.crn.toNat, r.crm.toNat, r.op2.toNat⟩

theorem fields_eq (r : SysRegId) :
    r.fields = ⟨field r.encoded.toNat 14 2, field r.encoded.toNat 11 3, field r.encoded.toNat 7 4,
      field r.encoded.toNat 3 4, field r.encoded.toNat 0 3⟩ := by
  have lowest : r.encoded &&& 7 = (r.encoded >>> (0 : UInt16)) &&& 7 := by
    rw [UInt16.shiftRight_zero]
  unfold fields op0 op1 crn crm op2
  rw [lowest, byte16 (c := 2) (by decide) (by decide) rfl,
    byte16 (c := 3) (by decide) (by decide) rfl,
    byte16 (c := 4) (by decide) (by decide) rfl,
    byte16 (c := 4) (by decide) (by decide) rfl,
    byte16 (c := 3) (by decide) (by decide) rfl]
  rfl

-- The fields take up all sixteen bits.
theorem fields_inj {r r' : SysRegId} (same : r.fields = r'.fields) : r = r' := by
  have inside := r.encoded.toNat_lt
  have inside' := r'.encoded.toNat_lt
  rw [fields_eq, fields_eq] at same
  obtain ⟨op0, op1, crn, crm, op2⟩ := Fields.mk.inj same
  unfold field at op0 op1 crn crm op2
  have equal : r.encoded.toNat = r'.encoded.toNat := by omega
  cases r
  exact congrArg SysRegId.mk (UInt16.toNat_inj.mp equal)

-- One field at its place, cut to its width.
theorem placed {a : UInt8} {m k : UInt16} {c : Nat} (mask : m.toNat = 2 ^ c - 1)
    (fits : c + k.toNat ≤ 16) (inside : k.toNat < 16) :
    ((a.toUInt16 &&& m) <<< k).toNat = (a.toNat % 2 ^ c) <<< k.toNat := by
  rw [UInt16.toNat_shiftLeft, UInt16.toNat_and, UInt8.toNat_toUInt16, mask,
    Nat.and_two_pow_sub_one_eq_mod, Nat.mod_eq_of_lt inside]
  refine Nat.mod_eq_of_lt ?_
  calc (a.toNat % 2 ^ c) <<< k.toNat = a.toNat % 2 ^ c * 2 ^ k.toNat := Nat.shiftLeft_eq ..
    _ < 2 ^ c * 2 ^ k.toNat :=
        Nat.mul_lt_mul_of_pos_right (Nat.mod_lt _ (Nat.two_pow_pos _)) (Nat.two_pow_pos _)
    _ = 2 ^ (c + k.toNat) := (Nat.pow_add ..).symm
    _ ≤ 2 ^ 16 := Nat.pow_le_pow_right (by decide) fits

theorem ofFields_toNat (op0 op1 crn crm op2 : UInt8) :
    (ofFields op0 op1 crn crm op2).encoded.toNat = op0.toNat % 2 ^ 2 * 2 ^ 14 +
      (op1.toNat % 2 ^ 3 * 2 ^ 11 + (crn.toNat % 2 ^ 4 * 2 ^ 7 +
        (crm.toNat % 2 ^ 4 * 2 ^ 3 + op2.toNat % 2 ^ 3))) := by
  have lowest : (op2.toUInt16 &&& 7).toNat = op2.toNat % 2 ^ 3 := by
    rw [UInt16.toNat_and, UInt8.toNat_toUInt16]
    exact Nat.and_two_pow_sub_one_eq_mod _ 3
  have apart : (op0.toNat % 2 ^ 2) <<< 14 ||| ((op1.toNat % 2 ^ 3) <<< 11 |||
      ((crn.toNat % 2 ^ 4) <<< 7 ||| ((crm.toNat % 2 ^ 4) <<< 3 ||| op2.toNat % 2 ^ 3))) =
      op0.toNat % 2 ^ 2 * 2 ^ 14 + (op1.toNat % 2 ^ 3 * 2 ^ 11 + (crn.toNat % 2 ^ 4 * 2 ^ 7 +
        (crm.toNat % 2 ^ 4 * 2 ^ 3 + op2.toNat % 2 ^ 3))) := by
    rw [or_add (i := 3) (by omega), or_add (i := 7) (by omega), or_add (i := 11) (by omega),
      or_add (i := 14) (by omega)]
  unfold ofFields
  rw [UInt16.toNat_or, UInt16.toNat_or, UInt16.toNat_or, UInt16.toNat_or,
    placed (c := 2) rfl (by decide) (by decide), placed (c := 3) rfl (by decide) (by decide),
    placed (c := 4) rfl (by decide) (by decide), placed (c := 4) rfl (by decide) (by decide),
    lowest, Nat.or_assoc, Nat.or_assoc, Nat.or_assoc]
  exact apart

theorem fields_ofFields (op0 op1 crn crm op2 : UInt8) :
    (ofFields op0 op1 crn crm op2).fields = ⟨op0.toNat % 2 ^ 2, op1.toNat % 2 ^ 3,
      crn.toNat % 2 ^ 4, crm.toNat % 2 ^ 4, op2.toNat % 2 ^ 3⟩ := by
  rw [fields_eq, ofFields_toNat]
  unfold field
  congr 1 <;> omega

-- A trapped access names its register by the same fields in other places.
theorem fields_ofIss (iss : UInt32) :
    (ofIss iss).fields = ⟨field iss.toNat 20 2, field iss.toNat 14 3, field iss.toNat 10 4,
      field iss.toNat 1 4, field iss.toNat 17 3⟩ := by
  unfold ofIss
  rw [fields_ofFields, byte32 (c := 2) (by decide) (by decide) rfl,
    byte32 (c := 3) (by decide) (by decide) rfl, byte32 (c := 4) (by decide) (by decide) rfl,
    byte32 (c := 4) (by decide) (by decide) rfl, byte32 (c := 3) (by decide) (by decide) rfl]
  unfold field
  simp only [Nat.mod_mod]
  rfl

theorem fields_lt (r : SysRegId) :
    r.fields.op0 < 2 ^ 2 ∧ r.fields.op1 < 2 ^ 3 ∧ r.fields.crn < 2 ^ 4 ∧ r.fields.crm < 2 ^ 4 ∧
      r.fields.op2 < 2 ^ 3 := by
  rw [fields_eq]
  exact ⟨field_lt .., field_lt .., field_lt .., field_lt .., field_lt ..⟩

theorem lifted {a : UInt8} {k : UInt32} (small : k.toNat ≤ 20) :
    (a.toUInt32 <<< k).toNat = a.toNat <<< k.toNat := by
  rw [UInt32.toNat_shiftLeft, UInt8.toNat_toUInt32, Nat.mod_eq_of_lt (b := 32) (by omega)]
  refine Nat.mod_eq_of_lt ?_
  calc a.toNat <<< k.toNat = a.toNat * 2 ^ k.toNat := Nat.shiftLeft_eq ..
    _ ≤ a.toNat * 2 ^ 20 := Nat.mul_le_mul_left _ (Nat.pow_le_pow_right (by decide) small)
    _ < 2 ^ 32 := by have := a.toNat_lt; omega

theorem issKey_toNat (r : SysRegId) :
    r.issKey.toNat = r.fields.op0 * 2 ^ 20 + (r.fields.op2 * 2 ^ 17 + (r.fields.op1 * 2 ^ 14 +
      (r.fields.crn * 2 ^ 10 + r.fields.crm * 2 ^ 1))) := by
  obtain ⟨_, op1, crn, crm, op2⟩ := r.fields_lt
  have apart : r.fields.op0 <<< 20 ||| (r.fields.op2 <<< 17 ||| (r.fields.op1 <<< 14 |||
      (r.fields.crn <<< 10 ||| r.fields.crm <<< 1))) = r.fields.op0 * 2 ^ 20 +
        (r.fields.op2 * 2 ^ 17 + (r.fields.op1 * 2 ^ 14 +
          (r.fields.crn * 2 ^ 10 + r.fields.crm * 2 ^ 1))) := by
    rw [Nat.shiftLeft_eq r.fields.crm, or_add (i := 10) (by omega), or_add (i := 14) (by omega),
      or_add (i := 17) (by omega), or_add (i := 20) (by omega)]
  unfold issKey
  rw [UInt32.toNat_or, UInt32.toNat_or, UInt32.toNat_or, UInt32.toNat_or, lifted (by decide),
    lifted (by decide), lifted (by decide), lifted (by decide), lifted (by decide), Nat.or_assoc,
    Nat.or_assoc, Nat.or_assoc]
  exact apart

-- The key tells the same registers apart as the fields.
theorem issKey_inj {r r' : SysRegId} (same : r.issKey = r'.issKey) : r = r' := by
  obtain ⟨op0, op1, crn, crm, op2⟩ := r.fields_lt
  obtain ⟨op0', op1', crn', crm', op2'⟩ := r'.fields_lt
  have equal := congrArg UInt32.toNat same
  rw [issKey_toNat, issKey_toNat] at equal
  exact fields_inj (Fields.ext (by omega) (by omega) (by omega) (by omega) (by omega))

end SysRegId

namespace Syndrome

theorem class?_field (s : Syndrome) :
    s.class? = ExceptionClass.ofCode? (.ofNat (field s.value.toNat 26 6)) := by
  have code : s.code = .ofNat (field s.value.toNat 26 6) := by
    unfold code
    rw [← UInt32.toNat_inj, UInt64.toNat_toUInt32, field64 (c := 6) (by decide) rfl]
    rfl
  unfold class?
  rw [code]

theorem iss_toNat (s : Syndrome) : s.iss.toNat = s.value.toNat % 2 ^ 25 := by
  have mask : (0x1ffffff : UInt64).toNat = 2 ^ 25 - 1 := rfl
  unfold iss
  rw [UInt64.toNat_toUInt32, UInt64.toNat_and, mask, Nat.and_two_pow_sub_one_eq_mod]
  exact Nat.mod_eq_of_lt (Nat.lt_trans (Nat.mod_lt _ (by decide)) (by decide))

theorem iss_bit (s : Syndrome) {i : Nat} (inside : i < 25) :
    s.iss.toNat.testBit i = s.value.toNat.testBit i := by
  rw [iss_toNat, Nat.testBit_mod_two_pow, decide_eq_true inside, Bool.true_and]

theorem iss_field (s : Syndrome) {lo count : Nat} (inside : lo + count ≤ 25) :
    field s.iss.toNat lo count = field s.value.toNat lo count := by
  rw [iss_toNat, field_low inside]

-- A load or store.
theorem dataAbort_eq (s : Syndrome) :
    DataAbort.ofIss s.iss =
      { valid := s.value.toNat.testBit 24
        size := 2 ^ field s.value.toNat 22 2
        signExtend := s.value.toNat.testBit 21
        transfer := field s.value.toNat 16 5
        sixtyFour := s.value.toNat.testBit 15
        isWrite := s.value.toNat.testBit 6 } := by
  unfold DataAbort.ofIss
  rw [flag32 (i := 24) rfl, flag32 (i := 21) rfl, flag32 (i := 15) rfl, flag32 (i := 6) rfl,
    field32 (c := 2) (by decide) rfl, field32 (c := 5) (by decide) rfl,
    iss_bit s (by decide), iss_bit s (by decide), iss_bit s (by decide), iss_bit s (by decide),
    Nat.one_shiftLeft]
  have size : field s.iss.toNat (22 : UInt32).toNat 2 = field s.value.toNat 22 2 :=
    iss_field s (by decide)
  have transfer : field s.iss.toNat (16 : UInt32).toNat 5 = field s.value.toNat 16 5 :=
    iss_field s (by decide)
  rw [size, transfer]

-- An access to a system register.
theorem sysRegAccess_eq (s : Syndrome) :
    SysRegAccess.ofIss s.iss =
      { register := .ofIss s.iss
        transfer := field s.value.toNat 5 5
        isRead := s.value.toNat.testBit 0 } := by
  unfold SysRegAccess.ofIss
  rw [flag32 (i := 0) rfl, field32 (c := 5) (by decide) rfl, iss_bit s (by decide)]
  congr 1
  exact iss_field s (by decide)

end Syndrome

namespace VcpuState

theorem exception?_synchronous {s : VcpuState} (taken : s.vector = 0x400) :
    s.exception? = some .synchronous := by
  unfold exception?
  rw [taken]
  rfl

theorem class?_of_code {s : VcpuState} {code : Nat} (same : field s.esr.toNat 26 6 = code) :
    s.syndrome.class? = ExceptionClass.ofCode? (.ofNat code) := by
  rw [Syndrome.class?_field, ← same]
  rfl

-- The page from one register, the place in the page from the other.
theorem faultAddress_toNat (s : VcpuState) :
    s.faultAddress.toNat = field s.hpfar.toNat 4 44 * 2 ^ 12 + field s.far.toNat 0 12 := by
  have page : (s.hpfar &&& 0xfffffffffff0).toNat = field s.hpfar.toNat 4 44 * 2 ^ 4 := by
    rw [UInt64.toNat_and]
    exact and_shifted s.hpfar.toNat 4 44
  have place : (s.far &&& 0xfff).toNat = field s.far.toNat 0 12 := by
    rw [UInt64.toNat_and]
    exact (field_eq s.far.toNat 0 12)
  have fits := field_lt s.hpfar.toNat 4 44
  have inside := field_lt s.far.toNat 0 12
  unfold faultAddress
  have whole : (field s.hpfar.toNat 4 44 * 2 ^ 4) <<< 8 = field s.hpfar.toNat 4 44 <<< 12 := by
    rw [Nat.shiftLeft_eq, Nat.shiftLeft_eq, Nat.mul_assoc, ← Nat.pow_add]
  rw [UInt64.toNat_or, UInt64.toNat_shiftLeft, page, place, ← or_add inside, ← whole]
  congr 1
  refine Nat.mod_eq_of_lt ?_
  change (field s.hpfar.toNat 4 44 * 2 ^ 4) <<< 8 < 2 ^ 64
  rw [whole, Nat.shiftLeft_eq]
  omega

def contents (s : VcpuState) (n : Nat) : UInt64 := if n = 31 then 0 else s.reg n

theorem contents_eq (s : VcpuState) (n : Nat) : s.contents n = s.reg n := by
  unfold contents
  split
  · rename_i zero
    rw [zero]
    rfl
  · rfl

-- The guest is past the instruction and otherwise as it was, but for the general purpose registers.
structure Past (s s' : VcpuState) : Prop where
  pc : s'.pc.toNat = (s.pc.toNat + 4) % 2 ^ 64
  rest : s' = { s with regs := s'.regs, pc := s'.pc }

-- The instruction leaves this value in register `n`.
structure Receives (s s' : VcpuState) (n : Nat) (value : UInt64) : Prop extends Past s s' where
  target : s'.reg n = if n = 31 then 0 else value
  others : ∀ m, m ≠ n → s'.reg m = s.reg m

theorem advancePc_past (s : VcpuState) : s.Past s.advancePc := ⟨UInt64.toNat_add s.pc 4, rfl⟩

theorem reg_setReg (s : VcpuState) (n m : Nat) (value : UInt64) :
    (s.setReg n value).reg m = if m = n ∧ n < 31 then value else s.reg m := by
  unfold reg setReg
  dsimp only
  rw [Vector.getElem?_setIfInBounds]
  by_cases here : n = m
  · subst m
    by_cases real : n < 31
    · simp [real]
    · simp [real]
  · rw [if_neg here, if_neg fun both => here both.1.symm]

theorem setReg_receives {s : VcpuState} {n : Nat} (real : n < 32) (value : UInt64) :
    s.Receives (s.setReg n value).advancePc n value := by
  refine ⟨⟨UInt64.toNat_add s.pc 4, rfl⟩, ?_, fun m other => ?_⟩
  · change VcpuState.reg (s.setReg n value) n = _
    by_cases zero : n = 31
    · subst n
      rfl
    · rw [if_neg zero, reg_setReg, if_pos ⟨rfl, by omega⟩]
  · change VcpuState.reg (s.setReg n value) m = _
    rw [reg_setReg, if_neg fun both => other both.1]

end VcpuState

theorem Platform.handleExit_synchronous {δ τ η : Type} [BusDevice δ] [HostTimer τ]
    [HypercallHandler η] {p : Platform δ τ η} {s : VcpuState} (taken : s.vector = 0x400) :
    p.handleExit s = p.synchronous s := by
  simp only [handleExit, VcpuState.exception?_synchronous taken]

end VmMonitor
