import VmMonitor.Proofs.Cpu.SystemRegisters

/-!
The two packings of the fields that name a system register: the sixteen bits of its encoding, and the
places that the fields have in a trapped syndrome. Each is read back from the other, whatever else the
syndrome says. So the register that a syndrome names is found if and only if the table has it, and
every register that is emulated is found by its own name.
-/

namespace VmMonitor

open Bits

namespace SysRegId

-- Where a syndrome has the fields, from the top: op0, op2, op1, CRn and CRm. The other bits are the
-- direction, bit 0, the transfer register, bits 5 to 9, and what lies above bit 21.
def fieldBits : UInt32 :=
  ((0x3 : UInt32) <<< 20) ||| ((0x7 : UInt32) <<< 17) ||| ((0x7 : UInt32) <<< 14) |||
    ((0xf : UInt32) <<< 10) ||| ((0xf : UInt32) <<< 1)

def fieldsAt (iss : UInt32) : Fields :=
  ⟨field iss.toNat 20 2, field iss.toNat 14 3, field iss.toNat 10 4, field iss.toNat 1 4,
    field iss.toNat 17 3⟩

theorem and_fieldBits (iss : UInt32) :
    (iss &&& fieldBits).toNat = field iss.toNat 20 2 * 2 ^ 20 + (field iss.toNat 17 3 * 2 ^ 17 +
      (field iss.toNat 14 3 * 2 ^ 14 + (field iss.toNat 10 4 * 2 ^ 10 +
        field iss.toNat 1 4 * 2 ^ 1))) := by
  have parts : fieldBits.toNat = ((2 ^ 2 - 1) <<< 20) ||| (((2 ^ 3 - 1) <<< 17) |||
      (((2 ^ 3 - 1) <<< 14) ||| (((2 ^ 4 - 1) <<< 10) ||| ((2 ^ 4 - 1) <<< 1)))) := by decide
  have beside {a b i : Nat} (below : b < 2 ^ i) : a * 2 ^ i ||| b = a * 2 ^ i + b := by
    rw [← or_add below, Nat.shiftLeft_eq]
  have op2 := field_lt iss.toNat 17 3
  have op1 := field_lt iss.toNat 14 3
  have crn := field_lt iss.toNat 10 4
  have crm := field_lt iss.toNat 1 4
  rw [UInt32.toNat_and, parts, Nat.and_or_distrib_left, Nat.and_or_distrib_left,
    Nat.and_or_distrib_left, Nat.and_or_distrib_left, and_shifted, and_shifted, and_shifted,
    and_shifted, and_shifted, beside (i := 10) (by omega), beside (i := 14) (by omega),
    beside (i := 17) (by omega), beside (i := 20) (by omega)]

-- From a syndrome to a register and back: only the fields are left.
theorem issKey_ofIss (iss : UInt32) : (ofIss iss).issKey = iss &&& fieldBits := by
  rw [← UInt32.toNat_inj, issKey_toNat, fields_ofIss, and_fieldBits]

-- From a register to its key and back.
theorem ofIss_issKey (id : SysRegId) : ofIss id.issKey = id := by
  obtain ⟨op0, op1, crn, crm, op2⟩ := id.fields_lt
  refine fields_inj ?_
  rw [fields_ofIss, issKey_toNat]
  unfold field
  exact Fields.ext (by dsimp only; omega) (by dsimp only; omega) (by dsimp only; omega)
    (by dsimp only; omega) (by dsimp only; omega)

-- A register is named by the fields alone.
theorem ofIss_congr {iss iss' : UInt32} (same : iss &&& fieldBits = iss' &&& fieldBits) :
    ofIss iss = ofIss iss' := by
  refine issKey_inj ?_
  rw [issKey_ofIss, issKey_ofIss, same]

theorem or_others (key others : UInt32) :
    (key ||| (others &&& ~~~fieldBits)) &&& fieldBits = key &&& fieldBits := by
  refine UInt32.toBitVec_inj.mp (BitVec.eq_of_getLsbD_eq fun i inside => ?_)
  simp only [UInt32.toBitVec_and, UInt32.toBitVec_or, UInt32.toBitVec_not, BitVec.getLsbD_and,
    BitVec.getLsbD_or, BitVec.getLsbD_not]
  cases fieldBits.toBitVec.getLsbD i <;> simp

theorem ofIss_others (id : SysRegId) (others : UInt32) :
    ofIss (id.issKey ||| (others &&& ~~~fieldBits)) = id :=
  (ofIss_congr (or_others id.issKey others)).trans id.ofIss_issKey

theorem packings_inverse :
    (∀ iss : UInt32, (ofIss iss).issKey = iss &&& fieldBits) ∧
    (∀ (id : SysRegId) (others : UInt32),
      ofIss (id.issKey ||| (others &&& ~~~fieldBits)) = id) ∧
    Function.Injective issKey ∧
    (∀ r : SysReg, SysReg.find? r.id = some r) ∧
    ∀ iss : UInt32,
      ((SysReg.find? (ofIss iss)).isSome ↔ ∃ r ∈ SysReg.table, r.id.fields = fieldsAt iss) ∧
      ∀ r, SysReg.find? (ofIss iss) = some r ↔ r ∈ SysReg.table ∧ r.id.fields = fieldsAt iss := by
  have found (iss : UInt32) (r : SysReg) :
      SysReg.find? (ofIss iss) = some r ↔ r ∈ SysReg.table ∧ r.id.fields = fieldsAt iss := by
    rw [SysReg.find?_fields, fields_ofIss]
    exact ⟨fun same => ⟨SysReg.mem_table r, same⟩, And.right⟩
  refine ⟨issKey_ofIss, ofIss_others, fun _ _ same => issKey_inj same, SysReg.find?_id,
    fun iss => ⟨?_, found iss⟩⟩
  rw [Option.isSome_iff_exists]
  exact exists_congr (found iss)

-- A read of the timer control register into x5, and of a register that is not in the table.
example : ofIss 0x32f8a7 = SysReg.cntvCtl.id ∧ (ofIss 0x32f8a7).issKey = 0x32f806 ∧
    SysReg.find? (ofIss 0x32f8a7) = some .cntvCtl ∧ SysReg.find? (ofIss 0x3000bf) = none := by
  decide

end SysRegId

end VmMonitor
