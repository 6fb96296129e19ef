import Mathlib.Data.Nat.Bitwise

/-!
Bits and fields of machine words, as bits and digits of the numbers that the words stand for.
-/

namespace VmMonitor.Bits

theorem and_single (n i : Nat) : (n &&& 2 ^ i != 0) = n.testBit i := by
  rw [Nat.and_two_pow]
  cases n.testBit i <;> simp

-- A number has no bits past its length.
theorem bit_past {n k i : Nat} (fits : n < 2 ^ k) (past : k ≤ i) : n.testBit i = false :=
  Nat.testBit_lt_two_pow (Nat.lt_of_lt_of_le fits (Nat.pow_le_pow_right (by decide) past))

-- A word under a mask of one bit.

theorem flag {x m : UInt64} {i : Nat} (single : m.toNat = 2 ^ i) :
    (x &&& m != 0) = x.toNat.testBit i := by
  rw [← and_single, ← single, ← UInt64.toNat_and]
  simp [bne, BEq.beq, ← UInt64.toNat_inj]

theorem flag32 {x m : UInt32} {i : Nat} (single : m.toNat = 2 ^ i) :
    (x &&& m != 0) = x.toNat.testBit i := by
  rw [← and_single, ← single, ← UInt32.toNat_and]
  simp [bne, BEq.beq, ← UInt32.toNat_inj]

-- The `count` bits of `n` from bit `lo` on.
def field (n lo count : Nat) : Nat := n / 2 ^ lo % 2 ^ count

theorem field_lt (n lo count : Nat) : field n lo count < 2 ^ count :=
  Nat.mod_lt _ (Nat.two_pow_pos count)

-- A field does not depend on the bits above it.
theorem field_low {n lo count k : Nat} (fits : lo + count ≤ k) :
    field (n % 2 ^ k) lo count = field n lo count := by
  obtain ⟨rest, rfl⟩ := Nat.exists_eq_add_of_le fits
  unfold field
  rw [Nat.add_assoc, Nat.pow_add, Nat.mod_mul_right_div_self,
    Nat.mod_mod_of_dvd _ (Nat.pow_dvd_pow 2 (Nat.le_add_right count rest))]

-- A field of a field.
theorem field_field {n lo count lo' count' : Nat} (fits : lo' + count' ≤ count) :
    field (field n lo count) lo' count' = field n (lo + lo') count' := by
  rw [show field n lo count = n / 2 ^ lo % 2 ^ count from rfl, field_low fits]
  unfold field
  rw [Nat.div_div_eq_div_mul, ← Nat.pow_add]

theorem field_eq (n lo count : Nat) : (n >>> lo) &&& (2 ^ count - 1) = field n lo count := by
  rw [Nat.and_two_pow_sub_one_eq_mod, Nat.shiftRight_eq_div_pow]
  rfl

-- A field under its mask stays at its place.
theorem and_shifted (n lo count : Nat) :
    n &&& ((2 ^ count - 1) <<< lo) = field n lo count * 2 ^ lo := by
  rw [← field_eq, ← Nat.shiftLeft_eq]
  apply Nat.eq_of_testBit_eq
  intro i
  by_cases inside : lo ≤ i
  · have back : lo + (i - lo) = i := by omega
    simp [Nat.testBit_and, Nat.testBit_shiftLeft, Nat.testBit_shiftRight, inside, back,
      Bool.and_comm]
  · simp [Nat.testBit_and, Nat.testBit_shiftLeft, inside]

-- A word shifted down, under a mask of its lowest bits.

theorem field64 {x k m : UInt64} {c : Nat} (small : k.toNat < 64)
    (mask : m.toNat = 2 ^ c - 1) :
    ((x >>> k) &&& m).toNat = field x.toNat k.toNat c := by
  rw [UInt64.toNat_and, UInt64.toNat_shiftRight, Nat.mod_eq_of_lt small, mask, field_eq]

theorem field32 {x k m : UInt32} {c : Nat} (small : k.toNat < 32)
    (mask : m.toNat = 2 ^ c - 1) :
    ((x >>> k) &&& m).toNat = field x.toNat k.toNat c := by
  rw [UInt32.toNat_and, UInt32.toNat_shiftRight, Nat.mod_eq_of_lt small, mask, field_eq]

-- A field of at most eight bits, as a byte.

theorem byte32 {x k m : UInt32} {c : Nat} (small : k.toNat < 32) (narrow : c ≤ 8)
    (mask : m.toNat = 2 ^ c - 1) :
    ((x >>> k) &&& m).toUInt8.toNat = field x.toNat k.toNat c := by
  rw [UInt32.toNat_toUInt8, field32 small mask]
  exact Nat.mod_eq_of_lt (Nat.lt_of_lt_of_le (field_lt ..) (Nat.pow_le_pow_right (by decide) narrow))

theorem byte16 {x k m : UInt16} {c : Nat} (small : k.toNat < 16) (narrow : c ≤ 8)
    (mask : m.toNat = 2 ^ c - 1) :
    ((x >>> k) &&& m).toUInt8.toNat = field x.toNat k.toNat c := by
  rw [UInt16.toNat_toUInt8, UInt16.toNat_and, UInt16.toNat_shiftRight, Nat.mod_eq_of_lt small, mask,
    field_eq]
  exact Nat.mod_eq_of_lt (Nat.lt_of_lt_of_le (field_lt ..) (Nat.pow_le_pow_right (by decide) narrow))

-- A word put together from parts has just the bits of the parts.
theorem foldl_or (part : Nat → UInt64) (l : List Nat) (a : UInt64) (j : Nat) :
    (l.foldl (fun acc i => acc ||| part i) a).toNat.testBit j =
      (a.toNat.testBit j || l.any fun i => (part i).toNat.testBit j) := by
  induction l generalizing a with
  | nil => simp
  | cons i rest ih =>
      rw [List.foldl_cons, ih, UInt64.toNat_or, Nat.testBit_or, List.any_cons, Bool.or_assoc]

-- If part `k` alone has a say in bit `j`, the bit is as that part has it.
theorem assembled_bit {part : Nat → UInt64} {p : Nat → Bool} {count j k : Nat}
    (inside : k < count)
    (bits : ∀ i < count, (part i).toNat.testBit j = (p i && decide (i = k))) :
    ((List.range count).foldl (fun acc i => acc ||| part i) 0).toNat.testBit j = p k := by
  rw [foldl_or, UInt64.toNat_zero, Nat.zero_testBit, Bool.false_or, Bool.eq_iff_iff]
  simp only [List.any_eq_true, List.mem_range]
  constructor
  · rintro ⟨i, listed, one⟩
    rw [bits i listed, Bool.and_eq_true, decide_eq_true_eq] at one
    obtain ⟨one, rfl⟩ := one
    exact one
  · intro one
    refine ⟨k, inside, ?_⟩
    rw [bits k inside, one, decide_eq_true rfl, Bool.and_self]

-- By how much a word is shifted.
theorem shift_toNat {i : Nat} (small : i < 64) : (UInt64.ofNat i).toNat % 64 = i := by
  rw [UInt64.toNat_ofNat']
  omega

theorem shifted_bit {x k : UInt64} (small : k.toNat < 64) {j : Nat} (inside : j < 64) :
    (x <<< k).toNat.testBit j = (decide (k.toNat ≤ j) && x.toNat.testBit (j - k.toNat)) := by
  rw [UInt64.toNat_shiftLeft, Nat.mod_eq_of_lt small, Nat.testBit_mod_two_pow,
    Nat.testBit_shiftLeft, decide_eq_true inside, Bool.true_and]

theorem cleared_bit (x m : UInt64) (j : Nat) :
    (x &&& ~~~m).toNat.testBit j = (x.toNat.testBit j && !m.toNat.testBit j) := by
  simp only [← UInt64.toNat_toBitVec, UInt64.toBitVec_and, UInt64.toBitVec_not,
    BitVec.testBit_toNat, BitVec.getLsbD_and, BitVec.getLsbD_not]
  by_cases inside : j < 64
  · simp [inside]
  · simp [BitVec.getLsbD_of_ge _ j (Nat.not_lt.mp inside)]

-- A mask chooses between two words, bit by bit.
theorem merged_bit (x y m : UInt64) (j : Nat) :
    ((x &&& ~~~m) ||| (y &&& m)).toNat.testBit j =
      if m.toNat.testBit j then y.toNat.testBit j else x.toNat.testBit j := by
  rw [UInt64.toNat_or, Nat.testBit_or, cleared_bit, UInt64.toNat_and, Nat.testBit_and]
  cases m.toNat.testBit j <;> simp

-- One byte of a word.
theorem byte_bit (b : UInt8) {i : Nat} (small : i < 8) (j : Nat) :
    (b.toUInt64 <<< UInt64.ofNat (8 * i)).toNat.testBit j =
      (b.toNat.testBit (j % 8) && decide (i = j / 8)) := by
  rw [UInt64.toNat_shiftLeft, shift_toNat (by omega), UInt8.toNat_toUInt64,
    Nat.testBit_mod_two_pow, Nat.testBit_shiftLeft]
  by_cases own : i = j / 8
  · have place : j - 8 * i = j % 8 := by omega
    rw [place, decide_eq_true own]
    simp [show j < 64 by omega, show 8 * i ≤ j by omega]
  · by_cases below : j < 8 * i
    · simp [own, show ¬ 8 * i ≤ j by omega]
    · simp [own, bit_past b.toNat_lt (show 8 ≤ j - 8 * i by omega)]

-- What lies beside each other without touching.
theorem or_add {a b i : Nat} (below : b < 2 ^ i) : a <<< i ||| b = a * 2 ^ i + b := by
  rw [← Nat.shiftLeft_add_eq_or_of_lt below, Nat.shiftLeft_eq]

-- To shift a field to the top and back copies its own top bit upwards.
theorem shifted_back (x : BitVec 64) {n : Nat} (pos : 0 < n) (fits : n ≤ 64) :
    (x <<< (64 - n)).sshiftRight (64 - n) = (x.setWidth n).signExtend 64 := by
  have top : 64 - 1 - (64 - n) = n - 1 := by omega
  apply BitVec.eq_of_getLsbD_eq
  intro i inside
  rw [BitVec.getLsbD_sshiftRight, BitVec.getLsbD_signExtend, BitVec.getLsbD_shiftLeft,
    BitVec.msb_shiftLeft, BitVec.getMsbD, BitVec.msb_setWidth, BitVec.getLsbD_setWidth, top]
  by_cases low : i < n
  · have back : 64 - n + i - (64 - n) = i := by omega
    rw [if_pos (by omega), if_pos low, back]
    simp [low, inside, show ¬ 64 ≤ i by omega, show 64 - n + i < 64 by omega]
  · rw [if_neg (by omega), if_neg low]
    simp [inside, pos, show ¬ 64 ≤ i by omega, show 64 - n < 64 by omega]

theorem toNat_toInt (x : BitVec 64) : (x.toNat : Int) = x.toInt % 2 ^ 64 := by
  have inside := x.isLt
  rw [BitVec.toInt_eq_toNat_cond]
  split <;> omega

end VmMonitor.Bits
