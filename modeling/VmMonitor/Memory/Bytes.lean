/-!
Numbers as byte strings, least significant byte first.
-/

namespace VmMonitor.Bytes

def toNat : List UInt8 → Nat
  | [] => 0
  | b :: rest => b.toNat + 256 * toNat rest

-- The `count` low bytes of `n`.
def ofNat (n : Nat) : Nat → List UInt8
  | 0 => []
  | count + 1 => UInt8.ofNat n :: ofNat (n / 256) count

@[simp] theorem length_ofNat (n count : Nat) : (ofNat n count).length = count := by
  induction count generalizing n with
  | zero => rfl
  | succ count ih => simp [ofNat, ih]

theorem toNat_lt (l : List UInt8) : toNat l < Nat.pow 256 l.length := by
  induction l with
  | nil => exact Nat.one_pos
  | cons b rest ih =>
      have digit := b.toNat_lt
      have more : Nat.pow 256 (rest.length + 1) = Nat.pow 256 rest.length * 256 := rfl
      rw [toNat, List.length_cons, more]
      omega

theorem toNat_ofNat (n count : Nat) : toNat (ofNat n count) = n % Nat.pow 256 count := by
  induction count generalizing n with
  | zero => simp [ofNat, toNat, Nat.mod_one]
  | succ count ih =>
      have digit : (UInt8.ofNat n).toNat = n % 256 := by simp
      rw [ofNat, toNat, ih, digit, Nat.pow_eq, Nat.pow_eq, Nat.pow_succ, Nat.mul_comm _ 256,
        Nat.mod_mul]

theorem getElem_ofNat (n count i : Nat) (inside : i < (ofNat n count).length) :
    (ofNat n count)[i] = UInt8.ofNat (n / Nat.pow 256 i) := by
  induction count generalizing n i with
  | zero => cases inside
  | succ count ih =>
      cases i with
      | zero => simp [ofNat]
      | succ i =>
          simp only [ofNat, List.getElem_cons_succ, ih, Nat.pow_eq, Nat.div_div_eq_div_mul,
            Nat.pow_succ']

end VmMonitor.Bytes
