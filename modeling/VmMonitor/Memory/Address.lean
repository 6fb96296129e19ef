import VmMonitor.Checked
import VmMonitor.Text.Hex

/-!
Guest physical addresses. An address is a plain word; the names below say which of its sums may
wrap and which may not.
-/

namespace VmMonitor

abbrev GuestAddress := UInt64

namespace GuestAddress

def offsetFrom (a base : GuestAddress) : Checked UInt64 := Checked.sub a base

def checkedAdd (a : GuestAddress) (n : UInt64) : Option GuestAddress :=
  if a.toNat + n.toNat < UInt64.size then some (a + n) else none

def checkedSub (a : GuestAddress) (n : UInt64) : Option GuestAddress :=
  if n ≤ a then some (a - n) else none

def wrappingAdd (a : GuestAddress) (n : UInt64) : GuestAddress := a + n

def mask (a : GuestAddress) (m : UInt64) : GuestAddress := a &&& m

def display (a : GuestAddress) : String := Text.hex a

theorem checkedAdd_eq_some {a b : GuestAddress} {n : UInt64} :
    checkedAdd a n = some b ↔ a.toNat + n.toNat < UInt64.size ∧ a + n = b := by
  unfold checkedAdd; split <;> rename_i h <;> simp only [h, true_and, false_and,
    Option.some.injEq, reduceCtorEq]

end GuestAddress

end VmMonitor
