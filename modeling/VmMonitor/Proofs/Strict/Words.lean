import Mathlib.Data.Nat.Bitwise
import VmMonitor.Checked

/-!
Operations on machine words that end the machine where their result does not fit. The devices are
written down without most of these checks. Here and in the modules beside this one they are written
down again with all of them, and every such strict definition is proved to come to the plain one.
-/

namespace VmMonitor.Checked

-- Sums and products of numbers that a word of `2 ^ bits` values holds.

def sum (bits a b : Nat) : Checked Nat :=
  if a + b < 2 ^ bits then .ok (a + b) else .error .overflow

def product (bits a b : Nat) : Checked Nat :=
  if a * b < 2 ^ bits then .ok (a * b) else .error .overflow

-- A word can be shifted by less than its width.

def shiftLeft (a : UInt64) (n : Nat) : Checked UInt64 :=
  if n < 64 then .ok (a <<< UInt64.ofNat n) else .error .overflow

def shiftRight (a : UInt64) (n : Nat) : Checked UInt64 :=
  if n < 64 then .ok (a >>> UInt64.ofNat n) else .error .overflow

-- Puts a member in at a position inside the list or right behind it, and takes one out.

def insertAt (xs : List α) (i : Nat) (x : α) : Checked (List α) :=
  if i ≤ xs.length then .ok (xs.insertIdx i x) else .error .outOfRange

def removeAt (xs : List α) (i : Nat) : Checked (List α) :=
  if i < xs.length then .ok (xs.eraseIdx i) else .error .outOfRange

-- What the code asserts of itself. A state outside of it ends the machine.
def ensure (p : Prop) [Decidable p] : Checked Unit := if p then .ok () else .error .outOfRange

-- Tells of what finds no room, if there is any.
def tellExcess {β : Type} (room count : Nat) (tell : Nat → β) (still : β) : Checked β :=
  if room < count then do return tell (← subNat count room) else .ok still

variable {bits a b n : Nat} {x y : UInt64} {p : Prop} [Decidable p] {α β : Type}

theorem sum_ok (room : a + b < 2 ^ bits) : sum bits a b = .ok (a + b) := if_pos room

theorem product_ok (room : a * b < 2 ^ bits) : product bits a b = .ok (a * b) := if_pos room

theorem shiftLeft_ok (narrow : n < 64) : shiftLeft x n = .ok (x <<< UInt64.ofNat n) :=
  if_pos narrow

theorem shiftRight_ok (narrow : n < 64) : shiftRight x n = .ok (x >>> UInt64.ofNat n) :=
  if_pos narrow

theorem ensure_ok (holds : p) : ensure p = .ok () := if_pos holds

theorem add_ok (room : x.toNat + y.toNat < UInt64.size) : add x y = .ok (x + y) := if_pos room

theorem sub_ok (le : y ≤ x) : sub x y = .ok (x - y) := if_pos le

theorem mul_ok (room : x.toNat * y.toNat < UInt64.size) : mul x y = .ok (x * y) := if_pos room

theorem subNat_ok (le : b ≤ a) : subNat a b = .ok (a - b) := if_pos le

theorem slice_ok {xs : List α} (inside : a + n ≤ xs.length) :
    slice xs a n = .ok ((xs.drop a).take n) := if_pos inside

theorem insertAt_ok {xs : List α} {x : α} (inside : n ≤ xs.length) :
    insertAt xs n x = .ok (xs.insertIdx n x) := if_pos inside

theorem removeAt_ok {xs : List α} (inside : n < xs.length) :
    removeAt xs n = .ok (xs.eraseIdx n) := if_pos inside

theorem tellExcess_ok (room count : Nat) (tell : Nat → β) (still : β) :
    tellExcess room count tell still =
      .ok (if room < count then tell (count - room) else still) := by
  unfold tellExcess
  split
  · rename_i exceeds
    rw [subNat_ok (Nat.le_of_lt exceeds)]
    rfl
  · rfl

@[simp] theorem ok_bind (a : α) (f : α → Checked β) : (Except.ok a : Checked α) >>= f = f a := rfl

theorem bind_ok {x : Checked α} {f : α → Checked β} {a : α} (done : x = .ok a) :
    x >>= f = f a := by rw [done]; rfl

-- A loop of which every step has a result.
theorem foldlM_ok {f : β → α → Checked β} {g : β → α → β} {l : List α}
    (step : ∀ b, ∀ a ∈ l, f b a = .ok (g b a)) (b : β) : l.foldlM f b = .ok (l.foldl g b) := by
  induction l generalizing b with
  | nil => rfl
  | cons a rest ih =>
      rw [List.foldlM_cons, bind_ok (step b a List.mem_cons_self), List.foldl_cons]
      exact ih (fun b c later => step b c (List.mem_cons_of_mem _ later)) _

end VmMonitor.Checked
