/-!
Work on machine words that may have no answer. A sum that leaves 64 bits, a position outside a
table or a loop that outlives its bound ends the whole computation; it is never a refusal that a
caller could handle, so it is kept apart from the errors of the domain.
-/

namespace VmMonitor

inductive Fault where
  -- A 64-bit sum, difference or product does not fit.
  | overflow
  -- A position lies outside the table or byte string it selects from.
  | outOfRange
  -- A bounded run gave out before the loop it stands for came to its end.
  | unfinished
  deriving DecidableEq, Repr

abbrev Checked (α : Type) := Except Fault α

namespace Checked

def add (a b : UInt64) : Checked UInt64 :=
  if a.toNat + b.toNat < UInt64.size then .ok (a + b) else .error .overflow

def sub (a b : UInt64) : Checked UInt64 :=
  if b ≤ a then .ok (a - b) else .error .overflow

def mul (a b : UInt64) : Checked UInt64 :=
  if a.toNat * b.toNat < UInt64.size then .ok (a * b) else .error .overflow

-- Counts of host memory are natural numbers here; only a difference can leave their range.
def subNat (a b : Nat) : Checked Nat :=
  if b ≤ a then .ok (a - b) else .error .overflow

-- The `count` members from `start` on, all of which have to be there.
def slice (xs : List α) (start count : Nat) : Checked (List α) :=
  if start + count ≤ xs.length then .ok ((xs.drop start).take count) else .error .outOfRange

def get (xs : List α) (i : Nat) : Checked α :=
  match xs[i]? with
  | some x => .ok x
  | none => .error .outOfRange

-- Whatever the errors are.

theorem bind_eq_ok {ε α β : Type} {x : Except ε α} {f : α → Except ε β} {b : β} :
    x >>= f = .ok b ↔ ∃ a, x = .ok a ∧ f a = .ok b := by
  cases x with
  | error e => exact ⟨nofun, nofun⟩
  | ok a => exact ⟨fun done => ⟨a, rfl, done⟩, fun ⟨_, same, done⟩ => by cases same; exact done⟩

theorem mapError_eq_ok {ε ε' α : Type} {x : Except ε α} {f : ε → ε'} {a : α} :
    x.mapError f = .ok a ↔ x = .ok a := by
  cases x with
  | error e => exact ⟨nofun, nofun⟩
  | ok b => exact ⟨fun done => by cases done; rfl, fun done => by cases done; rfl⟩

theorem map_eq_ok {ε α β : Type} {x : Except ε α} {f : α → β} {b : β} :
    x.map f = .ok b ↔ ∃ a, x = .ok a ∧ f a = b := by
  cases x with
  | error e => exact ⟨nofun, nofun⟩
  | ok a => exact ⟨fun done => ⟨a, rfl, Except.ok.inj done⟩, fun ⟨_, same, done⟩ => by
      cases same; exact congrArg Except.ok done⟩

-- A check of the value alone tells that there is one.
theorem ok_of_any {ε α : Type} {x : Except ε α} {p : α → Bool}
    (passed : x.toOption.any p = true) : ∃ a, x = .ok a ∧ p a = true := by
  cases x with
  | error e => cases passed
  | ok a => exact ⟨a, rfl, passed⟩

theorem add_eq_ok {a b c : UInt64} :
    add a b = .ok c ↔ a.toNat + b.toNat < UInt64.size ∧ a + b = c := by
  unfold add; split <;> rename_i h <;> simp only [h, true_and, false_and,
    Except.ok.injEq, reduceCtorEq]

theorem sub_eq_ok {a b c : UInt64} : sub a b = .ok c ↔ b ≤ a ∧ a - b = c := by
  unfold sub; split <;> rename_i h <;> simp only [h, true_and, false_and,
    Except.ok.injEq, reduceCtorEq]

end Checked

end VmMonitor
