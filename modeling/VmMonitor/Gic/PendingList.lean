/-!
Interrupts that wait to be presented, by priority and, among equals, by arrival.
-/

namespace VmMonitor.Gic

structure Entry where
  priority : UInt8
  number : Nat
  deriving DecidableEq, Repr

structure PendingList where
  entries : List Entry
  deriving DecidableEq, Repr

namespace PendingList

def empty : PendingList := ⟨[]⟩

-- The new entry goes ahead of the first one with a larger priority value.
def insert (l : PendingList) (priority : UInt8) (number : Nat) : PendingList :=
  ⟨l.entries.takeWhile (fun e => e.priority ≤ priority) ++
    ⟨priority, number⟩ :: l.entries.dropWhile (fun e => e.priority ≤ priority)⟩

def contains (l : PendingList) (number : Nat) : Bool :=
  l.entries.any fun e => e.number = number

-- Takes out the first entry of that number and says whether there was one.
def take (l : PendingList) (number : Nat) : Bool × PendingList :=
  match l.entries.findIdx? fun e => e.number = number with
  | some position => (true, ⟨l.entries.eraseIdx position⟩)
  | none => (false, l)

-- What is left, where nobody asks whether there was one.
def remove (l : PendingList) (number : Nat) : PendingList := (l.take number).2

def size (l : PendingList) : Nat := l.entries.length

def isEmpty (l : PendingList) : Bool := l.entries.isEmpty

def numbers (l : PendingList) : List Nat := l.entries.map (·.number)

end PendingList

end VmMonitor.Gic
