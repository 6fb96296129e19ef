/-!
One interrupt line of the controller: its number, what kind of interrupt the number stands for and
the four states it moves through. The transitions are total; a transition that does not apply to a
state leaves it alone. Each says what it asks of the pending list of the line.
-/

namespace VmMonitor.Gic

-- Numbers 0 to 1019 name interrupts. The first 32 belong to the one CPU, and the first 16 of
-- those are raised by software.
def numLines : Nat := 1020
def numPrivate : Nat := 32
def numSoftware : Nat := 16

-- What the presented slot reads while nothing is presented.
def spurious : Nat := 1023

-- The private lines that the monitor itself works with.
def maintenanceLine : Nat := 25
def timerLine : Nat := 27

inductive Kind where
  | software
  | ppi
  | spi
  deriving DecidableEq, Repr

def Kind.of (number : Nat) : Kind :=
  if number < numSoftware then .software
  else if number < numPrivate then .ppi
  else .spi

def Kind.name : Kind → String
  | software => "Sgi"
  | ppi => "Ppi"
  | spi => "Spi"

inductive State where
  | inactive
  | pending
  | active
  | activePending
  deriving DecidableEq, Repr

namespace State

def name : State → String
  | inactive => "Inactive"
  | pending => "Pending"
  | active => "Active"
  | activePending => "ActivePending"

def isPending : State → Bool
  | pending | activePending => true
  | inactive | active => false

def isActive : State → Bool
  | active | activePending => true
  | inactive | pending => false

end State

-- What a transition asks of the pending list of the line.
inductive ListOp where
  | keep
  | insert
  | remove
  deriving DecidableEq, Repr

structure Transition where
  next : State
  list : ListOp
  -- The interrupt is complete, which its listener is to hear.
  completes : Bool
  deriving DecidableEq, Repr

namespace Transition

-- Nothing follows from it.
def plain (next : State) : Transition := ⟨next, .keep, false⟩

def assert : State → Transition
  | .inactive => ⟨.pending, .insert, false⟩
  | .active => ⟨.activePending, .insert, false⟩
  | s => plain s

-- There is nothing to tell about an interrupt that was inactive.
def withdraw : State → Transition
  | .inactive => plain .inactive
  | .pending | .activePending => ⟨.inactive, .remove, true⟩
  | .active => ⟨.inactive, .keep, true⟩

-- Only a plain pending interrupt can be acknowledged.
def acknowledge : State → Transition
  | .pending => ⟨.active, .remove, false⟩
  | s => plain s

def deactivate : State → Transition
  | .active => plain .inactive
  | .activePending => plain .pending
  | s => plain s

def clearPending : State → Transition
  | .pending => ⟨.inactive, .remove, false⟩
  | .activePending => ⟨.active, .remove, false⟩
  | s => plain s

end Transition

inductive Move where
  | assert
  | withdraw
  | acknowledge
  | deactivate
  | clearPending
  deriving DecidableEq, Repr

def Move.transition : Move → State → Transition
  | assert => .assert
  | withdraw => .withdraw
  | acknowledge => .acknowledge
  | deactivate => .deactivate
  | clearPending => .clearPending

inductive Trigger where
  | level
  | edge
  deriving DecidableEq, Repr

def Trigger.name : Trigger → String
  | level => "Level"
  | edge => "Edge"

-- Who hears about completion and level changes of a line. This is a key; whoever drains the
-- notifications looks the listener up.
inductive Handler where
  | device (base : UInt64)
  | timer
  deriving DecidableEq, Repr

structure Line where
  number : Nat
  enabled : Bool
  state : State
  trigger : Trigger
  priority : UInt8
  target : UInt8
  level : Bool
  handler : Option Handler
  deriving DecidableEq, Repr

namespace Line

def kind (l : Line) : Kind := Kind.of l.number

-- Every line starts disabled and inactive, aimed at the one CPU.
def initial (number : Nat) : Line where
  number := number
  enabled := false
  state := .inactive
  trigger := if Kind.of number = .software then .edge else .level
  priority := 0
  target := 1
  level := false
  handler := none

end Line

end VmMonitor.Gic
