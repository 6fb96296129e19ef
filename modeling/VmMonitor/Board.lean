import VmMonitor.Gic.Controller
import VmMonitor.Memory.Guest

/-!
What devices reach beside their own state. A medium is guest memory together with the record of
everything that left for the host; a board adds the interrupt controller. The record only grows,
and nothing in the machine reads it back.
-/

namespace VmMonitor

inductive Effect where
  -- A warning or an error.
  | logged (record : Log.Record)
  -- Output of the serial line.
  | serial (bytes : List UInt8)
  -- Output offered to the paravirtual terminal, and whether the terminal took it.
  | terminal (bytes : List UInt8) (taken : Bool)
  -- One frame offered to the network, and whether the network took it.
  | frame (bytes : List UInt8) (taken : Bool)
  deriving DecidableEq, Repr

namespace Effect

def record? : Effect → Option Log.Record
  | logged r => some r
  | serial _ | terminal .. | frame .. => none

def serialBytes : Effect → List UInt8
  | serial data => data
  | logged _ | terminal .. | frame .. => []

-- Only what the terminal took.
def terminalBytes : Effect → List UInt8
  | terminal data taken => if taken then data else []
  | logged _ | serial _ | frame .. => []

-- Only a frame that the network took.
def sentFrame? : Effect → Option (List UInt8)
  | frame data taken => if taken then some data else none
  | logged _ | serial _ | terminal .. => none

end Effect

-- The effects are in the order in which they came. Of the log they have the warnings and the errors.
-- What is logged below these levels, such as each access, each interrupt presented or a request to
-- power off, is not among them, here and on a board.
structure Medium where
  memory : GuestMemory
  effects : Array Effect

namespace Medium

def emit (m : Medium) (e : Effect) : Medium := { m with effects := m.effects.push e }

def log (m : Medium) (r : Log.Record) : Medium := m.emit (.logged r)

def warn (m : Medium) (text : String) : Medium := m.log (Log.warning text)

def logError (m : Medium) (text : String) : Medium := m.log (Log.failure text)

-- What left so far, by where it went.

def records (m : Medium) : List Log.Record := m.effects.toList.filterMap Effect.record?

def serialOutput (m : Medium) : List UInt8 := m.effects.toList.flatMap Effect.serialBytes

def terminalOutput (m : Medium) : List UInt8 := m.effects.toList.flatMap Effect.terminalBytes

def sentFrames (m : Medium) : List (List UInt8) := m.effects.toList.filterMap Effect.sentFrame?

-- Starts a new account of what leaves.
def forgetEffects (m : Medium) : Medium := { m with effects := #[] }

end Medium

structure Board extends Medium where
  gic : Gic

namespace Board

def emit (b : Board) (e : Effect) : Board := { b with toMedium := b.toMedium.emit e }

def log (b : Board) (r : Log.Record) : Board := b.emit (.logged r)

def warn (b : Board) (text : String) : Board := b.log (Log.warning text)

def logError (b : Board) (text : String) : Board := b.log (Log.failure text)

def logAll (b : Board) (rs : List Log.Record) : Board := rs.foldl log b

-- A request to the controller, with whatever it has to complain about.
def request (b : Board) (r : Gic.Request) : Board :=
  ({ b with gic := b.gic.apply r }).logAll r.complaints

@[simp] theorem gic_logAll (b : Board) (rs : List Log.Record) : (b.logAll rs).gic = b.gic := by
  induction rs generalizing b with
  | nil => rfl
  | cons r rs ih => exact ih _

@[simp] theorem gic_request (b : Board) (r : Gic.Request) :
    (b.request r).gic = b.gic.apply r := by simp [request]

@[simp] theorem gic_requests (b : Board) (rs : List Gic.Request) :
    (rs.foldl request b).gic = rs.foldl Gic.apply b.gic := by
  induction rs generalizing b with
  | nil => rfl
  | cons r rs ih =>
      rw [List.foldl_cons, List.foldl_cons, ih, gic_request]

end Board

end VmMonitor
