/-!
Host endpoints that take output. Which calls an endpoint refuses is its own affair: the schedule
gives, for the number of calls made before, the reason why a call is refused, if it is.
-/

namespace VmMonitor

inductive HostCall where
  | transfer
  | flush
  deriving DecidableEq, Repr

structure Sink where
  calls : Nat
  refusal : Nat → HostCall → Option String

namespace Sink

def accepting : Sink := ⟨0, fun _ _ => none⟩

-- Takes no output, but has nothing against being flushed.
def refusing (reason : String) : Sink :=
  ⟨0, fun _ call => match call with
    | .transfer => some reason
    | .flush => none⟩

def call (s : Sink) (c : HostCall) : Except String Unit × Sink :=
  (match s.refusal s.calls c with
    | some reason => .error reason
    | none => .ok (),
   { s with calls := s.calls + 1 })

end Sink

end VmMonitor
