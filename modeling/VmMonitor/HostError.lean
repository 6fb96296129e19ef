/-!
Error numbers that host calls leave behind.
-/

namespace VmMonitor

structure HostError where
  code : Int
  deriving DecidableEq, Repr

namespace HostError

def noEntry : HostError := ⟨2⟩
def inputOutput : HostError := ⟨5⟩
def noMemory : HostError := ⟨12⟩
def invalidArgument : HostError := ⟨22⟩

-- A failure without a number of its own, such as a thread that could not be started, counts as an
-- invalid argument.
def ofOs (code : Option Int) : HostError :=
  match code with
  | some c => ⟨c⟩
  | none => invalidArgument

def description (e : HostError) : String :=
  match e.code with
  | 2 => "No such file or directory"
  | 5 => "Input/output error"
  | 12 => "Cannot allocate memory"
  | 22 => "Invalid argument"
  | c => s!"Unknown error {c}"

def osMessage (e : HostError) : String := s!"{e.description} (os error {e.code})"

def message (e : HostError) : String := s!"{e.osMessage} (errno {e.code})"

end HostError

end VmMonitor
