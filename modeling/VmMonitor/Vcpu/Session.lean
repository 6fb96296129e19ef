import VmMonitor.HostError
import VmMonitor.Vcpu.State

/-!
The vCPU as the monitor drives it: it is resumed and paused, and while it stands still its state
can be read and replaced.
-/

namespace VmMonitor

class VcpuSession (ν : Type) where
  state : ν → VcpuState
  setState : ν → VcpuState → ν
  isRunning : ν → Bool
  run : ν → Except HostError Unit × ν
  pause : ν → Except HostError Unit × ν

-- A vCPU that never enters a guest. It counts the calls that changed something.
structure StillVcpu where
  state : VcpuState
  running : Bool
  runs : Nat
  pauses : Nat

namespace StillVcpu

def new (state : VcpuState) : StillVcpu := ⟨state, false, 0, 0⟩

-- The guest stopped by itself.
def exit (v : StillVcpu) : StillVcpu := { v with running := false }

def run (v : StillVcpu) : StillVcpu :=
  if v.running then v else { v with running := true, runs := v.runs + 1 }

def pause (v : StillVcpu) : StillVcpu :=
  if v.running then { v with running := false, pauses := v.pauses + 1 } else v

instance : VcpuSession StillVcpu where
  state := StillVcpu.state
  setState v s := { v with state := s }
  isRunning := StillVcpu.running
  run v := (.ok (), v.run)
  pause v := (.ok (), v.pause)

end StillVcpu

inductive VcpuCall where
  | run
  | pause
  deriving DecidableEq, Repr

-- A vCPU of which the host refuses some calls. A refused call does not reach the vCPU.
structure RefusingVcpu (ν : Type) where
  inner : ν
  refusal : VcpuCall → Option HostError

namespace RefusingVcpu

instance [VcpuSession ν] : VcpuSession (RefusingVcpu ν) where
  state v := VcpuSession.state v.inner
  setState v s := { v with inner := VcpuSession.setState v.inner s }
  isRunning v := VcpuSession.isRunning v.inner
  run v :=
    match v.refusal .run with
    | some e => (.error e, v)
    | none =>
        let (answer, inner) := VcpuSession.run v.inner
        (answer, { v with inner := inner })
  pause v :=
    match v.refusal .pause with
    | some e => (.error e, v)
    | none =>
        let (answer, inner) := VcpuSession.pause v.inner
        (answer, { v with inner := inner })

end RefusingVcpu

end VmMonitor
