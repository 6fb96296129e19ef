import VmMonitor.Bus.Access
import VmMonitor.SysReg.Id
import VmMonitor.Timer.Virtual

/-!
Why an exit of the guest could not be handled. Each of these stops the machine.
-/

namespace VmMonitor

inductive CpuError where
  | hypercall (reason : String)
  | mmio (cause : BusError)
  | nonWriteableRegister (name : String)
  | timer (cause : TimerError)
  | unimplementedTrap (syndrome : UInt64) (vector : UInt32)
  | unknownRegisterName (name : String)
  | unknownSystemRegister (id : SysRegId)
  deriving DecidableEq, Repr

def CpuError.kind : CpuError → String
  | hypercall _ => "Hypercall"
  | mmio cause => s!"Mmio/{cause.kind}"
  | nonWriteableRegister _ => "NonWriteableRegister"
  | timer cause => cause.kind
  | unimplementedTrap .. => "UnimplementedTrap"
  | unknownRegisterName _ => "UnknownRegisterName"
  | unknownSystemRegister _ => "UnknownSystemRegister"

def CpuError.message : CpuError → String
  | hypercall reason => s!"hypercall handler failed: {reason}"
  | mmio cause => s!"emulated mmio access failed: {cause.message}"
  | nonWriteableRegister name => s!"write to read-only system register {name}"
  | timer cause => cause.message
  | unimplementedTrap syndrome vector =>
      s!"unimplemented trap: esr {Text.hex syndrome}, " ++
        s!"exception vector {Text.hexNat vector.toNat}"
  | unknownRegisterName name => s!"no emulated system register is named {name}"
  | unknownSystemRegister id =>
      s!"unknown system register op0={id.op0} op1={id.op1} " ++
        s!"CRn={id.crn} CRm={id.crm} op2={id.op2}"

end VmMonitor
