import VmMonitor.Log.Logger
import VmMonitor.Machine.Basic
import VmMonitor.Register.Basic
import VmMonitor.Report.Basic

/-!
Reports of errors: the kind, by which a tool tells errors apart, and the message for people.
-/

namespace VmMonitor.Report

instance : Report MemoryError := ⟨fun e => failure e.kind e.message⟩
instance : Report MappingError := ⟨fun e => failure e.kind e.message⟩
instance : Report BusError := ⟨fun e => failure e.kind e.message⟩
instance : Report RegisterError := ⟨fun e => failure e.kind e.message⟩
instance : Report TimerError := ⟨fun e => failure e.kind e.message⟩
instance : Report CpuError := ⟨fun e => failure e.kind e.message⟩
instance : Report MachineError := ⟨fun e => failure e.kind e.message⟩
instance : Report Log.SetupError := ⟨fun e => failure e.kind e.message⟩
instance : Report SysRegFieldError := ⟨fun e => failure "SysRegField" e.message⟩

instance : Report HostError where
  report e := .object [("error", "Errno"), ("errno", e.code), ("message", e.message)]

end VmMonitor.Report
