import VmMonitor.Json.Value
import VmMonitor.Machine.Config

/-!
Machine layouts as JSON, with every member written out.
-/

namespace VmMonitor

open Json (Value)

def wordValue (w : UInt64) : Value := .number w.toNat

def UartConfig.toJson (c : UartConfig) : Value :=
  .object [("base", wordValue c.base), ("irq", .number c.irq.toNat)]

def ConsoleConfig.toJson (c : ConsoleConfig) : Value :=
  .object [("base", wordValue c.base), ("irq", .number c.irq.toNat),
    ("queue_size", .number c.queueSize.toNat)]

def MacAddress.toJson (a : MacAddress) : Value := .text (String.ofList a.render)

def NetConfig.toJson (c : NetConfig) : Value :=
  .object [("base", wordValue c.base), ("irq", .number c.irq.toNat),
    ("queue_size", .number c.queueSize.toNat), ("mac", c.mac.toJson)]

def MachineConfig.toJson (c : MachineConfig) : Value :=
  .object [("mem_base", wordValue c.memoryBase), ("mem_size", wordValue c.memorySize),
    ("gic", .object [("distributor_base", wordValue c.distributorBase)]),
    ("timer", .object [("frequency_hz", wordValue c.timerFrequency)]),
    ("uart", c.uart.toJson), ("console", c.console.elim .null ConsoleConfig.toJson),
    ("net", c.net.elim .null NetConfig.toJson),
    ("cpu_id_overrides", .object (c.overrides.toList.map fun (name, v) => (name, wordValue v))),
    ("log", .text c.log)]

end VmMonitor
