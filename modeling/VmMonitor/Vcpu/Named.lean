import VmMonitor.Vcpu.State

/-!
Parts of the vCPU state by name, for tools that set a guest up or look into it.
-/

namespace VmMonitor.VcpuState

-- How to store a word in each part. Narrow parts keep its low bits.
def parts : List (String × (VcpuState → UInt64 → VcpuState)) :=
  [("sp", fun s v => { s with sp := v }),
    ("pc", fun s v => { s with pc := v }),
    ("pstate", fun s v => { s with pstate := v }),
    ("vector", fun s v => { s with vector := v.toUInt32 }),
    ("esr", fun s v => { s with esr := v }),
    ("far", fun s v => { s with far := v }),
    ("hpfar", fun s v => { s with hpfar := v }),
    ("control", fun s v => { s with timer := { s.timer with control := v } }),
    ("compare", fun s v => { s with timer := { s.timer with compare := v } }),
    ("count", fun s v => { s with timer := { s.timer with count := v } }),
    ("frequency", fun s v => { s with timer := { s.timer with frequency := v } }),
    ("csselr", fun s v => { s with sys := { s.sys with csselr := v } }),
    ("actlr", fun s v => { s with sys := { s.sys with actlr := v } }),
    ("mdscr", fun s v => { s with sys := { s.sys with mdscr := v } }),
    ("oslsr", fun s v => { s with sys := { s.sys with oslsr := v } }),
    ("osdlr", fun s v => { s with sys := { s.sys with osdlr := v } }),
    ("midr", fun s v => { s with ids := s.ids.set .midr v }),
    ("last_irq", fun s v => { s with irqs := { s.irqs with lastIrq := v.toUInt32 } }),
    ("virtual_irq", fun s v => { s with irqs := { s.irqs with virtualIrq := v.toUInt32 } })]

-- Stores the given words; parts without one keep what they hold.
def overwrite (s : VcpuState) (value? : String → Option UInt64) : VcpuState :=
  parts.foldl (fun s (name, store) => (value? name).elim s (store s)) s

end VmMonitor.VcpuState
