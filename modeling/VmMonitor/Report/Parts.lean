import VmMonitor.Bench.Devices
import VmMonitor.Machine.Basic
import VmMonitor.Register.Space
import VmMonitor.Report.Basic

/-!
Reports of the parts of a machine.
-/

namespace VmMonitor.Report

instance : Report SysRegId where
  report r := .object [("op0", r.op0), ("op1", r.op1), ("crn", r.crn), ("crm", r.crm),
    ("op2", r.op2), ("encoded", r.encoded), ("iss_key", r.issKey), ("display", r.display),
    ("debug", r.displayFields)]

-- Everything a syndrome could say, whatever its class.
instance : Report Syndrome where
  report s :=
    let a := SysRegAccess.ofIss s.iss
    let d := DataAbort.ofIss s.iss
    .object [("ec", s.code), ("iss", s.iss), ("class", s.class?.map (·.name)),
      ("reg", a.register.display), ("rt", a.transfer), ("is_read", a.isRead), ("isv", d.valid),
      ("size", d.size), ("sign_extend", d.signExtend), ("srt", d.transfer),
      ("sixty_four", d.sixtyFour), ("is_write", d.isWrite)]

instance : Report TimerRegisters := ⟨fun r => [r.control, r.compare, r.count]⟩

instance : Report SysRegisters := ⟨fun s => [s.csselr, s.actlr, s.mdscr, s.oslsr, s.osdlr]⟩

-- The general purpose registers that are not zero, by number.
def setRegisters (s : VcpuState) : Json.Value :=
  .object (((List.range 31).filter fun n => s.reg n ≠ 0).map fun n => (toString n, s.reg n))

instance : Report Psci.Answer where
  report
    | .value v => .object [("return", v.toInt)]
    | .power event => .object [("power", event.name)]

instance : Report PsciVersion where
  report v := .object [("major", v.major), ("minor", v.minor), ("encoded", v.encoded),
    ("newer_than_0_2", v.newerThan .v0_2)]

instance : Report TrapOutcome where
  report
    | .resume => "Resume"
    | .idle => "Idle"
    | .shutdown event => .object [("shutdown", event.name)]

instance : Report ExitReason := ⟨fun r => r.name⟩

instance : Report Width where
  report w := .object [("bytes", w.bytes), ("mask", w.mask), ("display", w.display),
    ("debug", w.name)]

instance : Report Window := ⟨fun w => [w.base, w.len]⟩

instance : Report RegisterRange := ⟨fun r => [r.first, r.final]⟩

-- A register with the offsets it covers.
def registerReport (r : Register) (range : RegisterRange) : Json.Value :=
  .object [("name", r.spec.name), ("access", r.spec.access.name),
    ("readable", r.spec.access.readable), ("writeable", r.spec.access.writeable),
    ("from", range.first), ("to", range.final), ("value", r.value)]

instance : Report Gic.Entry := ⟨fun e => .array [e.priority, e.number]⟩

instance : Report Gic.Handler where
  report
    | .device base => .object [("mmio", base)]
    | .timer => "timer"

instance : Report Gic.Notification := ⟨fun n => .array [n.line, n.handler, n.kind.name]⟩

instance : Report Gic.Line where
  report l := .object [("number", l.number), ("kind", l.kind.name), ("enabled", l.enabled),
    ("state", l.state.name), ("config", l.trigger.name), ("priority", l.priority),
    ("target", l.target), ("level", l.level), ("handler", l.handler),
    ("pending", l.state.isPending), ("active", l.state.isActive)]

instance : Report Descriptor := ⟨fun d => .array [d.address, d.len, d.access.name]⟩

instance : Report DescriptorChain where
  report c := .object [("index", c.head), ("descriptors", c.descriptors),
    ("readable", c.readableLen), ("writable", c.writableLen)]

instance : Report QueueConfig where
  report c := .object [("ready", c.ready), ("max", c.maxSize), ("size", c.size),
    ("desc", c.descTable), ("avail", c.availRing), ("used", c.usedRing)]

-- What a transport shows its driver of a device.
def deviceReport {ν : Type} [VirtioDevice ν] (d : ν) : Json.Value :=
  .object [("label", VirtioDevice.label d), ("type", (VirtioDevice.deviceType d).id),
    ("sizes", VirtioDevice.queueMaxSizes d), ("features", VirtioDevice.features d)]

instance : Report Bench.Note where
  report
    | .write a value => .array ["write", a.offset, a.address, a.width.bytes, value]
    | .completed n => .array ["eoi", n]
    | .level n level => .array ["level", n, level]
    | .reset => .array ["reset"]
    | .acked features => .array ["ack", features]
    | .config offset data => .array ["config", offset.toNat, data]
    | .notified i => .array ["notify", i]
    | .hypercall function argument => .array ["hypercall", function, argument]

-- The sizes and numbers that a machine of any layout has in common.
def constants : Json.Value :=
  let console := Console.new .accepting
  let net := Net.new .accepting (List.replicate 6 0)
  .object [("num_irqs", Gic.numLines), ("num_private", Gic.numPrivate),
    ("num_sgis", Gic.numSoftware), ("spurious", Gic.spurious),
    ("maintenance", Gic.maintenanceLine), ("vtimer", Gic.timerLine),
    ("gicd_size", Distributor.windowSize.toNat), ("pl011_size", Uart.windowSize.toNat),
    ("virtio_size", Transport.windowSize.toNat), ("base_features", Virtio.baseFeatures),
    ("console", VirtioDevice.label console), ("net", VirtioDevice.label net),
    ("console_sizes", VirtioDevice.queueMaxSizes console),
    ("net_sizes", VirtioDevice.queueMaxSizes net), ("net_max_buffer", Net.maxFrame),
    ("pagesize", Host.pageSize), ("psci", PsciVersion.v0_2.encoded)]

end VmMonitor.Report
