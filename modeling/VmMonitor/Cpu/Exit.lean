import VmMonitor.Bus.Basic
import VmMonitor.Cpu.Error
import VmMonitor.Cpu.Psci

/-!
Exits of the guest: what the saved state says happened, and what is done about it.
-/

namespace VmMonitor

inductive TrapOutcome where
  | resume
  -- The guest waits for an interrupt.
  | idle
  -- The guest asked for the machine to stop.
  | shutdown (event : PowerEvent)
  deriving DecidableEq, Repr

-- Hypercalls outside the power interface. The function is in x0, and answers go into the general
-- purpose registers.
class HypercallHandler (η : Type) where
  handle : η → VcpuState → Except CpuError Unit × VcpuState × η × List Log.Record

-- Answers every hypercall as not supported.
structure NoHypercalls where
  deriving DecidableEq, Repr

instance : HypercallHandler NoHypercalls where
  handle h s :=
    (.ok (), s.setReg 0 Psci.notSupported.toUInt64, h,
      [Log.warning s!"unknown hypercall {Text.hex (s.reg 0)}"])

-- The parts of the machine that an exit may touch.
structure Platform (δ τ η : Type) where
  board : Board
  bus : Bus δ
  timer : VirtualTimer τ
  hypercalls : η

structure Exited (δ τ η α : Type) where
  answer : Except CpuError α
  state : VcpuState
  platform : Platform δ τ η

namespace Platform

variable {δ τ η : Type}

def unimplemented (s : VcpuState) : CpuError := .unimplementedTrap s.esr s.vector

def sysRegAccess (s : VcpuState) (a : SysRegAccess) : Except CpuError VcpuState :=
  match SysReg.find? a.register with
  | none => .error (.unknownSystemRegister a.register)
  | some r =>
      if a.isRead then .ok (s.setReg a.transfer (r.read s)).advancePc
      else if r.writeable then .ok (r.write s (s.reg a.transfer)).advancePc
      else .error (.nonWriteableRegister r.name)

-- Copies the sign bit of a value of this width upwards.
def signExtend (width : Width) (value : UInt64) : UInt64 :=
  let shift := UInt64.ofNat (64 - 8 * width.bytes)
  ((value <<< shift).toInt64 >>> shift.toInt64).toUInt64

-- What a load puts into its register.
def loaded (a : DataAbort) (width : Width) (value : UInt64) : UInt64 :=
  let value := if a.signExtend then signExtend width value else value
  if a.sixtyFour then value else value &&& 0xffffffff

def dataAbort [BusDevice δ] (p : Platform δ τ η) (s : VcpuState) :
    Checked (Exited δ τ η TrapOutcome) := do
  let a := DataAbort.ofIss s.syndrome.iss
  if !a.valid then return ⟨.error (unimplemented s), s, p⟩
  match Width.ofBytes? a.size with
  | none => return ⟨.error (unimplemented s), s, p⟩
  | some width =>
      if a.isWrite then
        let r ← p.bus.write p.board s.faultAddress width (s.reg a.transfer &&& width.mask)
        let p := { p with bus := r.device, board := r.board }
        match r.answer with
        | .error e => return ⟨.error (.mmio e), s, p⟩
        | .ok () => return ⟨.ok .resume, s.advancePc, p⟩
      else
        let r ← p.bus.read p.board s.faultAddress width
        let p := { p with bus := r.device, board := r.board }
        match r.answer with
        | .error e => return ⟨.error (.mmio e), s, p⟩
        | .ok value =>
            return ⟨.ok .resume, (s.setReg a.transfer (loaded a width value)).advancePc, p⟩

-- The saved pc of a hypercall is past the instruction already.
def hypercall [HypercallHandler η] (p : Platform δ τ η) (s : VcpuState) :
    Exited δ τ η TrapOutcome :=
  let id := (s.reg 0).toUInt32
  if Psci.inRange id then
    let p := { p with board := p.board.logAll (Psci.complaints id) }
    match Psci.call id (s.reg 1) (s.reg 2) with
    | .value v => ⟨.ok .resume, s.setReg 0 v.toUInt64, p⟩
    | .power event => ⟨.ok (.shutdown event), s, p⟩
  else
    let (answer, s, handler, records) := HypercallHandler.handle p.hypercalls s
    ⟨answer.map fun _ => .resume, s,
      { p with hypercalls := handler, board := p.board.logAll records }⟩

-- Waiting skips the instruction before the host timer is armed, so a host that refuses leaves
-- the guest past it.
def waitFor [HostTimer τ] (p : Platform δ τ η) (s : VcpuState) :
    Checked (Exited δ τ η TrapOutcome) := do
  -- Waiting for an event is not offered.
  if s.syndrome.iss &&& 1 != 0 then return ⟨.error (unimplemented s), s, p⟩
  let s := s.advancePc
  let (answer, timer, gic) ← p.timer.schedule s.timer p.board.gic
  let p := { p with timer := timer, board := { p.board with gic := gic } }
  match answer with
  | .error cause => return ⟨.error (.timer cause), s, p⟩
  | .ok () => return ⟨.ok .idle, s, p⟩

-- Physical interrupts other than the monitor's own are none of the guest's business.
def physicalIrq (p : Platform δ τ η) (s : VcpuState) : VcpuState × Platform δ τ η :=
  if s.irqs.lastIrq.toNat = Gic.maintenanceLine then
    (s, { p with board := { p.board with gic := p.board.gic.completePresented } })
  else if s.irqs.lastIrq.toNat = Gic.timerLine then
    let (regs, gic) := VirtualTimer.handleIrq s.timer p.board.gic
    ({ s with timer := regs }, { p with board := { p.board with gic := gic } })
  else (s, p)

variable [BusDevice δ] [HostTimer τ] [HypercallHandler η]

def synchronous (p : Platform δ τ η) (s : VcpuState) : Checked (Exited δ τ η TrapOutcome) :=
  match s.syndrome.class? with
  | some .systemRegister =>
      match sysRegAccess s (.ofIss s.syndrome.iss) with
      | .ok s => .ok ⟨.ok .resume, s, p⟩
      | .error e => .ok ⟨.error e, s, p⟩
  | some .hypercall => .ok (p.hypercall s)
  | some .dataAbort => p.dataAbort s
  | some .waitFor => p.waitFor s
  | none => .ok ⟨.error (unimplemented s), s, p⟩

def handleExit (p : Platform δ τ η) (s : VcpuState) : Checked (Exited δ τ η TrapOutcome) :=
  match s.exception? with
  | some .synchronous => p.synchronous s
  | some .irq | some .fiq =>
      let (s, p) := p.physicalIrq s
      .ok ⟨.ok .resume, s, p⟩
  | some .notRun => .ok ⟨.ok .resume, s, p⟩
  | some .serror | none => .ok ⟨.error (unimplemented s), s, p⟩

end Platform

end VmMonitor
