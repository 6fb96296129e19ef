import VmMonitor.Memory.Address
import VmMonitor.Vcpu.Syndrome

/-!
The snapshot of the guest's registers that every exit leaves behind.
-/

namespace VmMonitor

-- Identification registers. The guest can read them and nothing more.
inductive IdRegister where
  | midr
  | mpidr
  | idPfr0
  | idPfr1
  | idDfr0
  | idAfr0
  | idMmfr0
  | idMmfr1
  | idMmfr2
  | idMmfr3
  | idIsar0
  | idIsar1
  | idIsar2
  | idIsar3
  | idIsar4
  | idIsar5
  | mvfr0
  | mvfr1
  | mvfr2
  | idAa64pfr0
  | idAa64pfr1
  | idAa64dfr0
  | idAa64dfr1
  | idAa64afr0
  | idAa64afr1
  | idAa64isar0
  | idAa64isar1
  | idAa64isar2
  | idAa64mmfr0
  | idAa64mmfr1
  | idAa64mmfr2
  | clidr
  | ctr
  deriving DecidableEq, Repr

structure IdRegisters where
  value : IdRegister → UInt64
  -- Cache sizes, by the selector register.
  ccsidr : Vector UInt64 16

def IdRegisters.set (ids : IdRegisters) (r : IdRegister) (value : UInt64) : IdRegisters :=
  { ids with value := fun other => if other = r then value else ids.value other }

-- Emulated registers that the guest may write.
structure SysRegisters where
  csselr : UInt64
  actlr : UInt64
  mdscr : UInt64
  oslsr : UInt64
  osdlr : UInt64
  deriving DecidableEq, Repr

-- The virtual timer: its control and compare registers, the virtual count, and the frequency in
-- hertz.
structure TimerRegisters where
  control : UInt64
  compare : UInt64
  count : UInt64
  frequency : UInt64
  deriving DecidableEq, Repr

structure IrqState where
  -- The physical interrupt that ended the last run.
  lastIrq : UInt32
  -- The interrupt presented to the guest.
  virtualIrq : UInt32
  deriving DecidableEq, Repr

structure VcpuState where
  regs : Vector UInt64 31
  sp : UInt64
  pc : UInt64
  pstate : UInt64
  vector : UInt32
  esr : UInt64
  far : UInt64
  hpfar : UInt64
  ids : IdRegisters
  sys : SysRegisters
  timer : TimerRegisters
  irqs : IrqState

namespace VcpuState

def noIrq : UInt32 := 1023

-- A guest that has not run.
def initial : VcpuState where
  regs := Vector.replicate 31 0
  sp := 0
  pc := 0
  pstate := 0
  vector := 0xffff
  esr := 0
  far := 0
  hpfar := 0
  ids := ⟨fun _ => 0, Vector.replicate 16 0⟩
  sys := ⟨0, 0, 0, 0, 0⟩
  timer := ⟨0, 0, 0, 0⟩
  irqs := ⟨noIrq, noIrq⟩

-- Register 31 reads as zero.
def reg (s : VcpuState) (n : Nat) : UInt64 := (s.regs[n]?).getD 0

-- Writes to register 31 are discarded.
def setReg (s : VcpuState) (n : Nat) (value : UInt64) : VcpuState :=
  { s with regs := s.regs.setIfInBounds n value }

def syndrome (s : VcpuState) : Syndrome := ⟨s.esr⟩

def exception? (s : VcpuState) : Option ExceptionKind := ExceptionKind.ofVector? s.vector

-- The guest physical address of the last fault: the page from one register, the place in the
-- page from another.
def faultAddress (s : VcpuState) : GuestAddress :=
  ((s.hpfar &&& 0xfffffffffff0) <<< 8) ||| (s.far &&& 0xfff)

-- Skips the trapped instruction.
def advancePc (s : VcpuState) : VcpuState := { s with pc := s.pc + 4 }

def registerName (n : Nat) : String := if n < 10 then s!"x{n} " else s!"x{n}"

def registerText (s : VcpuState) (n : Nat) : String :=
  s!"  {registerName n} = {Text.hexFull (s.reg n)}"

-- All registers, two to a line, with no newline at the end.
def dump (s : VcpuState) : String :=
  let vector := (s.exception?.map (·.name)).getD "unknown"
  let first :=
    s!"vcpu state (exception vector {Text.hexNat s.vector.toNat}, {vector}):\n"
  let pairs := (List.range 15).map fun i =>
    s!"{s.registerText (2 * i)}{s.registerText (2 * i + 1)}\n"
  first ++ String.join pairs ++ s!"{s.registerText 30}\n" ++
    s!"  sp  = {Text.hexFull s.sp}  pc  = {Text.hexFull s.pc}  pstate = {Text.hex s.pstate}\n" ++
    s!"  esr_el2 = {Text.hex s.esr}  far_el2 = {Text.hex s.far}" ++
    s!"  hpfar_el2 = {Text.hex s.hpfar}"

end VcpuState

end VmMonitor
