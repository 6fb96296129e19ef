import VmMonitor.Vcpu.State

/-!
The system registers that are emulated for the guest: where each keeps its value, what it starts
with, and what a write to it does.
-/

namespace VmMonitor

namespace IdRegister

def name : IdRegister → String
  | midr => "MIDR_EL1"
  | mpidr => "MPIDR_EL1"
  | idPfr0 => "ID_PFR0_EL1"
  | idPfr1 => "ID_PFR1_EL1"
  | idDfr0 => "ID_DFR0_EL1"
  | idAfr0 => "ID_AFR0_EL1"
  | idMmfr0 => "ID_MMFR0_EL1"
  | idMmfr1 => "ID_MMFR1_EL1"
  | idMmfr2 => "ID_MMFR2_EL1"
  | idMmfr3 => "ID_MMFR3_EL1"
  | idIsar0 => "ID_ISAR0_EL1"
  | idIsar1 => "ID_ISAR1_EL1"
  | idIsar2 => "ID_ISAR2_EL1"
  | idIsar3 => "ID_ISAR3_EL1"
  | idIsar4 => "ID_ISAR4_EL1"
  | idIsar5 => "ID_ISAR5_EL1"
  | mvfr0 => "MVFR0_EL1"
  | mvfr1 => "MVFR1_EL1"
  | mvfr2 => "MVFR2_EL1"
  | idAa64pfr0 => "ID_AA64PFR0_EL1"
  | idAa64pfr1 => "ID_AA64PFR1_EL1"
  | idAa64dfr0 => "ID_AA64DFR0_EL1"
  | idAa64dfr1 => "ID_AA64DFR1_EL1"
  | idAa64afr0 => "ID_AA64AFR0_EL1"
  | idAa64afr1 => "ID_AA64AFR1_EL1"
  | idAa64isar0 => "ID_AA64ISAR0_EL1"
  | idAa64isar1 => "ID_AA64ISAR1_EL1"
  | idAa64isar2 => "ID_AA64ISAR2_EL1"
  | idAa64mmfr0 => "ID_AA64MMFR0_EL1"
  | idAa64mmfr1 => "ID_AA64MMFR1_EL1"
  | idAa64mmfr2 => "ID_AA64MMFR2_EL1"
  | clidr => "CLIDR_EL1"
  | ctr => "CTR_EL0"

def id : IdRegister → SysRegId
  | midr => .ofFields 3 0 0 0 0
  | mpidr => .ofFields 3 0 0 0 5
  | idPfr0 => .ofFields 3 0 0 1 0
  | idPfr1 => .ofFields 3 0 0 1 1
  | idDfr0 => .ofFields 3 0 0 1 2
  | idAfr0 => .ofFields 3 0 0 1 3
  | idMmfr0 => .ofFields 3 0 0 1 4
  | idMmfr1 => .ofFields 3 0 0 1 5
  | idMmfr2 => .ofFields 3 0 0 1 6
  | idMmfr3 => .ofFields 3 0 0 1 7
  | idIsar0 => .ofFields 3 0 0 2 0
  | idIsar1 => .ofFields 3 0 0 2 1
  | idIsar2 => .ofFields 3 0 0 2 2
  | idIsar3 => .ofFields 3 0 0 2 3
  | idIsar4 => .ofFields 3 0 0 2 4
  | idIsar5 => .ofFields 3 0 0 2 5
  | mvfr0 => .ofFields 3 0 0 3 0
  | mvfr1 => .ofFields 3 0 0 3 1
  | mvfr2 => .ofFields 3 0 0 3 2
  | idAa64pfr0 => .ofFields 3 0 0 4 0
  | idAa64pfr1 => .ofFields 3 0 0 4 1
  | idAa64dfr0 => .ofFields 3 0 0 5 0
  | idAa64dfr1 => .ofFields 3 0 0 5 1
  | idAa64afr0 => .ofFields 3 0 0 5 4
  | idAa64afr1 => .ofFields 3 0 0 5 5
  | idAa64isar0 => .ofFields 3 0 0 6 0
  | idAa64isar1 => .ofFields 3 0 0 6 1
  | idAa64isar2 => .ofFields 3 0 0 6 2
  | idAa64mmfr0 => .ofFields 3 0 0 7 0
  | idAa64mmfr1 => .ofFields 3 0 0 7 1
  | idAa64mmfr2 => .ofFields 3 0 0 7 2
  | clidr => .ofFields 3 1 0 0 1
  | ctr => .ofFields 3 3 0 0 1

-- A Cortex-A53 that has no exception levels above the guest's.
def initial : IdRegister → UInt64
  | midr => 0x410fd034
  | mpidr => 0x80000000
  | idPfr0 => 0x131
  | idPfr1 => 0x11011
  | idDfr0 => 0x03010066
  | idAfr0 => 0
  | idMmfr0 => 0x10101105
  | idMmfr1 => 0x40000000
  | idMmfr2 => 0x01260000
  | idMmfr3 => 0x02102211
  | idIsar0 => 0x02101110
  | idIsar1 => 0x13112111
  | idIsar2 => 0x21232042
  | idIsar3 => 0x01112131
  | idIsar4 => 0x00011142
  | idIsar5 => 0x00011121
  | mvfr0 => 0x10110222
  | mvfr1 => 0x12111111
  | mvfr2 => 0x43
  | idAa64pfr0 => 0x11
  | idAa64pfr1 => 0
  | idAa64dfr0 => 0x6
  | idAa64dfr1 => 0
  | idAa64afr0 => 0
  | idAa64afr1 => 0
  | idAa64isar0 => 0x11120
  | idAa64isar1 => 0
  | idAa64isar2 => 0
  | idAa64mmfr0 => 0x1122
  | idAa64mmfr1 => 0
  | idAa64mmfr2 => 0
  | clidr => 0x0a200023
  | ctr => 0x84448004

def all : List IdRegister :=
  [midr, mpidr, idPfr0, idPfr1, idDfr0, idAfr0, idMmfr0, idMmfr1, idMmfr2, idMmfr3,
    idIsar0, idIsar1, idIsar2, idIsar3, idIsar4, idIsar5, mvfr0, mvfr1, mvfr2,
    idAa64pfr0, idAa64pfr1, idAa64dfr0, idAa64dfr1, idAa64afr0, idAa64afr1,
    idAa64isar0, idAa64isar1, idAa64isar2, idAa64mmfr0, idAa64mmfr1, idAa64mmfr2, clidr, ctr]

end IdRegister

-- Bits of the timer control register.
def timerEnable : UInt64 := 1
def timerMask : UInt64 := 2
def timerStatus : UInt64 := 4

inductive SysReg where
  | ident (register : IdRegister)
  | ccsidr
  | csselr
  | actlr
  | mdscr
  | osdlr
  | oslar
  | oslsr
  | cntfrq
  | cntvct
  | cntvCtl
  | cntvCval
  deriving DecidableEq, Repr

namespace SysReg

def all : List SysReg :=
  IdRegister.all.map ident ++
    [ccsidr, csselr, actlr, mdscr, osdlr, oslar, oslsr, cntfrq, cntvct, cntvCtl, cntvCval]

def name : SysReg → String
  | ident r => r.name
  | ccsidr => "CCSIDR_EL1"
  | csselr => "CSSELR_EL1"
  | actlr => "ACTLR_EL1"
  | mdscr => "MDSCR_EL1"
  | osdlr => "OSDLR_EL1"
  | oslar => "OSLAR_EL1"
  | oslsr => "OSLSR_EL1"
  | cntfrq => "CNTFRQ_EL0"
  | cntvct => "CNTVCT_EL0"
  | cntvCtl => "CNTV_CTL_EL0"
  | cntvCval => "CNTV_CVAL_EL0"

def id : SysReg → SysRegId
  | ident r => r.id
  | ccsidr => .ofFields 3 1 0 0 0
  | csselr => .ofFields 3 2 0 0 0
  | actlr => .ofFields 3 0 1 0 1
  | mdscr => .ofFields 2 0 0 2 2
  | osdlr => .ofFields 2 0 1 3 4
  | oslar => .ofFields 2 0 1 0 4
  | oslsr => .ofFields 2 0 1 1 4
  | cntfrq => .ofFields 3 3 14 0 0
  | cntvct => .ofFields 3 3 14 0 2
  | cntvCtl => .ofFields 3 3 14 3 1
  | cntvCval => .ofFields 3 3 14 3 2

-- Whether the guest may write it.
def writeable : SysReg → Bool
  | csselr | actlr | mdscr | osdlr | oslar | cntvCtl | cntvCval => true
  | ident _ | ccsidr | oslsr | cntfrq | cntvct => false

-- The lock is implemented and open.
def oslsrInitial : UInt64 := 0x8

def osLocked : UInt64 := 0x2

-- The value it is loaded with when the guest is set up, if it has storage of its own.
def initial? : SysReg → Option UInt64
  | ident r => some r.initial
  | csselr | actlr | mdscr | osdlr | cntvCtl | cntvCval => some 0
  | oslsr => some oslsrInitial
  | ccsidr | oslar | cntfrq | cntvct => none

def cacheIndex (s : VcpuState) : Nat := (s.sys.csselr &&& 0xf).toNat

def read (r : SysReg) (s : VcpuState) : UInt64 :=
  match r with
  | ident i => s.ids.value i
  | ccsidr => (s.ids.ccsidr[cacheIndex s]?).getD 0
  | csselr => s.sys.csselr
  | actlr => s.sys.actlr
  | mdscr => s.sys.mdscr
  | osdlr => s.sys.osdlr
  | oslar => 0
  | oslsr => s.sys.oslsr
  | cntfrq => s.timer.frequency
  | cntvct => s.timer.count
  | cntvCtl => s.timer.control
  | cntvCval => s.timer.compare

-- Stores a value without asking who writes it; whether the guest may is checked before.
def write (r : SysReg) (s : VcpuState) (value : UInt64) : VcpuState :=
  match r with
  | ident i => { s with ids := s.ids.set i value }
  | ccsidr =>
      let sizes := s.ids.ccsidr.setIfInBounds (cacheIndex s) value
      { s with ids := { s.ids with ccsidr := sizes } }
  | csselr => { s with sys := { s.sys with csselr := value } }
  | actlr => { s with sys := { s.sys with actlr := value } }
  | mdscr => { s with sys := { s.sys with mdscr := value } }
  | osdlr => { s with sys := { s.sys with osdlr := value } }
  | oslar =>
      let oslsr :=
        if value &&& 1 != 0 then s.sys.oslsr ||| osLocked else s.sys.oslsr &&& ~~~osLocked
      { s with sys := { s.sys with oslsr := oslsr } }
  | oslsr => { s with sys := { s.sys with oslsr := value } }
  | cntfrq => { s with timer := { s.timer with frequency := value } }
  | cntvct => { s with timer := { s.timer with count := value } }
  -- The status bit is not for the guest to write.
  | cntvCtl =>
      let control :=
        (s.timer.control &&& timerStatus) ||| (value &&& (timerEnable ||| timerMask))
      { s with timer := { s.timer with control := control } }
  | cntvCval => { s with timer := { s.timer with compare := value } }

-- Puts a register where it belongs among others that are in the order of their keys.
def place (r : SysReg) : List SysReg → List SysReg
  | [] => [r]
  | other :: rest =>
      if r.id.issKey ≤ other.id.issKey then r :: other :: rest else other :: place r rest

def table : Array SysReg := (all.foldr place []).toArray

-- Halves `size` places from `base` on until one is left, which takes less rounds than there are
-- places. `past` tells the places that lie behind the one looked for.
def narrow (past : Nat → Bool) : (rounds base size : Nat) → Nat
  | 0, base, _ => base
  | rounds + 1, base, size =>
      if 1 < size then
        let middle := base + size / 2
        if past middle then narrow past rounds base (size - size / 2)
        else narrow past rounds middle (size - size / 2)
      else base

def find? (id : SysRegId) : Option SysReg :=
  let past i := (table[i]?).any fun r => id.issKey < r.id.issKey
  (table[narrow past table.size 0 table.size]?).filter fun r => r.id.issKey = id.issKey

def named? (name : String) : Option SysReg := all.find? fun r => r.name = name

-- Level 1 data and instruction and level 2 unified; the other selectors name no cache.
def initialCacheSizes : Vector UInt64 16 :=
  ((Vector.replicate 16 0).setIfInBounds 0 0x700fe01a).setIfInBounds 1 0x201fe01a
    |>.setIfInBounds 2 0x703fe07a

def load (s : VcpuState) (r : SysReg) : VcpuState :=
  match r.initial? with
  | some value => r.write s value
  | none => s

-- Replaces initial values by name, in the given order. A name that no register has is returned.
def override : List (String × UInt64) → VcpuState → Except String VcpuState
  | [], s => .ok s
  | (name, value) :: rest, s =>
      match named? name with
      | some r => override rest (r.write s value)
      | none => .error name

-- The registers of a guest at power-on.
def setUp (overrides : List (String × UInt64)) (s : VcpuState) : Except String VcpuState :=
  override overrides (all.foldl load { s with ids := { s.ids with ccsidr := initialCacheSizes } })

end SysReg

end VmMonitor
