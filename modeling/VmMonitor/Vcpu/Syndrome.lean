import VmMonitor.SysReg.Id

/-!
What the exception syndrome of a trap says: the class of the exception and, by class, what was
accessed and how.
-/

namespace VmMonitor

-- Where the last run of the guest ended.
inductive ExceptionKind where
  | synchronous
  | irq
  | fiq
  | serror
  -- The guest has not run yet.
  | notRun
  deriving DecidableEq, Repr

namespace ExceptionKind

def ofVector? (vector : UInt32) : Option ExceptionKind :=
  if vector = 0x400 then some synchronous
  else if vector = 0x480 then some irq
  else if vector = 0x500 then some fiq
  else if vector = 0x580 then some serror
  else if vector = 0xffff then some notRun
  else none

def name : ExceptionKind → String
  | synchronous => "synchronous"
  | irq => "irq"
  | fiq => "fiq"
  | serror => "serror"
  | notRun => "none"

end ExceptionKind

-- The exception classes the monitor has an answer to.
inductive ExceptionClass where
  | waitFor
  | hypercall
  | systemRegister
  | dataAbort
  deriving DecidableEq, Repr

namespace ExceptionClass

def ofCode? (code : UInt32) : Option ExceptionClass :=
  if code = 0x01 then some waitFor
  else if code = 0x16 then some hypercall
  else if code = 0x18 then some systemRegister
  else if code = 0x24 then some dataAbort
  else none

def name : ExceptionClass → String
  | waitFor => "WfiWfe"
  | hypercall => "Hvc64"
  | systemRegister => "MsrMrs"
  | dataAbort => "DataAbortLower"

end ExceptionClass

structure Syndrome where
  value : UInt64
  deriving DecidableEq, Repr

namespace Syndrome

-- Exception class code, bits 31 to 26.
def code (s : Syndrome) : UInt32 := ((s.value >>> 26) &&& 0x3f).toUInt32

-- What the class says about the access, bits 24 to 0.
def iss (s : Syndrome) : UInt32 := (s.value &&& 0x1ffffff).toUInt32

def class? (s : Syndrome) : Option ExceptionClass := ExceptionClass.ofCode? s.code

end Syndrome

structure SysRegAccess where
  register : SysRegId
  -- General purpose register that is transferred; 31 stands for zero.
  transfer : Nat
  isRead : Bool
  deriving DecidableEq, Repr

def SysRegAccess.ofIss (iss : UInt32) : SysRegAccess where
  register := .ofIss iss
  transfer := ((iss >>> 5) &&& 0x1f).toNat
  isRead := iss &&& 1 != 0

structure DataAbort where
  -- Whether the syndrome describes the access at all.
  valid : Bool
  -- In bytes.
  size : Nat
  signExtend : Bool
  -- General purpose register that is transferred; 31 stands for zero.
  transfer : Nat
  sixtyFour : Bool
  isWrite : Bool
  deriving DecidableEq, Repr

def DataAbort.ofIss (iss : UInt32) : DataAbort where
  valid := iss &&& 0x1000000 != 0
  size := 1 <<< ((iss >>> 22) &&& 0x3).toNat
  signExtend := iss &&& 0x200000 != 0
  transfer := ((iss >>> 16) &&& 0x1f).toNat
  sixtyFour := iss &&& 0x8000 != 0
  isWrite := iss &&& 0x40 != 0

end VmMonitor
