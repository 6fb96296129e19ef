/-!
Names of system registers. A register is named by five fields, packed into sixteen bits the way
MRS and MSR carry them; a trapped access carries the same fields in other places of its syndrome.
-/

namespace VmMonitor

structure SysRegId where
  encoded : UInt16
  deriving DecidableEq, Repr

structure SysRegFieldError where
  field : String
  value : UInt8
  deriving DecidableEq, Repr

def SysRegFieldError.message (e : SysRegFieldError) : String :=
  s!"system register field {e.field} out of range: {e.value}"

namespace SysRegId

-- Fields that are too large are cut to their width.
def ofFields (op0 op1 crn crm op2 : UInt8) : SysRegId :=
  ⟨((op0.toUInt16 &&& 0x3) <<< 14) ||| ((op1.toUInt16 &&& 0x7) <<< 11) |||
    ((crn.toUInt16 &&& 0xf) <<< 7) ||| ((crm.toUInt16 &&& 0xf) <<< 3) |||
    (op2.toUInt16 &&& 0x7)⟩

-- The first field that is too large is the one named.
def ofFields? (op0 op1 crn crm op2 : UInt8) : Except SysRegFieldError SysRegId :=
  let tooLarge := [("Op0", op0, (3 : UInt8)), ("Op1", op1, 7), ("CRn", crn, 15),
    ("CRm", crm, 15), ("Op2", op2, 7)].find? fun (_, value, largest) => largest < value
  match tooLarge with
  | some (field, value, _) => .error ⟨field, value⟩
  | none => .ok (ofFields op0 op1 crn crm op2)

def op0 (r : SysRegId) : UInt8 := ((r.encoded >>> 14) &&& 0x3).toUInt8
def op1 (r : SysRegId) : UInt8 := ((r.encoded >>> 11) &&& 0x7).toUInt8
def crn (r : SysRegId) : UInt8 := ((r.encoded >>> 7) &&& 0xf).toUInt8
def crm (r : SysRegId) : UInt8 := ((r.encoded >>> 3) &&& 0xf).toUInt8
def op2 (r : SysRegId) : UInt8 := (r.encoded &&& 0x7).toUInt8

-- The register a trapped access names. Direction and transfer register play no part.
def ofIss (iss : UInt32) : SysRegId :=
  ofFields ((iss >>> 20) &&& 0x3).toUInt8 ((iss >>> 14) &&& 0x7).toUInt8
    ((iss >>> 10) &&& 0xf).toUInt8 ((iss >>> 1) &&& 0xf).toUInt8 ((iss >>> 17) &&& 0x7).toUInt8

-- The fields where a syndrome has them, all other bits clear.
def issKey (r : SysRegId) : UInt32 :=
  (r.op0.toUInt32 <<< 20) ||| (r.op2.toUInt32 <<< 17) ||| (r.op1.toUInt32 <<< 14) |||
    (r.crn.toUInt32 <<< 10) ||| (r.crm.toUInt32 <<< 1)

def display (r : SysRegId) : String := s!"S{r.op0}_{r.op1}_C{r.crn}_C{r.crm}_{r.op2}"

-- The form with the fields by name.
def displayFields (r : SysRegId) : String :=
  s!"AArch64SysRegId \x7b Op0: {r.op0}, Op1: {r.op1}, CRn: {r.crn}, " ++
    s!"CRm: {r.crm}, Op2: {r.op2} \x7d"

end SysRegId

end VmMonitor
