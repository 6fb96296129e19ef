import VmMonitor.Register.Basic

/-!
A block of registers, kept by ascending offset. An access has to fall inside one register.
-/

namespace VmMonitor

-- A register and the offsets it was given. They are those of the register that came to the place
-- first, which may be of another size than the one that is there now.
structure RegisterSlot where
  range : RegisterRange
  register : Register
  deriving DecidableEq, Repr

structure RegisterSpace where
  slots : List RegisterSlot
  deriving DecidableEq, Repr

namespace RegisterSpace

def empty : RegisterSpace := ⟨[]⟩

-- Places are told apart by their first offset alone: a second register with the same one takes
-- over the place that is there.
def place (range : RegisterRange) (r : Register) : List RegisterSlot → List RegisterSlot
  | [] => [⟨range, r⟩]
  | s :: rest =>
      match range.order s.range with
      | .lt => ⟨range, r⟩ :: s :: rest
      | .eq => { s with register := r } :: rest
      | .gt => s :: place range r rest

-- Whoever lays the block out sees to it that no two registers overlap.
def add (s : RegisterSpace) (spec : RegisterSpec) : Checked RegisterSpace := do
  return ⟨place (← spec.range) (.new spec) s.slots⟩

-- The last place that begins at or below `offset`, if it reaches so far.
def slot? (s : RegisterSpace) (offset : UInt64) : Option RegisterSlot :=
  (s.slots.filter (·.range.first ≤ offset)).getLast?.filter (offset ≤ ·.range.final)

-- The register that holds `offset`.
def get? (s : RegisterSpace) (offset : UInt64) : Option Register :=
  (s.slot? offset).map (·.register)

def update (s : RegisterSpace) (offset : UInt64) (f : Register → Register) : RegisterSpace :=
  match s.slot? offset with
  | none => s
  | some found =>
      ⟨s.slots.map fun t =>
        if t.range.first = found.range.first then { t with register := f t.register } else t⟩

def read (s : RegisterSpace) (offset : UInt64) (width : Width) :
    Checked (Except RegisterError UInt64) :=
  match s.get? offset with
  | none => .ok (.error (.noRegister offset))
  | some r => r.read offset width

-- Answers the first offset of the register that was written, so that the device can act on it.
def write (s : RegisterSpace) (offset : UInt64) (width : Width) (value : UInt64) :
    Checked (Except RegisterError (UInt64 × RegisterSpace)) :=
  match s.get? offset with
  | none => .ok (.error (.noRegister offset))
  | some r => do
      match ← r.write offset width value with
      | .error e => return .error e
      | .ok r' => return .ok (r.spec.offset, s.update offset fun _ => r')

-- Zero where there is no register.
def value (s : RegisterSpace) (offset : UInt64) : UInt64 :=
  match s.get? offset with
  | some r => r.value
  | none => 0

def setValue (s : RegisterSpace) (offset value : UInt64) : RegisterSpace :=
  s.update offset (·.setValue value)

def setBits (s : RegisterSpace) (offset mask : UInt64) : RegisterSpace :=
  s.update offset (·.setBits mask)

def clearBits (s : RegisterSpace) (offset mask : UInt64) : RegisterSpace :=
  s.update offset (·.clearBits mask)

def reset (s : RegisterSpace) : RegisterSpace :=
  ⟨s.slots.map fun t => { t with register := t.register.reset }⟩

-- A block whose layout is known to fit the address range.
def ofSpecs (specs : List RegisterSpec) : RegisterSpace :=
  ⟨specs.foldl (fun slots spec => place spec.span (.new spec) slots) []⟩

end RegisterSpace

end VmMonitor
