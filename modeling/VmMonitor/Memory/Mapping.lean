import Std.Data.TreeMap
import VmMonitor.HostError
import VmMonitor.Text.Hex

/-!
Blocks of host memory. A mapping has a fixed size and holds a byte at every offset below it; a
byte that was never stored reads as zero. Slice accesses move as much as fits, object accesses
move everything or nothing.
-/

namespace VmMonitor

-- What a host has to say about the memory it gives away.
class Host where
  pageSize : Nat
  -- Why a block of so many bytes is refused, if it is.
  refusal : Nat → Option HostError

-- Pages of four kibibytes, and room in an address space of 47 bits. Where no host is named it is
-- this one.
instance Host.common : Host where
  pageSize := 4096
  refusal size := if 0x800000000000 ≤ size then some .noMemory else none

inductive MappingError where
  | invalidAddress
  | invalidRange (offset count size : Nat)
  | notPageAligned (size : Nat)
  | hostCall (cause : HostError)
  deriving DecidableEq, Repr

-- The name of the kind of error. Every error type has one such name for each of its kinds.
def MappingError.kind : MappingError → String
  | invalidAddress => "InvalidAddress"
  | invalidRange .. => "InvalidRange"
  | notPageAligned _ => "NotPageAligned"
  | hostCall _ => "SystemCallFailed"

def MappingError.message : MappingError → String
  | invalidAddress => "requested memory out of range"
  | invalidRange offset count size =>
      "requested memory range spans past the end of the region: " ++
        s!"offset={offset} count={count} region_size={size}"
  | notPageAligned size =>
      s!"mapping size must be a non-zero multiple of the page size: {Text.hexNat size}"
  | hostCall cause => s!"mmap related system call failed: {cause.message}"

-- The error with its causes. A message already ends in the cause it wraps; as a trace gives every
-- cause a place of its own, the text of a wrapped cause stands twice.
def MappingError.trace (e : MappingError) : String :=
  match e with
  | hostCall cause => s!"{e.message}: {cause.message}"
  | _ => e.message

structure Mapping where
  size : Nat
  cells : Std.TreeMap Nat UInt8

namespace Mapping

def new [Host] (size : Nat) : Except MappingError Mapping :=
  if size = 0 ∨ size % Host.pageSize ≠ 0 then .error (.notPageAligned size)
  else match Host.refusal size with
    | some cause => .error (.hostCall cause)
    | none => .ok { size := size, cells := {} }

def byte (m : Mapping) (offset : Nat) : UInt8 := m.cells.getD offset 0

def bytes (m : Mapping) (offset count : Nat) : List UInt8 :=
  (List.range count).map fun i => m.byte (offset + i)

def store (m : Mapping) (offset : Nat) : List UInt8 → Mapping
  | [] => m
  | b :: rest => store { m with cells := m.cells.insert offset b } (offset + 1) rest

-- How many of `count` bytes at `offset` lie inside.
def room (m : Mapping) (offset count : Nat) : Except MappingError Nat :=
  if offset ≤ m.size then .ok (min (m.size - offset) count) else .error .invalidAddress

def checkRange (m : Mapping) (offset count : Nat) : Except MappingError Unit :=
  if UInt64.size ≤ offset + count then .error .invalidAddress
  else if m.size < offset + count then .error (.invalidRange offset count m.size)
  else .ok ()

def writeSlice (m : Mapping) (offset : Nat) (data : List UInt8) :
    Except MappingError (Nat × Mapping) := do
  let count ← m.room offset data.length
  return (count, m.store offset (data.take count))

def readSlice (m : Mapping) (offset count : Nat) : Except MappingError (List UInt8) := do
  return m.bytes offset (← m.room offset count)

def writeObject (m : Mapping) (offset : Nat) (data : List UInt8) :
    Except MappingError Mapping := do
  m.checkRange offset data.length
  return m.store offset data

def readObject (m : Mapping) (offset count : Nat) : Except MappingError (List UInt8) := do
  m.checkRange offset count
  return m.bytes offset count

@[simp] theorem size_store (m : Mapping) (offset : Nat) (data : List UInt8) :
    (m.store offset data).size = m.size := by
  induction data generalizing m offset with
  | nil => rfl
  | cons b rest ih => simp [store, ih]

theorem byte_store (m : Mapping) (offset : Nat) (data : List UInt8) (i : Nat) :
    (m.store offset data).byte i =
      if offset ≤ i then (data[i - offset]?).getD (m.byte i) else m.byte i := by
  induction data generalizing m offset with
  | nil => simp [store]
  | cons b rest ih =>
      rw [store, ih]
      have step : byte { m with cells := m.cells.insert offset b } i =
          if i = offset then b else m.byte i := by
        simp only [byte, Std.TreeMap.getD_insert, Nat.compare_eq_eq, eq_comm (a := offset)]
      rw [step]
      by_cases le : offset ≤ i
      · by_cases same : i = offset
        · subst same
          rw [if_neg (Nat.not_succ_le_self i)]
          simp
        · have more : offset + 1 ≤ i := by omega
          have next : i - offset = (i - (offset + 1)) + 1 := by omega
          simp [le, more, same, next]
      · have : ¬ offset + 1 ≤ i := by omega
        have other : i ≠ offset := by omega
        simp [le, this, other]

end Mapping

end VmMonitor
