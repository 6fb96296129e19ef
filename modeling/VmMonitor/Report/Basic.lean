import VmMonitor.Json.Value

/-!
Reports: how values of the machine are shown to tools, as JSON. A word of 64 bits is shown in
hexadecimal text, so that no tool has to hold it as a number; smaller numbers are numbers.
-/

namespace VmMonitor

class Report (α : Type) where
  report : α → Json.Value

export Report (report)

namespace Report

open Json (Value)

instance {α : Type} [Report α] : CoeOut α Value := ⟨report⟩

instance : Report Value := ⟨id⟩
instance : Report String := ⟨.text⟩
instance : Report Bool := ⟨.bool⟩
instance : Report Int := ⟨.number⟩
instance : Report Nat := ⟨fun n => (n : Int)⟩
instance : Report UInt8 := ⟨fun n => n.toNat⟩
instance : Report UInt16 := ⟨fun n => n.toNat⟩
instance : Report UInt32 := ⟨fun n => n.toNat⟩
instance : Report UInt64 := ⟨fun n => Text.hex n⟩
instance : Report Unit := ⟨fun _ => "ok"⟩

instance : Report Ordering where
  report
    | .lt => "Less"
    | .eq => "Equal"
    | .gt => "Greater"

instance {α : Type} [Report α] : Report (Option α) where
  report
    | some a => a
    | none => .null

instance {α : Type} [Report α] : Report (List α) := ⟨fun xs => .array (xs.map report)⟩

instance {ε α : Type} [Report ε] [Report α] : Report (Except ε α) where
  report
    | .ok a => a
    | .error e => e

-- Byte strings up to this length are shown whole.
def wholeBytes : Nat := 256

-- A digest that tells longer byte strings apart: each byte is mixed in and spread by a prime.
def digest (data : List UInt8) : UInt64 :=
  data.foldl (fun h b => (h ^^^ b.toUInt64) * 0x100000001b3) 0xcbf29ce484222325

def bytesText (data : List UInt8) : String :=
  String.join (data.map fun b => Text.hexPadded 2 b.toNat)

instance : Report (List UInt8) where
  report data :=
    if data.length ≤ wholeBytes then bytesText data
    else .object [("len", data.length), ("fnv", digest data)]

def failure (kind message : String) : Value := .object [("error", kind), ("message", message)]

end Report

end VmMonitor
