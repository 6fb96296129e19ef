import VmMonitor.HostError
import VmMonitor.Json.Shape
import VmMonitor.Machine.Config

/-!
Machine layouts from the text of a file.
-/

namespace VmMonitor

-- Why there is no layout in a file.
inductive LoadError where
  -- The host could not read the file.
  | unreadable (cause : HostError)
  | notUtf8
  | malformed
  | unfit (message : String)
  | invalid (cause : ConfigError)
  deriving DecidableEq, Repr

def LoadError.message (path : String) : LoadError → String
  | unreadable cause => s!"failed to read config file {path}: {cause.osMessage}"
  | notUtf8 => s!"failed to read config file {path}: stream did not contain valid UTF-8"
  | malformed => s!"failed to parse config file {path}"
  | unfit message => s!"failed to parse config file {path}: {message}"
  | invalid cause => s!"invalid config file {path}: {cause.message}"

namespace MachineConfig

open Json

def word64 : Reader UInt64 := return UInt64.ofNat (← unsigned "u64" (UInt64.size - 1))

def word32 : Reader UInt32 := return UInt32.ofNat (← unsigned "u32" (UInt32.size - 1))

def word16 : Reader UInt16 := return UInt16.ofNat (← unsigned "u16" (UInt16.size - 1))

def macText : Reader MacAddress := do
  let text := (← string).toList
  match MacAddress.parse text with
  | .ok mac => return mac
  | .error e => unfit (e.summary text)

def overrideEntry (m : Std.TreeMap String UInt64) (name : String) :
    Reader (Reader (Std.TreeMap String UInt64)) :=
  return do return m.insert name (← word64)

-- The last of several values for one name counts.
def overrideMap : Reader (Std.TreeMap String UInt64) := do
  match ← token with
  | some '{' =>
      skip
      allEntries overrideEntry {}
  | some _ => mismatch "a map"
  | none => malformed

def gicShape : Shape UInt64 := ⟨"GicConfig", [⟨"distributor_base", false, fun _ => word64⟩]⟩

def timerShape : Shape UInt64 := ⟨"TimerConfig", [⟨"frequency_hz", false, fun _ => word64⟩]⟩

def uartShape : Shape UartConfig where
  name := "UartConfig"
  members :=
    [⟨"base", false, fun c => return { c with base := ← word64 }⟩,
      ⟨"irq", false, fun c => return { c with irq := ← word32 }⟩]

def consoleShape : Shape ConsoleConfig where
  name := "ConsoleConfig"
  members :=
    [⟨"base", true, fun c => return { c with base := ← word64 }⟩,
      ⟨"irq", true, fun c => return { c with irq := ← word32 }⟩,
      ⟨"queue_size", false, fun c => return { c with queueSize := ← word16 }⟩]

def netShape : Shape NetConfig where
  name := "NetConfig"
  members :=
    [⟨"base", true, fun c => return { c with base := ← word64 }⟩,
      ⟨"irq", true, fun c => return { c with irq := ← word32 }⟩,
      ⟨"queue_size", false, fun c => return { c with queueSize := ← word16 }⟩,
      ⟨"mac", true, fun c => return { c with mac := ← macText }⟩]

-- What the required members are before they are read.
def emptyConsole : ConsoleConfig := ⟨0, 0, standardQueueSize⟩

def emptyNet : NetConfig := ⟨0, 0, standardQueueSize, ⟨List.replicate 6 0, rfl⟩⟩

def shape : Shape MachineConfig where
  name := "VmConfig"
  members :=
    [⟨"mem_base", false, fun c => return { c with memoryBase := ← word64 }⟩,
      ⟨"mem_size", false, fun c => return { c with memorySize := ← word64 }⟩,
      ⟨"gic", false, fun c => return { c with
        distributorBase := ← gicShape.read standard.distributorBase }⟩,
      ⟨"timer", false, fun c => return { c with
        timerFrequency := ← timerShape.read standard.timerFrequency }⟩,
      ⟨"uart", false, fun c => return { c with uart := ← uartShape.read standard.uart }⟩,
      ⟨"console", false, fun c => return { c with
        console := ← nullable (consoleShape.read emptyConsole) }⟩,
      ⟨"net", false, fun c => return { c with net := ← nullable (netShape.read emptyNet) }⟩,
      ⟨"cpu_id_overrides", false, fun c => return { c with overrides := ← overrideMap }⟩,
      ⟨"log", false, fun c => return { c with log := ← string }⟩]

-- The layout a text describes, whether or not it can be built.
def parse (text : List Char) : Except ReadError MachineConfig :=
  readAll (shape.read standard) text

def ofText (text : String) : Except LoadError MachineConfig :=
  match parse text.toList with
  | .error .malformed => .error .malformed
  | .error (.unfit message) => .error (.unfit message)
  | .ok c => (c.validate.mapError .invalid).map fun _ => c

-- The layout in a file, given what the host made of reading the file.
def load (contents : Except HostError ByteArray) : Except LoadError MachineConfig :=
  match contents with
  | .error cause => .error (.unreadable cause)
  | .ok bytes =>
      match String.fromUTF8? bytes with
      | none => .error .notUtf8
      | some text => ofText text

end MachineConfig

end VmMonitor
