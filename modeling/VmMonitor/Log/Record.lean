/-!
Log records and their levels, most severe first.
-/

namespace VmMonitor.Log

inductive Level where
  | error
  | warn
  | info
  | debug
  | trace
  deriving DecidableEq, Repr

namespace Level

def name : Level → String
  | error => "ERROR"
  | warn => "WARN"
  | info => "INFO"
  | debug => "DEBUG"
  | trace => "TRACE"

-- Larger means more verbose. Zero is left for a filter that lets nothing pass.
def verbosity : Level → Nat
  | error => 1
  | warn => 2
  | info => 3
  | debug => 4
  | trace => 5

end Level

structure Record where
  level : Level
  text : String
  deriving DecidableEq, Repr

def warning (text : String) : Record := ⟨.warn, text⟩

def failure (text : String) : Record := ⟨.error, text⟩

def Record.line (r : Record) : String := s!"{r.level.name} {r.text}"

end VmMonitor.Log
