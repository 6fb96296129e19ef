import VmMonitor.Log.Filter

/-!
Loggers: a filter and a line format for what passes it. A process has at most one logger.
-/

namespace VmMonitor.Log

inductive SetupError where
  | alreadyInitialized
  | invalidFilter (filter : String)
  deriving DecidableEq, Repr

namespace SetupError

def kind : SetupError → String
  | alreadyInitialized => "AlreadyInitialized"
  | invalidFilter _ => "InvalidFilter"

def message : SetupError → String
  | alreadyInitialized => "a logger was already installed for this process"
  | invalidFilter filter => s!"invalid log filter \"{filter}\""

-- As a cause that keeps a machine from starting.
def startupMessage (e : SetupError) : String := s!"failed to initialize logging: {e.message}"

end SetupError

-- A record on its way to a logger, with where it comes from.
structure Message where
  level : Level
  target : String
  text : String
  file : Option String
  line : Option Nat
  deriving DecidableEq, Repr

-- A line that shows the level, for a human reader. The place in the source is shown where all of
-- it is known.
def Message.display (m : Message) (time process : String) : String :=
  match m.file, m.line with
  | some file, some line => s!"[{time} {process}: {m.level.name} {file}:{line}] {m.text}\n"
  | _, _ => s!"[{time} {process}: {m.level.name}] {m.text}\n"

structure Logger where
  filter : Filter
  process : String

namespace Logger

-- What a process logs by default.
def standardFilter : String := "info"

def standard (process : String) : Logger := ⟨.parse standardFilter.toList, process⟩

-- A blank filter is refused.
def new (filter process : String) : Except SetupError Logger :=
  if (Text.trim filter.toList).isEmpty then .error (.invalidFilter filter)
  else .ok ⟨.parse filter.toList, process⟩

def enabled (l : Logger) (m : Message) : Bool := l.filter.enabled m.level m.target.toList

-- What a sink receives for a record, nothing if it does not pass.
def write (l : Logger) (form : Message → String) (m : Message) : String :=
  if l.enabled m && l.filter.admitsText m.text.toList then form m else ""

-- The logger for a process that may have one already.
def install (installed : Option Logger) (filter process : String) : Except SetupError Logger := do
  let l ← new filter process
  if installed.isSome then throw .alreadyInitialized
  return l

end Logger

end VmMonitor.Log
