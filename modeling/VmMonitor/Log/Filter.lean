import VmMonitor.Log.Record
import VmMonitor.Text.Blank
import VmMonitor.Text.Split

/-!
Log filters. A filter is a list of directives with commas between them, and after a slash a text
that every message has to contain. A directive is a level for everything, a target, which passes
with every level, or a target with its level; among the targets that a record's own target begins
with, the longest one decides.
-/

namespace VmMonitor.Log

-- The most verbose level that passes; none lets nothing pass.
abbrev Limit := Option Level

namespace Limit

def verbosity (l : Limit) : Nat := l.elim 0 Level.verbosity

def name (l : Limit) : String := l.elim "OFF" Level.name

def admits (l : Limit) (level : Level) : Bool := level.verbosity ≤ verbosity l

def all : List Limit := [none, some .error, some .warn, some .info, some .debug, some .trace]

-- Names of limits are read in any case.
def read? (text : List Char) : Option Limit :=
  all.find? fun l => (name l).toList.map Char.toLower = text.map Char.toLower

end Limit

structure Directive where
  -- What the target of a record begins with; none stands for every record.
  target : Option (List Char)
  limit : Limit
  deriving DecidableEq, Repr

namespace Directive

-- A directive with an unknown level, or with more than one level, is no directive.
def read? (text : List Char) : Option Directive :=
  match Text.split '=' text with
  | [single] =>
      match Limit.read? single with
      | some limit => some ⟨none, limit⟩
      | none => some ⟨some single, some .trace⟩
  | [target, level] =>
      match Text.trim level with
      | [] => some ⟨some target, some .trace⟩
      | level => (Limit.read? level).map fun limit => ⟨some target, limit⟩
  | _ => none

def applies (d : Directive) (target : List Char) : Bool :=
  match d.target with
  | none => true
  | some start => start.isPrefixOf target

-- In bytes, as targets are compared.
def length (d : Directive) : Nat := d.target.elim 0 fun start => (String.ofList start).utf8ByteSize

end Directive

structure Filter where
  directives : List Directive
  text : Option (List Char)
  deriving DecidableEq, Repr

namespace Filter

-- The later of two directives for one target counts, in the place of the earlier one.
def put (d : Directive) : List Directive → List Directive
  | [] => [d]
  | e :: rest => if e.target = d.target then d :: rest else e :: put d rest

def readDirectives (text : List Char) : List Directive :=
  (((Text.split ',' text).map Text.trim).filter fun part => !part.isEmpty)
    |>.filterMap Directive.read? |>.foldl (fun ds d => put d ds) []

def withDefault (ds : List Directive) : List Directive :=
  if ds.isEmpty then [⟨none, some .error⟩] else ds

-- With more than one slash nothing of the filter counts.
def parse (text : List Char) : Filter :=
  match Text.split '/' text with
  | [directives] => ⟨withDefault (readDirectives directives), none⟩
  | [directives, part] => ⟨withDefault (readDirectives directives), some part⟩
  | _ => ⟨withDefault [], none⟩

def longer (best : Option Directive) (d : Directive) : Option Directive :=
  match best with
  | some e => if d.length < e.length then best else some d
  | none => some d

-- The directive that decides about a target.
def deciding (f : Filter) (target : List Char) : Option Directive :=
  (f.directives.filter (·.applies target)).foldl longer none

def enabled (f : Filter) (level : Level) (target : List Char) : Bool :=
  (f.deciding target).any fun d => d.limit.admits level

-- The most verbose level that passes for some target.
def limit (f : Filter) : Limit :=
  f.directives.foldl (fun l d => if l.verbosity < d.limit.verbosity then d.limit else l) none

def occurs (part : List Char) : List Char → Bool
  | [] => part.isEmpty
  | c :: rest => part.isPrefixOf (c :: rest) || occurs part rest

def admitsText (f : Filter) (message : List Char) : Bool :=
  f.text.all fun part => occurs part message

end Filter

end VmMonitor.Log
