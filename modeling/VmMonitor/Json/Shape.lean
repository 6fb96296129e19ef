import VmMonitor.Json.Reader

/-!
Records in JSON: an object with known members in any order, or an array with the members in their
own order. A member may be left out if it has a standard value.
-/

namespace VmMonitor.Json

structure Member (σ : Type) where
  name : String
  required : Bool
  -- Reads the member into a record that holds what was read before.
  read : σ → Reader σ

structure Shape (σ : Type) where
  name : String
  members : List (Member σ)

namespace Shape

variable {σ : Type}

def listed : List String → String
  | [] => ""
  | [a] => s!"`{a}`"
  | a :: rest => s!"`{a}`, {listed rest}"

-- The member names, as a message about an unknown one ends.
def choices : List String → String
  | [a] => s!"`{a}`"
  | [a, b] => s!"`{a}` or `{b}`"
  | names => s!"one of {listed names}"

-- A record in the making and the members read so far.
structure Partial (σ : Type) where
  value : σ
  seen : List String

def enter (s : Shape σ) (p : Partial σ) (key : String) : Reader (Reader (Partial σ)) :=
  match s.members.find? (·.name = key) with
  | none => unfit s!"unknown field `{key}`, expected {choices (s.members.map (·.name))}"
  | some m =>
      if p.seen.contains key then unfit s!"duplicate field `{key}`"
      else return do return ⟨← m.read p.value, key :: p.seen⟩

def ofObject (s : Shape σ) (start : σ) : Reader σ := do
  let p ← allEntries s.enter ⟨start, []⟩
  match s.members.find? fun m => m.required && !p.seen.contains m.name with
  | some m => unfit s!"missing field `{m.name}`"
  | none => return p.value

-- The members from number `i` on.
def items (s : Shape σ) : List (Member σ) → Nat → σ → Reader σ
  | [], _, v => return v
  | m :: rest, i, v => do
      if ← moreItems (i = 0) then items s rest (i + 1) (← m.read v)
      else if m.required then
        unfit s!"invalid length {i}, expected struct {s.name} with {s.members.length} elements"
      else items s rest (i + 1) v

def read (s : Shape σ) (start : σ) : Reader σ := do
  match ← token with
  | some '[' =>
      skip
      let v ← s.items s.members 0 start
      close ']'
      return v
  | some '{' =>
      skip
      s.ofObject start
  | some _ => mismatch s!"struct {s.name}"
  | none => malformed

end Shape

end VmMonitor.Json
