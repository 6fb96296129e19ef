import VmMonitor.Text.Quoted
import VmMonitor.Text.Shortest

/-!
Reading JSON from left to right straight into the value that is wanted. The first thing wrong in
the text ends the reading: either the text is no JSON at that place, or it is JSON that does not
fit what is wanted there.
-/

namespace VmMonitor.Json

inductive ReadError where
  | malformed
  | unfit (message : String)
  deriving DecidableEq, Repr

abbrev Reader := StateT (List Char) (Except ReadError)

def malformed {α : Type} : Reader α := throw .malformed

def unfit {α : Type} (message : String) : Reader α := throw (.unfit message)

def peek : Reader (Option Char) := return (← get).head?

def skip : Reader Unit := modify List.tail

def isBlank (c : Char) : Bool := c = ' ' || c = '\n' || c = '\t' || c = '\r'

-- The next character that is not blank, left in place.
def token : Reader (Option Char) := do
  modify (·.dropWhile isBlank)
  peek

-- Skips exactly these characters.
def word (w : String) : Reader Unit := do
  if w.toList.isPrefixOf (← get) then modify (·.drop w.length) else malformed

inductive Number where
  | natural (n : Nat)
  -- Stands for `-n`, and `n` is not zero.
  | negative (n : Nat)
  | real (value : Float)

def largestWord : Nat := UInt64.size - 1

def digitValue (c : Char) : Nat := c.toNat - '0'.toNat

def digits : Reader (List Char) := fun text =>
  .ok (text.takeWhile Char.isDigit, text.dropWhile Char.isDigit)

-- Appends digits to a significand as long as it fits a word, and counts those appended.
def gather (significand : Nat) : List Char → Nat × Nat
  | [] => (significand, 0)
  | c :: rest =>
      let next := significand * 10 + digitValue c
      if next ≤ largestWord then
        let (total, count) := gather next rest
        (total, count + 1)
      else (significand, 0)

def tenTo (e : Nat) : Float := Float.ofScientific 1 false e

-- Powers of ten are applied in steps that a floating point number can hold. After two divisions
-- nothing is left of a word.
def scale : Nat → Float → Int → Option Float
  | 0, f, _ => some f
  | fuel + 1, f, e =>
      if e.natAbs ≤ 308 then
        let g := if 0 ≤ e then f * tenTo e.toNat else f / tenTo e.natAbs
        if g.isInf then none else some g
      else if f == 0 then some f
      else if 0 ≤ e then none
      else scale fuel (f / tenTo 308) (e + 308)

def real (negative : Bool) (significand : Nat) (e : Int) : Reader Number :=
  match scale 4 (UInt64.ofNat significand).toFloat e with
  | none => malformed
  | some f => return .real (if negative then -f else f)

def whole (negative : Bool) (significand : Nat) : Number :=
  if !negative then .natural significand
  else if significand ≠ 0 ∧ significand ≤ 0x8000000000000000 then .negative significand
  else .real (-(UInt64.ofNat significand).toFloat)

-- The power of ten after the letter, with its sign.
def exponent : Reader Int := do
  skip
  let sign ← peek
  if sign = some '+' || sign = some '-' then skip
  let ds ← digits
  if ds.isEmpty then malformed
  let n : Nat := ds.foldl (fun n c => n * 10 + digitValue c) 0
  return if sign = some '-' then -n else n

def isExponentLetter (c : Option Char) : Bool := c = some 'e' || c = some 'E'

-- A number with a fraction, a power of ten or more digits than a word holds is a floating point
-- number.
def number : Reader Number := do
  let negative := (← peek) = some '-'
  if negative then skip
  let ds ← digits
  if ds.isEmpty || ds.head? = some '0' && 1 < ds.length then malformed
  let (significand, kept) := gather 0 ds
  let e : Int := ds.length - kept
  if (← peek) = some '.' then
    skip
    let fraction ← digits
    if fraction.isEmpty then malformed
    let (significand, kept) := gather significand fraction
    let e := e - kept
    if isExponentLetter (← peek) then real negative significand (e + (← exponent))
    else real negative significand e
  else if isExponentLetter (← peek) then real negative significand (e + (← exponent))
  else if e = 0 then return whole negative significand
  else real negative significand e

def escaped? (c : Char) : Option Char :=
  match c with
  | '"' => some '"'
  | '\\' => some '\\'
  | '/' => some '/'
  | 'b' => some '\x08'
  | 'f' => some '\x0c'
  | 'n' => some '\n'
  | 'r' => some '\r'
  | 't' => some '\t'
  | _ => none

def hexValue? (c : Char) : Option Nat :=
  if '0' ≤ c ∧ c ≤ '9' then some (c.toNat - '0'.toNat)
  else if 'a' ≤ c ∧ c ≤ 'f' then some (c.toNat - 'a'.toNat + 10)
  else if 'A' ≤ c ∧ c ≤ 'F' then some (c.toNat - 'A'.toNat + 10)
  else none

def unit? (a b c d : Char) : Option Nat := do
  let high := (← hexValue? a) * 16 + (← hexValue? b)
  let low := (← hexValue? c) * 16 + (← hexValue? d)
  return high * 256 + low

def isHigh (n : Nat) : Bool := 0xd800 ≤ n && n ≤ 0xdbff

def isLow (n : Nat) : Bool := 0xdc00 ≤ n && n ≤ 0xdfff

-- The rest of a string after its opening quote. Surrogates have to come in pairs.
def stringFrom (done : List Char) : List Char → Except ReadError (String × List Char)
  | [] => .error .malformed
  | '"' :: rest => .ok (String.ofList done.reverse, rest)
  | '\\' :: 'u' :: a :: b :: c :: d :: rest =>
      match unit? a b c d with
      | none => .error .malformed
      | some n =>
          if isLow n then .error .malformed
          else if isHigh n then
            match rest with
            | '\\' :: 'u' :: a :: b :: c :: d :: rest =>
                match unit? a b c d with
                | none => .error .malformed
                | some low =>
                    if isLow low then
                      let code := 0x10000 + (n - 0xd800) * 0x400 + (low - 0xdc00)
                      stringFrom (Char.ofNat code :: done) rest
                    else .error .malformed
            | _ => .error .malformed
          else stringFrom (Char.ofNat n :: done) rest
  | '\\' :: c :: rest =>
      match escaped? c with
      | some e => stringFrom (e :: done) rest
      | none => .error .malformed
  | c :: rest =>
      if c.toNat < 0x20 ∨ c = '\\' then .error .malformed else stringFrom (c :: done) rest

def stringBody : Reader String := stringFrom []

-- What stands at this place, in words. A number, a string or a literal is read for that.
def found : Reader String := do
  match ← peek with
  | some 'n' => word "null"; return "null"
  | some 't' => word "true"; return "boolean `true`"
  | some 'f' => word "false"; return "boolean `false`"
  | some '"' => skip; return s!"string {Text.quoted (← stringBody)}"
  | some '[' => return "sequence"
  | some '{' => return "map"
  | some c =>
      if c = '-' || c.isDigit then
        match ← number with
        | .natural n => return s!"integer `{n}`"
        | .negative n => return s!"integer `-{n}`"
        | .real f => return s!"floating point `{Text.floatText f}`"
      else malformed
  | none => malformed

def mismatch {α : Type} (expected : String) : Reader α := do
  unfit s!"invalid type: {← found}, expected {expected}"

-- An unsigned number of a type with this name and largest value.
def unsigned (type : String) (largest : Nat) : Reader Nat := do
  match ← token with
  | none => malformed
  | some c =>
      if c = '-' || c.isDigit then
        match ← number with
        | .natural n =>
            if n ≤ largest then return n
            else unfit s!"invalid value: integer `{n}`, expected {type}"
        | .negative n => unfit s!"invalid value: integer `-{n}`, expected {type}"
        | .real f =>
            unfit s!"invalid type: floating point `{Text.floatText f}`, expected {type}"
      else mismatch type

def string : Reader String := do
  match ← token with
  | some '"' => skip; stringBody
  | some _ => mismatch "a string"
  | none => malformed

-- A value, or null for none.
def nullable {α : Type} (r : Reader α) : Reader (Option α) := do
  match ← token with
  | some 'n' => word "null"; return none
  | _ => return some (← r)

-- Whether another item follows in an array.
def moreItems (first : Bool) : Reader Bool := do
  match ← token with
  | some ']' => return false
  | some c =>
      if first then return true
      else if c = ',' then
        skip
        match ← token with
        | some ']' | none => malformed
        | some _ => return true
      else malformed
  | none => malformed

-- Whether another entry follows in an object, which has to begin with a quote.
def moreEntries (first : Bool) : Reader Bool := do
  match ← token with
  | some '}' => return false
  | some c =>
      if first then
        if c = '"' then return true else malformed
      else if c = ',' then
        skip
        if (← token) = some '"' then return true else malformed
      else malformed
  | none => malformed

def close (bracket : Char) : Reader Unit := do
  if (← token) = some bracket then skip else malformed

-- Folds over the entries of an object from its first one on. `enter` gets the key of an entry
-- before anything after the key is looked at.
def entries {σ : Type} (enter : σ → String → Reader (Reader σ)) :
    Nat → Bool → σ → Reader σ
  | 0, _, _ => malformed
  | fuel + 1, first, s => do
      if ← moreEntries first then
        skip
        let value ← enter s (← stringBody)
        close ':'
        entries enter fuel false (← value)
      else
        skip
        return s

-- All entries, with as many rounds as the text has characters and one for its end.
def allEntries {σ : Type} (enter : σ → String → Reader (Reader σ)) (s : σ) : Reader σ := do
  entries enter ((← get).length + 1) true s

-- A value that is read from the whole of a text.
def readAll {α : Type} (r : Reader α) (text : List Char) : Except ReadError α := do
  let (a, rest) ← r text
  if (rest.dropWhile isBlank).isEmpty then return a else throw .malformed

end VmMonitor.Json
