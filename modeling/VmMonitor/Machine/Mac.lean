import VmMonitor.Text.Hex
import VmMonitor.Text.Split

/-!
Ethernet addresses and their text: six groups of hexadecimal digits with colons between them. A
group is read as a number, so it may carry a plus sign and leading zeros as long as its value fits
a byte; it is written as two digits.
-/

namespace VmMonitor

inductive ByteError where
  | empty
  | invalidDigit
  | tooLarge
  deriving DecidableEq, Repr

def ByteError.message : ByteError → String
  | empty => "cannot parse integer from empty string"
  | invalidDigit => "invalid digit found in string"
  | tooLarge => "number too large to fit in target type"

inductive MacError where
  | tooShort
  | tooLong
  | group (part : List Char) (cause : ByteError)
  deriving DecidableEq, Repr

namespace MacError

-- What is wrong with the address `text`, without the cause.
def summary (text : List Char) : MacError → String
  | tooShort => s!"mac address `{String.ofList text}` is too short"
  | tooLong => s!"mac address `{String.ofList text}` is too long"
  | group part _ =>
      s!"invalid byte `{String.ofList part}` in mac address `{String.ofList text}`"

def message (text : List Char) : MacError → String
  | group part cause => s!"{summary text (group part cause)}: {cause.message}"
  | e => summary text e

end MacError

structure MacAddress where
  bytes : List UInt8
  length_bytes : bytes.length = 6
  deriving DecidableEq, Repr

namespace MacAddress

def digit? (c : Char) : Option Nat :=
  if '0' ≤ c ∧ c ≤ '9' then some (c.toNat - '0'.toNat)
  else if 'a' ≤ c ∧ c ≤ 'f' then some (c.toNat - 'a'.toNat + 10)
  else if 'A' ≤ c ∧ c ≤ 'F' then some (c.toNat - 'A'.toNat + 10)
  else none

-- Reads digits onto `value`. Of two things wrong the one further left is reported.
def readDigits (value : Nat) : List Char → Except ByteError Nat
  | [] => .ok value
  | c :: rest =>
      match digit? c with
      | none => .error .invalidDigit
      | some d => if value * 16 + d < 256 then readDigits (value * 16 + d) rest
          else .error .tooLarge

def readByte : List Char → Except ByteError UInt8
  | [] => .error .empty
  | ['+'] => .error .invalidDigit
  | '+' :: digits => (readDigits 0 digits).map UInt8.ofNat
  | digits => (readDigits 0 digits).map UInt8.ofNat

-- Exactly `n` groups, read from the left.
def readGroups : (n : Nat) → List (List Char) →
    Except MacError { bs : List UInt8 // bs.length = n }
  | 0, [] => .ok ⟨[], rfl⟩
  | 0, _ :: _ => .error .tooLong
  | _ + 1, [] => .error .tooShort
  | n + 1, part :: rest =>
      match readByte part with
      | .error cause => .error (.group part cause)
      | .ok b =>
          match readGroups n rest with
          | .error e => .error e
          | .ok bs => .ok ⟨b :: bs.val, by simp [bs.property]⟩

def parse (text : List Char) : Except MacError MacAddress :=
  match readGroups 6 (Text.split ':' text) with
  | .error e => .error e
  | .ok bs => .ok ⟨bs.val, bs.property⟩

def group (b : UInt8) : List Char :=
  [Nat.digitChar (b.toNat / 16), Nat.digitChar (b.toNat % 16)]

def joined : List UInt8 → List Char
  | [] => []
  | [b] => group b
  | b :: rest => group b ++ ':' :: joined rest

def render (a : MacAddress) : List Char := joined a.bytes

end MacAddress

end VmMonitor
