/-!
Hexadecimal text of words, lower case, as addresses and register values are shown.
-/

namespace VmMonitor.Text

def hexDigits (n : Nat) : String := String.ofList (Nat.toDigits 16 n)

-- At least `width` digits, zeros in front.
def hexPadded (width n : Nat) : String :=
  let digits := Nat.toDigits 16 n
  String.ofList (List.replicate (width - digits.length) '0' ++ digits)

def hexNat (n : Nat) : String := "0x" ++ hexDigits n

-- The shortest form of a word, `0x0` for zero.
def hex (w : UInt64) : String := hexNat w.toNat

-- A word with all sixteen digits.
def hexFull (w : UInt64) : String := "0x" ++ hexPadded 16 w.toNat

end VmMonitor.Text
