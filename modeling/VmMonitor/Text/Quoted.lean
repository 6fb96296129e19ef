import VmMonitor.Text.Hex
import VmMonitor.Text.Printable

/-!
Text in quotes, as messages show it: what cannot be shown by itself is escaped, by a letter where
there is one and else by its code point.
-/

namespace VmMonitor.Text

def escapeLetter? (c : Char) : Option Char :=
  if c = '\x00' then some '0'
  else if c = '\t' then some 't'
  else if c = '\n' then some 'n'
  else if c = '\r' then some 'r'
  else if c = '"' ∨ c = '\\' then some c
  else none

def escape (c : Char) : List Char :=
  match escapeLetter? c with
  | some letter => ['\\', letter]
  | none =>
      if isPrintable c then [c]
      else s!"\\u\x7b{hexDigits c.toNat}\x7d".toList

def quoted (s : String) : String := String.ofList ('"' :: s.toList.flatMap escape ++ ['"'])

end VmMonitor.Text
