/-!
Cutting text at a separator.
-/

namespace VmMonitor.Text

-- The parts between the separators, of which there is always one more than separators.
def split (separator : Char) : List Char → List (List Char)
  | [] => [[]]
  | c :: rest =>
      if c = separator then [] :: split separator rest
      else (c :: (split separator rest).headD []) :: (split separator rest).tail

theorem split_ne_nil (separator : Char) (text : List Char) : split separator text ≠ [] := by
  cases text with
  | nil => simp [split]
  | cons c rest => simp only [split]; split <;> simp

end VmMonitor.Text
