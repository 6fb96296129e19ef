import Mathlib.Data.List.Basic
import VmMonitor.Json.Shape
import VmMonitor.Json.Value

/-!
What is written as JSON is read back: strings of any characters, numbers that a word holds, and
records whose members are. Behind a value there may stand more text, which is left.
-/

namespace VmMonitor.Json

open Value (renderMembers)

theorem bind_read {α β : Type} {r : Reader α} {f : α → Reader β} {text rest : List Char}
    {a : α} (read : r text = .ok (a, rest)) : (r >>= f) text = f a rest := by
  change ((r text).bind fun next => f next.1 next.2) = f a rest
  rw [read]
  rfl

theorem peek_read (text : List Char) : peek text = .ok (text.head?, text) := rfl

theorem skip_read (c : Char) (text : List Char) : skip (c :: text) = .ok ((), text) := rfl

theorem token_read {c : Char} (visible : isBlank c = false) (rest : List Char) :
    token (c :: rest) = .ok (some c, c :: rest) := by
  change peek ((c :: rest).dropWhile isBlank) = _
  rw [List.dropWhile_cons_of_neg (by simp [visible])]
  exact peek_read _

-- Control characters are spelled as no surrogate of a pair.
theorem control_spelled : ∀ k < 32, s!"\\u{Text.hexPadded 4 k}".toList =
      ['\\', 'u', '0', '0', Nat.digitChar (k / 16), Nat.digitChar (k % 16)] ∧
    unit? '0' '0' (Nat.digitChar (k / 16)) (Nat.digitChar (k % 16)) = some k ∧
    isLow k = false ∧ isHigh k = false := by decide

theorem escape_read (c : Char) (done rest : List Char) :
    stringFrom done (escape c ++ rest) = stringFrom (c :: done) rest := by
  unfold escape
  split
  · rename_i marked
    rcases marked with rfl | rfl <;> rfl
  · rename_i unmarked
    split
    · rename_i control
      obtain ⟨spelled, value, low, high⟩ := control_spelled c.toNat control
      rw [spelled]
      simp [stringFrom.eq_3, value, low, high]
    · rename_i visible
      have rule := stringFrom.eq_5 done c rest (fun same => unmarked (.inl same))
        (fun _ _ _ _ _ same => absurd (.inr same) unmarked)
        (fun _ _ same => absurd (.inr same) unmarked)
      exact rule.trans (if_neg fun either => either.elim visible fun same => unmarked (.inr same))

theorem stringFrom_read (cs done rest : List Char) :
    stringFrom done (cs.flatMap escape ++ '"' :: rest) =
      .ok (String.ofList (done.reverse ++ cs), rest) := by
  induction cs generalizing done with
  | nil => simp [stringFrom.eq_2]
  | cons c cs ih => simp [escape_read, ih]

theorem stringBody_read (s : String) (rest : List Char) :
    stringBody (s.toList.flatMap escape ++ '"' :: rest) = .ok (s, rest) :=
  (stringFrom_read s.toList [] rest).trans (by simp)

theorem quote_toList (s : String) :
    (quote s).toList = '"' :: (s.toList.flatMap escape ++ ['"']) := by
  simp [quote]

theorem string_read (s : String) (rest : List Char) :
    string ((Value.text s).render.toList ++ rest) = .ok (s, rest) := by
  rw [Value.render, quote_toList, List.cons_append, List.append_assoc]
  exact stringBody_read s rest

-- What stands behind a member of an object.
def Bounds (rest : List Char) : Prop := ∃ more, rest = ',' :: more ∨ rest = '}' :: more

theorem digits_read {ds rest : List Char} (decimal : ∀ c ∈ ds, c.isDigit)
    (bounds : Bounds rest) : digits (ds ++ rest) = .ok (ds, rest) := by
  have stop : rest.takeWhile Char.isDigit = [] ∧ rest.dropWhile Char.isDigit = rest := by
    obtain ⟨more, rfl | rfl⟩ := bounds <;> exact ⟨rfl, rfl⟩
  rw [digits, List.takeWhile_append_of_pos decimal, List.dropWhile_append_of_pos decimal, stop.1,
    stop.2, List.append_nil]

theorem ofDigitChars_grows (ds : List Char) (start : Nat) :
    start ≤ Nat.ofDigitChars 10 ds start := by
  induction ds generalizing start with
  | nil => exact Nat.le_refl start
  | cons c ds ih =>
      rw [Nat.ofDigitChars_cons]
      exact Nat.le_trans (by omega) (ih _)

-- No digit of a number that a word holds is left out.
theorem gather_whole {ds : List Char} {start : Nat}
    (held : Nat.ofDigitChars 10 ds start ≤ largestWord) :
    gather start ds = (Nat.ofDigitChars 10 ds start, ds.length) := by
  induction ds generalizing start with
  | nil => rfl
  | cons c ds ih =>
      rw [Nat.ofDigitChars_cons] at held ⊢
      have next : start * 10 + digitValue c = 10 * start + (c.toNat - '0'.toNat) := by
        rw [Nat.mul_comm, digitValue]
      have small := Nat.le_trans (ofDigitChars_grows ds _) held
      simp only [gather, next, if_pos small, ih held, List.length_cons]

-- Only zero is written with a zero in front.
theorem toDigits_head {n : Nat} (positive : 0 < n) : (Nat.toDigits 10 n).head? ≠ some '0' := by
  induction n using Nat.strongRecOn with
  | ind n ih =>
      rw [Nat.toDigits_eq_if (by decide)]
      split
      · rename_i digit
        have each : ∀ k < 10, 0 < k → [Nat.digitChar k].head? ≠ some '0' := by decide
        exact each n digit positive
      · rw [List.head?_append_of_ne_nil _ Nat.toDigits_ne_nil]
        exact ih (n / 10) (by omega) (by omega)

theorem toDigits_decimal (n : Nat) : ∀ c ∈ Nat.toDigits 10 n, c.isDigit :=
  fun _ here => Nat.isDigit_of_mem_toDigits (by decide) (Nat.le_refl 10) here

theorem toDigits_cons (n : Nat) : ∃ c tail, Nat.toDigits 10 n = c :: tail ∧ c.isDigit := by
  have some : Nat.toDigits 10 n ≠ [] := Nat.toDigits_ne_nil
  obtain ⟨c, tail, ds⟩ := List.exists_cons_of_ne_nil some
  exact ⟨c, tail, ds, toDigits_decimal n c (ds ▸ List.mem_cons_self)⟩

theorem digit_visible {c : Char} (digit : c.isDigit) : isBlank c = false := by
  refine Bool.eq_false_iff.mpr fun blank => ?_
  simp only [isBlank, Bool.or_eq_true, decide_eq_true_eq] at blank
  rcases blank with ((rfl | rfl) | rfl) | rfl <;> exact absurd digit (by decide)

theorem number_read {n : Nat} (held : n ≤ largestWord) {rest : List Char} (bounds : Bounds rest) :
    number (Nat.toDigits 10 n ++ rest) = .ok (.natural n, rest) := by
  have value : Nat.ofDigitChars 10 (Nat.toDigits 10 n) 0 = n := Nat.ofDigitChars_ten_toDigits
  have gathered : gather 0 (Nat.toDigits 10 n) = (n, (Nat.toDigits 10 n).length) := by
    rw [gather_whole (value.symm ▸ held), value]
  have lone : ¬ ((Nat.toDigits 10 n).head? = some '0' ∧ 1 < (Nat.toDigits 10 n).length) := by
    rintro ⟨zero, more⟩
    rcases Nat.eq_zero_or_pos n with rfl | positive
    · exact absurd more (by decide)
    · exact toDigits_head positive zero
  obtain ⟨c, tail, ds, digit⟩ := toDigits_cons n
  have positive : (Nat.toDigits 10 n ++ rest).head? ≠ some '-' := by
    rw [ds]
    intro sign
    cases sign
    exact absurd digit (by decide)
  have behind : rest.head? ≠ some '.' ∧ isExponentLetter rest.head? = false := by
    obtain ⟨more, rfl | rfl⟩ := bounds <;> exact ⟨by simp, rfl⟩
  unfold number
  rw [bind_read (peek_read _)]
  simp only [positive, decide_false, if_false]
  rw [bind_read (digits_read (toDigits_decimal n) bounds), if_neg (by simpa [ds] using lone),
    bind_read (peek_read rest), if_neg behind.1, bind_read (peek_read rest),
    if_neg (by simp [behind.2]), gathered, if_pos (Int.sub_self _)]
  rfl

theorem unsigned_read (type : String) {n largest : Nat} (fits : n ≤ largest)
    (word : largest ≤ largestWord) {rest : List Char} (bounds : Bounds rest) :
    unsigned type largest ((Value.number n).render.toList ++ rest) = .ok (n, rest) := by
  have written : (Value.number n).render.toList = Nat.toDigits 10 n := by
    have natural : toString (n : Int) = toString n := rfl
    rw [Value.render, natural, Nat.toString_eq_ofList_toDigits, String.toList_ofList]
  have number := number_read (Nat.le_trans fits word) bounds
  obtain ⟨c, tail, ds, digit⟩ := toDigits_cons n
  rw [ds, List.cons_append] at number
  rw [written, ds, List.cons_append]
  unfold unsigned
  rw [bind_read (token_read (digit_visible digit) (tail ++ rest))]
  simp only [digit, Bool.or_true, if_true]
  rw [bind_read number]
  simp only [fits, if_true]
  rfl

def memberText (name : String) (v : Value) : List Char :=
  (quote name).toList ++ ':' :: v.render.toList

-- The text of members that stand behind another.
def moreText (members : List (String × Value)) : List Char :=
  members.flatMap fun member => ',' :: memberText member.1 member.2

theorem memberText_eq (name : String) (v : Value) :
    (quote name ++ ":" ++ v.render).toList = memberText name v := by
  simp [memberText]

theorem moreText_cons (name : String) (v : Value) (more : List (String × Value))
    (rest : List Char) :
    moreText ((name, v) :: more) ++ rest =
      ',' :: (memberText name v ++ (moreText more ++ rest)) := by
  simp [moreText]

theorem moreText_length (members : List (String × Value)) :
    members.length ≤ (moreText members).length := by
  induction members with
  | nil => exact Nat.zero_le _
  | cons member more ih =>
      simp only [moreText, List.flatMap_cons, List.length_append, List.length_cons] at ih ⊢
      omega

theorem moreText_bounds (members : List (String × Value)) (rest : List Char) :
    Bounds (moreText members ++ '}' :: rest) := by
  cases members with
  | nil => exact ⟨rest, .inr rfl⟩
  | cons member more => exact ⟨_, .inl (moreText_cons member.1 member.2 more _)⟩

theorem joined_eq (first : List Char) (more : List (String × Value)) :
    [','].intercalate (first :: (renderMembers more).map String.toList) =
      first ++ moreText more := by
  induction more generalizing first with
  | nil => simp [renderMembers, moreText]
  | cons member more ih =>
      simp only [renderMembers, List.map_cons, memberText_eq, List.intercalate_cons_cons, ih]
      simp [moreText]

theorem object_render (name : String) (v : Value) (more : List (String × Value)) :
    (Value.object ((name, v) :: more)).render.toList =
      '{' :: (memberText name v ++ (moreText more ++ ['}'])) := by
  rw [Value.render, String.toList_append, String.toList_append, String.toList_intercalate,
    renderMembers, List.map_cons, memberText_eq]
  change '{' :: ([','].intercalate _ ++ ['}']) = _
  rw [joined_eq, List.append_assoc]

section

variable {σ : Type} {enter : σ → String → Reader (Reader σ)}

-- Reading the members, each from its own text, leads from one state to another.
inductive Fills (enter : σ → String → Reader (Reader σ)) :
    σ → List (String × Value) → σ → Prop
  | none (s : σ) : Fills enter s [] s
  | one {s t u : σ} {name : String} {v : Value} {more : List (String × Value)} {value : Reader σ}
      (entered : ∀ rest, enter s name rest = .ok (value, rest))
      (read : ∀ rest, Bounds rest → value (v.render.toList ++ rest) = .ok (t, rest))
      (others : Fills enter t more u) : Fills enter s ((name, v) :: more) u

theorem moreEntries_first (name : String) (v : Value) (rest : List Char) :
    moreEntries true (memberText name v ++ rest) = .ok (true, memberText name v ++ rest) := by
  rw [memberText, quote_toList]
  rfl

theorem moreEntries_next (name : String) (v : Value) (rest : List Char) :
    moreEntries false (',' :: (memberText name v ++ rest)) =
      .ok (true, memberText name v ++ rest) := by
  rw [memberText, quote_toList]
  rfl

theorem entry_read {s t : σ} {name : String} {v : Value} {value : Reader σ}
    (entered : ∀ rest, enter s name rest = .ok (value, rest))
    (read : ∀ rest, Bounds rest → value (v.render.toList ++ rest) = .ok (t, rest))
    {rest : List Char} (bounds : Bounds rest) {first : Bool} {text : List Char}
    (here : moreEntries first text = .ok (true, memberText name v ++ rest)) (fuel : Nat) :
    entries enter (fuel + 1) first s text = entries enter fuel false t rest := by
  have quoted : memberText name v ++ rest = '"' ::
      (name.toList.flatMap escape ++ '"' :: (':' :: (v.render.toList ++ rest))) := by
    simp [memberText, quote_toList]
  have colon (text : List Char) : close ':' (':' :: text) = .ok ((), text) := rfl
  rw [entries, bind_read here, if_pos rfl, quoted, bind_read (skip_read ..),
    bind_read (stringBody_read name _), bind_read (entered _), bind_read (colon _),
    bind_read (read rest bounds)]

theorem entries_read {s t : σ} {members : List (String × Value)} (fills : Fills enter s members t)
    (rest : List Char) {fuel : Nat} (enough : members.length < fuel) :
    entries enter fuel false s (moreText members ++ '}' :: rest) = .ok (t, rest) := by
  induction fills generalizing fuel with
  | none s =>
      obtain ⟨rounds, rfl⟩ := Nat.exists_eq_add_of_lt enough
      have last : moreEntries false ('}' :: rest) = .ok (false, '}' :: rest) := rfl
      rw [entries]
      exact bind_read last
  | @one s t u name v more value entered read others ih =>
      obtain ⟨rounds, rfl⟩ := Nat.exists_eq_add_of_lt enough
      rw [moreText_cons, entry_read entered read (moreText_bounds more rest)
        (moreEntries_next name v _)]
      exact ih (by simp only [List.length_cons]; omega)

theorem allEntries_read {s t : σ} {name : String} {v : Value} {more : List (String × Value)}
    (fills : Fills enter s ((name, v) :: more) t) (rest : List Char) :
    allEntries enter s (memberText name v ++ (moreText more ++ '}' :: rest)) = .ok (t, rest) := by
  cases fills with
  | one entered read others =>
      have enough : more.length < (memberText name v ++ (moreText more ++ '}' :: rest)).length := by
        have least := moreText_length more
        simp only [List.length_append, List.length_cons]
        omega
      have all (text : List Char) : (get : Reader (List Char)) text = .ok (text, text) := rfl
      unfold allEntries
      rw [bind_read (all _), entry_read entered read (moreText_bounds more rest)
        (moreEntries_first name v _)]
      exact entries_read others rest enough

end

namespace Shape

variable {σ : Type} {s : Shape σ}

theorem fills_member {p u : Partial σ} {m : Member σ} {key : String} {v : Value} {value : σ}
    {more : List (String × Value)} (known : s.members.find? (·.name = key) = some m)
    (fresh : p.seen.contains key = false)
    (read : ∀ rest, Bounds rest → m.read p.value (v.render.toList ++ rest) = .ok (value, rest))
    (others : Fills s.enter ⟨value, key :: p.seen⟩ more u) :
    Fills s.enter p ((key, v) :: more) u := by
  have entered (rest : List Char) : s.enter p key rest =
      .ok ((do return ⟨← m.read p.value, key :: p.seen⟩ : Reader (Partial σ)), rest) := by
    simp only [enter, known, fresh]
    rfl
  refine .one entered (fun rest bounds => ?_) others
  exact bind_read (read rest bounds)

-- A record is read from an object that has its required members, in whatever order they are.
theorem read_object {start : σ} {t : Partial σ} {name : String} {v : Value}
    {more : List (String × Value)} (fills : Fills s.enter ⟨start, []⟩ ((name, v) :: more) t)
    (full : s.members.find? (fun m => m.required && !t.seen.contains m.name) = none)
    (rest : List Char) :
    s.read start ((Value.object ((name, v) :: more)).render.toList ++ rest) =
      .ok (t.value, rest) := by
  rw [object_render, List.cons_append, List.append_assoc, List.append_assoc]
  unfold read
  rw [bind_read (token_read rfl _)]
  change (skip >>= fun _ => s.ofObject start) _ = _
  rw [bind_read (skip_read ..), List.singleton_append]
  unfold ofObject
  rw [bind_read (allEntries_read fills rest)]
  simp only [full]
  rfl

end Shape

end VmMonitor.Json
