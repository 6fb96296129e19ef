import Mathlib.Data.List.Forall2
import Mathlib.Data.Nat.Digits.Defs
import VmMonitor.Machine.Mac

/-!
Which texts are read as an Ethernet address, and as which. Six groups of one or two hexadecimal digits
with a colon between any two are, as they are documented. Beyond those, the groups may have leading
zeros and a plus sign, since a group is read as a number.
-/

namespace VmMonitor.MacAddress

open List (Forall₂)

-- The digits of either case, and what they stand for.
def hexadecimal : List (Char × Nat) :=
  [('0', 0), ('1', 1), ('2', 2), ('3', 3), ('4', 4), ('5', 5), ('6', 6), ('7', 7), ('8', 8),
    ('9', 9), ('a', 10), ('b', 11), ('c', 12), ('d', 13), ('e', 14), ('f', 15), ('A', 10),
    ('B', 11), ('C', 12), ('D', 13), ('E', 14), ('F', 15)]

-- The digits make up a numeral, the most significant first, and its value is `n`.
def Numeral (digits : List Char) (n : Nat) : Prop :=
  ∃ values, Forall₂ (fun c v => (c, v) ∈ hexadecimal) digits values ∧
    n = Nat.ofDigits 16 values.reverse

-- A group as it is documented.
def Plain (group : List Char) (b : UInt8) : Prop :=
  (group.length = 1 ∨ group.length = 2) ∧ Numeral group b.toNat

-- A group as it is accepted: a numeral for a byte, after a plus sign or none.
def Loose (group : List Char) (b : UInt8) : Prop :=
  ∃ digits, digits ≠ [] ∧ (group = digits ∨ group = '+' :: digits) ∧ Numeral digits b.toNat

-- The text has a group of this form for each of the six bytes, and a colon between any two.
def Written (form : List Char → UInt8 → Prop) (text : List Char) (a : MacAddress) : Prop :=
  ∃ groups, Forall₂ form groups a.bytes ∧ text = [':'].intercalate groups

theorem hexadecimal_digit {c : Char} {v : Nat} (listed : (c, v) ∈ hexadecimal) :
    digit? c = some v := by
  have all : ∀ entry ∈ hexadecimal, digit? entry.1 = some entry.2 := by decide
  exact all _ listed

theorem digit?_ascii {c : Char} {v : Nat} (read : digit? c = some v) : c.toNat < 128 := by
  by_contra beyond
  have past {d : Char} (ascii : d.toNat < 128) : ¬ c ≤ d :=
    fun below => beyond (Nat.lt_of_le_of_lt below ascii)
  unfold digit? at read
  rw [if_neg fun range => past (by decide) range.2, if_neg fun range => past (by decide) range.2,
    if_neg fun range => past (by decide) range.2] at read
  cases read

theorem digit?_iff {c : Char} {v : Nat} : digit? c = some v ↔ (c, v) ∈ hexadecimal := by
  refine ⟨fun read => ?_, hexadecimal_digit⟩
  have each : ∀ k < 128, (digit? (Char.ofNat k)).all
      fun v => decide ((Char.ofNat k, v) ∈ hexadecimal) := by decide
  have listed := each c.toNat (digit?_ascii read)
  rw [Char.ofNat_toNat, read] at listed
  exact of_decide_eq_true listed

theorem foldl_grows (values : List Nat) (start : Nat) :
    start ≤ values.foldl (fun total v => total * 16 + v) start := by
  induction values generalizing start with
  | nil => exact Nat.le_refl start
  | cons v rest ih => exact Nat.le_trans (by omega) (ih (start * 16 + v))

-- What is too large for a byte at one digit is too large at the end.
theorem readDigits_iff {digits : List Char} {start n : Nat} (small : start < 256) :
    readDigits start digits = .ok n ↔ n < 256 ∧ ∃ values,
      Forall₂ (fun c v => (c, v) ∈ hexadecimal) digits values ∧
        n = values.foldl (fun total v => total * 16 + v) start := by
  induction digits generalizing start with
  | nil =>
      constructor
      · intro read
        cases read
        exact ⟨small, [], .nil, rfl⟩
      · rintro ⟨-, _, ⟨⟩, rfl⟩
        rfl
  | cons c rest ih =>
      unfold readDigits
      cases met : digit? c with
      | none =>
          refine ⟨nofun, ?_⟩
          rintro ⟨-, values, whole, -⟩
          obtain ⟨v, others, listed, -, -⟩ := List.forall₂_cons_left_iff.mp whole
          rw [hexadecimal_digit listed] at met
          cases met
      | some d =>
          have value {v : Nat} (listed : (c, v) ∈ hexadecimal) : v = d :=
            Option.some.inj ((hexadecimal_digit listed).symm.trans met)
          dsimp only
          by_cases next : start * 16 + d < 256
          · rw [if_pos next, ih next]
            constructor
            · rintro ⟨byte, values, spelled, total⟩
              exact ⟨byte, d :: values, .cons (digit?_iff.mp met) spelled, total⟩
            · rintro ⟨byte, values, whole, total⟩
              obtain ⟨v, others, listed, spelled, rfl⟩ := List.forall₂_cons_left_iff.mp whole
              cases value listed
              exact ⟨byte, others, spelled, total⟩
          · rw [if_neg next]
            refine ⟨nofun, ?_⟩
            rintro ⟨byte, values, whole, total⟩
            obtain ⟨v, others, listed, -, rfl⟩ := List.forall₂_cons_left_iff.mp whole
            cases value listed
            have grown := foldl_grows others (start * 16 + d)
            rw [List.foldl_cons] at total
            omega

theorem numeral_iff {digits : List Char} {n : Nat} :
    Numeral digits n ↔ ∃ values, Forall₂ (fun c v => (c, v) ∈ hexadecimal) digits values ∧
      n = values.foldl (fun total v => total * 16 + v) 0 := by
  refine exists_congr fun values => and_congr_right fun _ => ?_
  rw [Nat.ofDigits_eq_foldr, List.foldr_reverse]
  simp only [Nat.cast_id, Nat.add_comm, Nat.mul_comm]

theorem readDigits_byte {digits : List Char} {b : UInt8} :
    (readDigits 0 digits).map UInt8.ofNat = .ok b ↔ Numeral digits b.toNat := by
  have inside := b.toNat_lt
  rw [numeral_iff]
  constructor
  · intro read
    cases met : readDigits 0 digits with
    | error e => rw [met] at read; cases read
    | ok n =>
        rw [met] at read
        cases read
        obtain ⟨byte, spelled⟩ := (readDigits_iff (by decide)).mp met
        rwa [UInt8.toNat_ofNat_of_lt' byte]
  · intro spelled
    rw [(readDigits_iff (by decide)).mpr ⟨inside, spelled⟩]
    exact congrArg Except.ok (UInt8.ofNat_toNat ..)

-- Neither signs nor separators are digits.
theorem numeral_free {digits : List Char} {n : Nat} (numeral : Numeral digits n) :
    '+' ∉ digits ∧ ':' ∉ digits := by
  obtain ⟨values, spelled, -⟩ := numeral
  have each : ∀ entry ∈ hexadecimal, entry.1 ≠ '+' ∧ entry.1 ≠ ':' := by decide
  have free : Forall₂ (fun c v => (c ≠ '+' ∧ c ≠ ':') ∧ (c, v) ∈ hexadecimal) digits values :=
    spelled.imp fun _ _ listed => ⟨each _ listed, listed⟩
  have digit := (List.forall₂_and_left _ _).mp free |>.1
  exact ⟨fun here => (digit _ here).1 rfl, fun here => (digit _ here).2 rfl⟩

theorem readByte_iff {group : List Char} {b : UInt8} : readByte group = .ok b ↔ Loose group b := by
  unfold readByte
  split
  · refine ⟨nofun, ?_⟩
    rintro ⟨digits, some, same | same, -⟩
    · exact absurd same.symm some
    · cases same
  · refine ⟨nofun, ?_⟩
    rintro ⟨_, some, rfl | same, numeral⟩
    · exact absurd List.mem_cons_self (numeral_free numeral).1
    · cases same
      exact absurd rfl some
  · rename_i digits more
    rw [readDigits_byte]
    constructor
    · exact fun numeral => ⟨digits, fun none => more (by rw [none]), .inr rfl, numeral⟩
    · rintro ⟨_, -, rfl | same, numeral⟩
      · exact absurd List.mem_cons_self (numeral_free numeral).1
      · cases same
        exact numeral
  · rename_i some _ unsigned
    rw [readDigits_byte]
    constructor
    · exact fun numeral => ⟨group, some, .inl rfl, numeral⟩
    · rintro ⟨digits, -, rfl | rfl, numeral⟩
      · exact numeral
      · exact absurd rfl (unsigned digits)

theorem readGroups_iff {n : Nat} {parts : List (List Char)}
    {bs : { bs : List UInt8 // bs.length = n }} :
    readGroups n parts = .ok bs ↔ Forall₂ Loose parts bs.val := by
  obtain ⟨bs, length⟩ := bs
  dsimp only
  induction n generalizing parts bs with
  | zero =>
      cases List.eq_nil_of_length_eq_zero length
      cases parts with
      | nil => exact ⟨fun _ => .nil, fun _ => rfl⟩
      | cons part rest => exact ⟨nofun, nofun⟩
  | succ n ih =>
      obtain ⟨b, bs, rfl⟩ := List.exists_cons_of_length_eq_add_one length
      cases parts with
      | nil => exact ⟨nofun, nofun⟩
      | cons part rest =>
          rw [List.forall₂_cons, ← readByte_iff]
          unfold readGroups
          cases first : readByte part with
          | error cause => exact ⟨nofun, fun both => nomatch both.1⟩
          | ok c =>
              dsimp only
              cases others : readGroups n rest with
              | error e =>
                  refine ⟨nofun, fun both => ?_⟩
                  rw [(ih bs (Nat.succ.inj length)).mpr both.2] at others
                  cases others
              | ok cs =>
                  rw [← ih bs (Nat.succ.inj length), others]
                  simp [Subtype.ext_iff]

theorem split_eq (separator : Char) (text : List Char) :
    Text.split separator text = text.splitOn separator := by
  induction text with
  | nil => rfl
  | cons c rest ih =>
      rw [List.splitOn_cons_eq_if_modifyHead, ← ih]
      rw [Text.split]
      by_cases here : c = separator
      · rw [if_pos here, if_pos (beq_iff_eq.mpr here)]
      · rw [if_neg here, if_neg (by simpa using here)]
        obtain ⟨first, others, parts⟩ := List.exists_cons_of_ne_nil (Text.split_ne_nil separator rest)
        simp [parts]

theorem parse_iff {text : List Char} {a : MacAddress} :
    parse text = .ok a ↔ Forall₂ Loose (text.splitOn ':') a.bytes := by
  obtain ⟨bytes, length⟩ := a
  have read : readGroups 6 (text.splitOn ':') = .ok ⟨bytes, length⟩ ↔ _ := readGroups_iff
  rw [← read, ← split_eq]
  unfold parse
  cases readGroups 6 (Text.split ':' text) with
  | error e => exact ⟨nofun, nofun⟩
  | ok bs => simp [Subtype.ext_iff]

-- Where no group can have a colon in it, there is but one way to cut the text.
theorem written_iff {form : List Char → UInt8 → Prop}
    (free : ∀ group b, form group b → ':' ∉ group) {text : List Char} {a : MacAddress} :
    Written form text a ↔ Forall₂ form (text.splitOn ':') a.bytes := by
  constructor
  · rintro ⟨groups, formed, rfl⟩
    have apart : Forall₂ (fun group b => ':' ∉ group ∧ form group b) groups a.bytes :=
      formed.imp fun group b one => ⟨free group b one, one⟩
    have some : groups ≠ [] := by
      rintro rfl
      have six := formed.length_eq.trans a.length_bytes
      cases six
    rwa [List.splitOn_intercalate ':' ((List.forall₂_and_left _ _).mp apart).1 some]
  · exact fun formed => ⟨_, formed, (List.intercalate_splitOn ':').symm⟩

theorem loose_free {group : List Char} {b : UInt8} (loose : Loose group b) : ':' ∉ group := by
  obtain ⟨digits, -, rfl | rfl, numeral⟩ := loose
  · exact (numeral_free numeral).2
  · simpa using (numeral_free numeral).2

-- The documented groups are those without a sign and of at most two characters.
theorem plain_iff {group : List Char} {b : UInt8} :
    Plain group b ↔ ('+' ∉ group ∧ group.length ≤ 2) ∧ Loose group b := by
  constructor
  · rintro ⟨size, numeral⟩
    refine ⟨⟨(numeral_free numeral).1, by omega⟩, group, ?_, .inl rfl, numeral⟩
    rintro rfl
    simp at size
  · rintro ⟨⟨unsigned, short⟩, digits, some, rfl | rfl, numeral⟩
    · have positive := List.length_pos_iff.mpr some
      exact ⟨by omega, numeral⟩
    · exact absurd List.mem_cons_self unsigned

theorem parse_written {text : List Char} {a : MacAddress} :
    parse text = .ok a ↔ Written Loose text a := by
  rw [parse_iff, written_iff fun _ _ => loose_free]

theorem plain_written {text : List Char} {a : MacAddress} :
    Written Plain text a ↔ (∀ group ∈ text.splitOn ':', '+' ∉ group ∧ group.length ≤ 2) ∧
      parse text = .ok a := by
  rw [written_iff fun _ _ plain => loose_free (plain_iff.mp plain).2, parse_iff,
    ← List.forall₂_and_left]
  simp only [plain_iff]

-- What is accepted is what is written in the loose form, as the bytes that the groups stand for. So
-- every address of the documented form is, and beyond these just what has a sign or a long group.
theorem parse_exact (s : String) (a : MacAddress) :
    (parse s.toList = .ok a ↔ Written Loose s.toList a) ∧
    (Written Plain s.toList a ↔ parse s.toList = .ok a ∧
      ∀ group ∈ s.toList.splitOn ':', '+' ∉ group ∧ group.length ≤ 2) :=
  ⟨parse_written, plain_written.trans and_comm⟩

def signed : String := "+f:1:1:1:1:1"

def padded : String := "001:2:3:4:5:6"

-- A sign before a digit and zeros before two pass, where the documented form has neither.
theorem parse_beyond :
    (parse signed.toList = .ok ⟨[15, 1, 1, 1, 1, 1], rfl⟩ ∧ ∀ a, ¬ Written Plain signed.toList a) ∧
    parse padded.toList = .ok ⟨[1, 2, 3, 4, 5, 6], rfl⟩ ∧ ∀ a, ¬ Written Plain padded.toList a := by
  have sign : ['+', 'f'] ∈ signed.toList.splitOn ':' := by decide
  have zeros : ['0', '0', '1'] ∈ padded.toList.splitOn ':' := by decide
  refine ⟨⟨by decide, fun a plain => ?_⟩, by decide, fun a plain => ?_⟩
  · exact (plain_written.mp plain).1 _ sign |>.1 List.mem_cons_self
  · exact absurd ((plain_written.mp plain).1 _ zeros).2 (by decide)

end VmMonitor.MacAddress
