import VmMonitor.Machine.Device
import VmMonitor.Proofs.Bits
import VmMonitor.Proofs.Bus.Asked
import VmMonitor.Proofs.Bus.Owner
import VmMonitor.Proofs.Device.Distributor
import VmMonitor.Proofs.Device.PowerOn
import VmMonitor.Proofs.Gic.Lines

/-!
The registers of the distributor, bit by bit. At each offset of the banks a bit of what is read is one
bit of one line, and a store asks something of just those lines that its bits or bytes are for.

The words of the trigger bank make one exception. One that begins among the software interrupts is
taken for a word of software interrupts alone, and a distributor whose window does not begin at a
multiple of four has words that begin there and end past them.
-/

namespace VmMonitor

open Bits

namespace Distributor

-- The offsets of the banks.
def Banked (offset : Nat) : Prop := 0x100 ≤ offset ∧ offset < 0xd00

-- Byte maps take bytes, and every bank takes words.
def Takes (offset : Nat) (width : Width) : Prop :=
  width = .word ∨ width = .byte ∧ 0x400 ≤ offset ∧ offset < 0xc00

-- A word of triggers begins among the software interrupts and ends past them.
def Straddles (offset : Nat) : Prop := 0xc00 < offset ∧ offset < 0xc04

instance (offset : Nat) : Decidable (Straddles offset) := inferInstanceAs (Decidable (_ ∧ _))

def shownTarget (g : Gic) (n : Nat) : UInt8 :=
  if n < 32 then 1 else (g.line? n).elim 0 (·.target)

-- Bit `i` of what the guest reads.
def shows (g : Gic) (offset i : Nat) : Bool :=
  if offset < 0x200 then (g.line? (offset % 0x80 * 8 + i)).any (·.enabled)
  else if offset < 0x300 then (g.line? (offset % 0x80 * 8 + i)).any (·.state.isPending)
  else if offset < 0x400 then (g.line? (offset % 0x80 * 8 + i)).any (·.state.isActive)
  else if offset < 0x800 then
    ((g.line? (offset - 0x400 + i / 8)).elim 0 (·.priority)).toNat.testBit (i % 8)
  else if offset < 0xc00 then (shownTarget g (offset - 0x800 + i / 8)).toNat.testBit (i % 8)
  else
    let n := (offset - 0xc00) * 4 + i / 2
    i % 2 = 1 && (n < 16 || (g.line? n).any (·.trigger = .edge))

-- What a bit that is one asks of its line.
def bitAsks (offset n : Nat) : Gic.Request :=
  if offset < 0x180 then .enable n
  else if offset < 0x200 then .disable n
  else if offset < 0x280 then .assert n
  else if offset < 0x300 then .clearPending n
  else if offset < 0x380 then .acknowledge n
  else .deactivate n

-- The byte of a stored value that is for line `n`.
def byteFor (value : UInt64) (first n : Nat) : UInt8 := .ofNat (field value.toNat (8 * (n - first)) 8)

-- What a store asks of line `n`.
def asks (offset : Nat) (width : Width) (value : UInt64) (n : Nat) : Option Gic.Request :=
  if offset < 0x400 then
    let first := offset % 0x80 * 8
    if first ≤ n ∧ n < first + 32 ∧ value.toNat.testBit (n - first) then some (bitAsks offset n)
    else none
  else if offset < 0x800 then
    let first := offset - 0x400
    if first ≤ n ∧ n < first + width.bytes then some (.setPriority n (byteFor value first n))
    else none
  else if offset < 0xc00 then
    let first := offset - 0x800
    if 32 ≤ n ∧ first ≤ n ∧ n < first + width.bytes then
      some (.setTarget n (byteFor value first n))
    else none
  else
    let first := (offset - 0xc00) * 4
    if 16 ≤ n ∧ first ≤ n ∧ n < first + 16 then
      some (.setTrigger n (if value.toNat.testBit (2 * (n - first) + 1) then .edge else .level))
    else none

-- The bank at each offset, and the first line of its register there.
inductive Place (offset : Nat) : Bank → Prop where
  | setEnable (inside : 0x100 ≤ offset ∧ offset < 0x180) :
      Place offset (.setEnable (offset % 0x80 * 8))
  | clearEnable (inside : 0x180 ≤ offset ∧ offset < 0x200) :
      Place offset (.clearEnable (offset % 0x80 * 8))
  | setPending (inside : 0x200 ≤ offset ∧ offset < 0x280) :
      Place offset (.setPending (offset % 0x80 * 8))
  | clearPending (inside : 0x280 ≤ offset ∧ offset < 0x300) :
      Place offset (.clearPending (offset % 0x80 * 8))
  | setActive (inside : 0x300 ≤ offset ∧ offset < 0x380) :
      Place offset (.setActive (offset % 0x80 * 8))
  | clearActive (inside : 0x380 ≤ offset ∧ offset < 0x400) :
      Place offset (.clearActive (offset % 0x80 * 8))
  | priority (inside : 0x400 ≤ offset ∧ offset < 0x800) : Place offset (.priority (offset - 0x400))
  | target (inside : 0x800 ≤ offset ∧ offset < 0xc00) : Place offset (.target (offset - 0x800))
  | trigger (inside : 0xc00 ≤ offset ∧ offset < 0xd00) :
      Place offset (.trigger ((offset - 0xc00) * 4))

theorem Place.ite {offset : Nat} {c : Prop} [Decidable c] {x y : Bank} (pos : c → Place offset x)
    (neg : ¬ c → Place offset y) : Place offset (if c then x else y) := by
  split
  · exact pos ‹_›
  · exact neg ‹_›

theorem Banked.place {offset : Nat} (banked : Banked offset) : Place offset (Bank.of offset) := by
  obtain ⟨above, below⟩ := banked
  have first {base : Nat} (inside : base ≤ offset ∧ offset < base + 0x80) (whole : base % 0x80 = 0) :
      (offset - base) * 8 = offset % 0x80 * 8 := by omega
  have half : (offset - 0xc00) * 8 / 2 = (offset - 0xc00) * 4 := by omega
  refine .ite (fun inside => by omega) fun _ => ?_
  refine .ite (fun inside => by omega) fun _ => ?_
  refine .ite (fun inside => by omega) fun _ => ?_
  refine .ite (fun inside => ?_) fun _ => ?_
  · rw [first inside rfl]
    exact .setEnable inside
  refine .ite (fun inside => ?_) fun _ => ?_
  · rw [first inside rfl]
    exact .clearEnable inside
  refine .ite (fun inside => ?_) fun _ => ?_
  · rw [first inside rfl]
    exact .setPending inside
  refine .ite (fun inside => ?_) fun _ => ?_
  · rw [first inside rfl]
    exact .clearPending inside
  refine .ite (fun inside => ?_) fun _ => ?_
  · rw [first inside rfl]
    exact .setActive inside
  refine .ite (fun inside => ?_) fun _ => ?_
  · rw [first inside rfl]
    exact .clearActive inside
  refine .ite (fun inside => .priority inside) fun _ => ?_
  refine .ite (fun inside => .target inside) fun _ => ?_
  refine .ite (fun inside => ?_) fun _ => by omega
  rw [half]
  exact .trigger inside

-- What is read, bit by bit.

theorem bit_toNat {i : Nat} (small : i < 64) : (bit true i).toNat = 2 ^ i := by
  have below : 2 ^ i < 2 ^ 64 := Nat.pow_lt_pow_right (by decide) small
  unfold bit
  rw [if_pos rfl, UInt64.toNat_shiftLeft, shift_toNat small, UInt64.toNat_one,
    Nat.one_shiftLeft, Nat.mod_eq_of_lt below]

theorem bit_bit (set : Bool) {i : Nat} (small : i < 64) (j : Nat) :
    (bit set i).toNat.testBit j = (set && decide (i = j)) := by
  cases set with
  | true => rw [bit_toNat small, Nat.testBit_two_pow, Bool.true_and]
  | false => exact Nat.zero_testBit j

theorem readBits_bit (g : Gic) (first : Nat) (p : Gic.Line → Bool) {j : Nat} (inside : j < 32) :
    (readBits g first p).toNat.testBit j = (g.line? (first + j)).any p :=
  assembled_bit (p := fun i => (g.line? (first + i)).any p) inside
    fun _ listed => bit_bit _ (Nat.lt_trans listed (by decide)) j

theorem readBytes_bit (g : Gic) (first : Nat) {count : Nat} (few : count ≤ 8)
    (f : Gic.Line → UInt8) {j : Nat} (inside : j / 8 < count) :
    (readBytes g first count f).toNat.testBit j =
      ((g.line? (first + j / 8)).elim 0 f).toNat.testBit (j % 8) :=
  assembled_bit (p := fun i => ((g.line? (first + i)).elim 0 f).toNat.testBit (j % 8)) inside
    fun _ listed => byte_bit _ (Nat.lt_of_lt_of_le listed few) j

theorem kind_software {n : Nat} : Gic.Kind.of n = .software ↔ n < 16 := by
  unfold Gic.Kind.of Gic.numSoftware
  split
  · simp [*]
  · split <;> simp [*]

theorem readTriggers_bit (g : Gic) {first : Nat} (past : 16 ≤ first) {j : Nat}
    (inside : j / 2 < 16) :
    (readTriggers g first).toNat.testBit j =
      (decide (j % 2 = 1) && (g.line? (first + j / 2)).any (·.trigger = .edge)) := by
  have other : Gic.Kind.of first ≠ .software := fun kind => by
    have below := kind_software.mp kind
    omega
  let edge (i : Nat) : Bool :=
    decide (j % 2 = 1) && (g.line? (first + i)).any (·.trigger = .edge)
  unfold readTriggers
  rw [if_neg other]
  refine assembled_bit (p := edge) inside fun i listed => ?_
  have place : (2 * i + 1 = j) ↔ (j % 2 = 1 ∧ i = j / 2) := by omega
  rw [bit_bit _ (by omega), decide_eq_decide.mpr place, Bool.decide_and, Bool.and_left_comm,
    ← Bool.and_assoc]

-- The software interrupts are edge triggered.
theorem softwareTriggers_bit : ∀ j < 32,
    softwareTriggers.toNat.testBit j = decide (j % 2 = 1) := by
  decide

theorem kind_shared {n : Nat} : Gic.Kind.of n = .spi ↔ 32 ≤ n := by
  unfold Gic.Kind.of Gic.numSoftware Gic.numPrivate
  split
  · simp
    omega
  · split <;> simp <;> omega

theorem target_shown {g : Gic} (numbered : g.Numbered) (n : Nat) :
    (g.line? n).elim 0 lineTarget = shownTarget g n := by
  unfold shownTarget
  cases found : g.line? n with
  | none =>
      have past : ¬ n < 32 := fun own => by
        have listed : n < Gic.numLines := Nat.lt_trans own (by decide)
        obtain ⟨l, there⟩ := Gic.line_found g listed
        rw [there] at found
        cases found
      rw [if_neg past]
      rfl
  | some l =>
      change (if Gic.Kind.of l.number = .spi then l.target else 1) = _
      rw [numbered n l found]
      by_cases own : n < 32
      · rw [if_pos own, if_neg (by rw [kind_shared]; omega)]
      · rw [if_neg own, if_pos (by rw [kind_shared]; omega)]
        rfl

theorem lineValue_bit {g : Gic} {offset : Nat} {width : Width} (numbered : g.Numbered)
    (banked : Banked offset) (takes : Takes offset width) (apart : ¬ Straddles offset) {i : Nat}
    (inside : i < 8 * width.bytes) :
    ((Bank.of offset).lineValue g width).toNat.testBit i = shows g offset i := by
  have word (wide : offset < 0x400 ∨ 0xc00 ≤ offset) : i < 32 := by
    rcases takes with rfl | ⟨_, above, below⟩
    · exact inside
    · omega
  have byte : i / 8 < width.bytes := by omega
  have place := banked.place
  generalize Bank.of offset = bank at place ⊢
  unfold shows
  cases place with
  | setEnable within | clearEnable within =>
      rw [if_pos (by omega)]
      exact readBits_bit _ _ _ (word (by omega))
  | setPending within | clearPending within =>
      rw [if_neg (by omega), if_pos (by omega)]
      exact readBits_bit _ _ _ (word (by omega))
  | setActive within | clearActive within =>
      rw [if_neg (by omega), if_neg (by omega), if_pos (by omega)]
      exact readBits_bit _ _ _ (word (by omega))
  | priority within =>
      rw [if_neg (by omega), if_neg (by omega), if_neg (by omega), if_pos (by omega)]
      exact readBytes_bit g _ width.bytes_le _ byte
  | target within =>
      rw [if_neg (by omega), if_neg (by omega), if_neg (by omega), if_neg (by omega),
        if_pos (by omega), ← target_shown numbered]
      exact readBytes_bit g _ width.bytes_le _ byte
  | trigger within =>
      have half : i / 2 < 16 := by have := word (by omega); omega
      rw [if_neg (by omega), if_neg (by omega), if_neg (by omega), if_neg (by omega),
        if_neg (by omega)]
      dsimp only
      by_cases software : offset = 0xc00
      · subst software
        have own : (0xc00 - 0xc00) * 4 + i / 2 < 16 := by omega
        rw [decide_eq_true own, Bool.true_or, Bool.and_true]
        exact softwareTriggers_bit i (word (by omega))
      · have past : 16 ≤ (offset - 0xc00) * 4 := by unfold Straddles at apart; omega
        have other : ¬ (offset - 0xc00) * 4 + i / 2 < 16 := by omega
        rw [decide_eq_false other, Bool.false_or]
        exact readTriggers_bit g past half

-- What a store asks, line by line.

theorem asks_chosen {first count : Nat} {q : Nat → Bool} {make : Nat → Gic.Request}
    {ask : Nat → Option Gic.Request} (own : ∀ i, q i = true → (make i).subject = some (first + i))
    (inside : ∀ n r, ask n = some r → first ≤ n ∧ n < first + count)
    (chosen : ∀ i < count, ∀ r, (first + i < Gic.numLines ∧ ask (first + i) = some r) ↔
      (q i = true ∧ make i = r)) :
    Gic.Asks (((List.range count).filter q).map make) ask := by
  refine ⟨fun r => ?_, ?_⟩
  · simp only [List.mem_map, List.mem_filter, List.mem_range]
    constructor
    · rintro ⟨i, ⟨within, picked⟩, same⟩
      obtain ⟨listed, asked⟩ := (chosen i within r).mpr ⟨picked, same⟩
      exact ⟨first + i, listed, asked⟩
    · rintro ⟨n, listed, asked⟩
      obtain ⟨above, below⟩ := inside n r asked
      obtain ⟨i, rfl⟩ := Nat.exists_eq_add_of_le above
      obtain ⟨picked, same⟩ := (chosen i (by omega) r).mp ⟨listed, asked⟩
      exact ⟨i, ⟨by omega, picked⟩, same⟩
  · refine List.Nodup.map_on (fun i here j there same => ?_) (List.nodup_range.filter q)
    have subjects := congrArg Gic.Request.subject same
    rw [own i (List.mem_filter.mp here).2, own j (List.mem_filter.mp there).2] at subjects
    exact Nat.add_left_cancel (Option.some.inj subjects)

theorem bitRequests_asks {first : Nat} {value : UInt64} {make : Nat → Gic.Request}
    {ask : Nat → Option Gic.Request} (own : ∀ n, (make n).subject = some n)
    (asked : ∀ n, ask n = if first ≤ n ∧ n < first + 32 ∧ value.toNat.testBit (n - first) then
      some (make n) else none) : Gic.Asks (bitRequests first value make) ask := by
  refine asks_chosen (fun i _ => own _) (fun n r some => ?_) fun i within r => ?_
  · rw [asked, Option.ite_none_right_eq_some] at some
    exact ⟨some.1.1, some.1.2.1⟩
  · rw [asked, Option.ite_none_right_eq_some, flag (i := i) (bit_toNat (by omega)),
      Nat.add_sub_cancel_left]
    simp only [Bool.and_eq_true, decide_eq_true_eq, Option.some.injEq]
    constructor
    · rintro ⟨listed, ⟨_, _, set⟩, same⟩
      exact ⟨⟨set, listed⟩, same⟩
    · rintro ⟨⟨set, listed⟩, same⟩
      exact ⟨listed, ⟨by omega, by omega, set⟩, same⟩

theorem byteOf_for (value : UInt64) (first : Nat) {i : Nat} (small : i < 8) :
    byteOf value i = byteFor value first (first + i) := by
  have shift : (UInt64.ofNat (8 * i)).toNat % 64 = 8 * i := shift_toNat (by omega)
  unfold byteOf byteFor field
  rw [Nat.add_sub_cancel_left, ← UInt8.toNat_inj, UInt64.toNat_toUInt8, UInt64.toNat_shiftRight,
    shift, Nat.shiftRight_eq_div_pow, UInt8.toNat_ofNat', Nat.mod_mod]

theorem priorityRequests_asks {first count : Nat} (few : count ≤ 8) (value : UInt64) :
    Gic.Asks (priorityRequests first count value) fun n =>
      if first ≤ n ∧ n < first + count then some (.setPriority n (byteFor value first n))
      else none := by
  refine asks_chosen (fun i _ => rfl) (fun n r some => ?_) fun i within r => ?_
  · rw [Option.ite_none_right_eq_some] at some
    exact some.1
  · rw [Option.ite_none_right_eq_some, byteOf_for value first (by omega)]
    simp only [decide_eq_true_eq, Option.some.injEq]
    constructor
    · rintro ⟨listed, _, same⟩
      exact ⟨listed, same⟩
    · rintro ⟨listed, same⟩
      exact ⟨listed, ⟨by omega, by omega⟩, same⟩

-- Lines of the processor alone are left out.
theorem targetRequests_asks {first count : Nat} (few : count ≤ 8) (value : UInt64) :
    Gic.Asks (targetRequests first count value) fun n =>
      if 32 ≤ n ∧ first ≤ n ∧ n < first + count then some (.setTarget n (byteFor value first n))
      else none := by
  have own (i : Nat) (picked : (Gic.numPrivate ≤ first + i && first + i < Gic.numLines) = true) :
      (Gic.Request.setTarget (first + i) (byteOf value i)).subject = some (first + i) := by
    have shared := of_decide_eq_true (Bool.and_eq_true_iff.mp picked).1
    exact if_neg (Nat.not_lt.mpr shared)
  refine asks_chosen own (fun n r some => ?_) fun i within r => ?_
  · rw [Option.ite_none_right_eq_some] at some
    exact some.1.2
  · rw [Option.ite_none_right_eq_some, byteOf_for value first (by omega)]
    simp only [Bool.and_eq_true, decide_eq_true_eq, Option.some.injEq]
    constructor
    · rintro ⟨listed, ⟨shared, _⟩, same⟩
      exact ⟨⟨shared, listed⟩, same⟩
    · rintro ⟨⟨shared, listed⟩, same⟩
      exact ⟨listed, ⟨shared, by omega, by omega⟩, same⟩

theorem triggerRequests_asks {first : Nat} (past : 16 ≤ first) (value : UInt64) :
    Gic.Asks (triggerRequests first value) fun n =>
      if 16 ≤ n ∧ first ≤ n ∧ n < first + 16 then
        some (.setTrigger n
          (if value.toNat.testBit (2 * (n - first) + 1) then .edge else .level))
      else none := by
  have other : Gic.Kind.of first ≠ .software := fun kind => by
    have below := kind_software.mp kind
    omega
  unfold triggerRequests
  rw [if_neg other]
  refine asks_chosen (fun i _ => rfl) (fun n r some => ?_) fun i within r => ?_
  · rw [Option.ite_none_right_eq_some] at some
    exact some.1.2
  · rw [Option.ite_none_right_eq_some, flag (i := 2 * i + 1) (bit_toNat (by omega)),
      Nat.add_sub_cancel_left]
    simp only [decide_eq_true_eq, Option.some.injEq]
    constructor
    · rintro ⟨listed, _, same⟩
      exact ⟨listed, same⟩
    · rintro ⟨listed, same⟩
      exact ⟨listed, ⟨by omega, by omega, by omega⟩, same⟩

theorem triggerRequests_software {first : Nat} (software : first < 16) (value : UInt64) :
    triggerRequests first value = [] :=
  if_pos (kind_software.mpr software)

theorem asks_nothing {ask : Nat → Option Gic.Request} (none : ∀ n, ask n = .none) :
    Gic.Asks [] ask :=
  ⟨fun r => ⟨nofun, fun ⟨n, _, asked⟩ => by rw [none n] at asked; cases asked⟩, .nil⟩

theorem bitAsks_subject (offset n : Nat) : (bitAsks offset n).subject = some n := by
  unfold bitAsks
  repeat' split
  all_goals rfl

theorem asks_subject {offset : Nat} {width : Width} {value : UInt64} {n : Nat} {r : Gic.Request}
    (asked : asks offset width value n = some r) : r.subject = some n := by
  unfold asks at asked
  split at asked
  · obtain ⟨_, same⟩ := Option.ite_none_right_eq_some.mp asked
    cases same
    exact bitAsks_subject offset n
  split at asked
  · obtain ⟨_, same⟩ := Option.ite_none_right_eq_some.mp asked
    cases same
    rfl
  split at asked
  · obtain ⟨⟨shared, _⟩, same⟩ := Option.ite_none_right_eq_some.mp asked
    cases same
    exact if_neg (Nat.not_lt.mpr shared)
  · obtain ⟨_, same⟩ := Option.ite_none_right_eq_some.mp asked
    cases same
    rfl

theorem bitRequests_bank {offset : Nat} {make : Nat → Gic.Request} (low : offset < 0x400)
    (made : ∀ n, bitAsks offset n = make n) (width : Width) (value : UInt64) :
    Gic.Asks (bitRequests (offset % 0x80 * 8) value make) (asks offset width value) := by
  refine bitRequests_asks (fun n => made n ▸ bitAsks_subject offset n) fun n => ?_
  unfold asks
  rw [if_pos low, ← made]

theorem requests_asks {offset : Nat} (banked : Banked offset) (apart : ¬ Straddles offset)
    (width : Width) (value : UInt64) :
    Gic.Asks ((Bank.of offset).requests width value) (asks offset width value) := by
  have place := banked.place
  generalize Bank.of offset = bank at place ⊢
  cases place with
  | setEnable within =>
      refine bitRequests_bank (by omega) (fun n => ?_) width value
      rw [bitAsks, if_pos (by omega)]
  | clearEnable within =>
      refine bitRequests_bank (by omega) (fun n => ?_) width value
      rw [bitAsks, if_neg (by omega), if_pos (by omega)]
  | setPending within =>
      refine bitRequests_bank (by omega) (fun n => ?_) width value
      rw [bitAsks, if_neg (by omega), if_neg (by omega), if_pos (by omega)]
  | clearPending within =>
      refine bitRequests_bank (by omega) (fun n => ?_) width value
      rw [bitAsks, if_neg (by omega), if_neg (by omega), if_neg (by omega), if_pos (by omega)]
  | setActive within =>
      refine bitRequests_bank (by omega) (fun n => ?_) width value
      rw [bitAsks, if_neg (by omega), if_neg (by omega), if_neg (by omega), if_neg (by omega),
        if_pos (by omega)]
  | clearActive within =>
      refine bitRequests_bank (by omega) (fun n => ?_) width value
      rw [bitAsks, if_neg (by omega), if_neg (by omega), if_neg (by omega), if_neg (by omega),
        if_neg (by omega)]
  | priority within =>
      have same : asks offset width value = fun n =>
          if offset - 0x400 ≤ n ∧ n < offset - 0x400 + width.bytes then
            some (.setPriority n (byteFor value (offset - 0x400) n))
          else none := by
        funext n
        rw [asks, if_neg (by omega), if_pos (by omega)]
      rw [same]
      exact priorityRequests_asks width.bytes_le value
  | target within =>
      have same : asks offset width value = fun n =>
          if 32 ≤ n ∧ offset - 0x800 ≤ n ∧ n < offset - 0x800 + width.bytes then
            some (.setTarget n (byteFor value (offset - 0x800) n))
          else none := by
        funext n
        rw [asks, if_neg (by omega), if_neg (by omega), if_pos (by omega)]
      rw [same]
      exact targetRequests_asks width.bytes_le value
  | trigger within =>
      have same : asks offset width value = fun n =>
          if 16 ≤ n ∧ (offset - 0xc00) * 4 ≤ n ∧ n < (offset - 0xc00) * 4 + 16 then
            some (.setTrigger n
              (if value.toNat.testBit (2 * (n - (offset - 0xc00) * 4) + 1) then .edge else .level))
          else none := by
        funext n
        rw [asks, if_neg (by omega), if_neg (by omega), if_neg (by omega)]
      by_cases software : (offset - 0xc00) * 4 < 16
      · change Gic.Asks (triggerRequests _ value) _
        rw [triggerRequests_software software, same]
        refine asks_nothing fun n => if_neg ?_
        unfold Straddles at apart
        omega
      · rw [same]
        exact triggerRequests_asks (Nat.not_lt.mp software) value

-- A word that straddles is a word of software interrupts.

theorem straddles_bank {offset : Nat} (straddles : Straddles offset) :
    Bank.of offset = .trigger ((offset - 0xc00) * 4) ∧ (offset - 0xc00) * 4 < 16 := by
  obtain ⟨above, below⟩ := straddles
  have banked : Banked offset := ⟨by omega, by omega⟩
  have place := banked.place
  generalize Bank.of offset = bank at place ⊢
  cases place with
  | trigger within => exact ⟨rfl, by omega⟩
  | _ within => omega

theorem lineValue_straddles {g : Gic} {offset : Nat} {width : Width}
    (straddles : Straddles offset) (takes : Takes offset width) {i : Nat}
    (inside : i < 8 * width.bytes) :
    ((Bank.of offset).lineValue g width).toNat.testBit i = decide (i % 2 = 1) := by
  obtain ⟨bank, software⟩ := straddles_bank straddles
  have word : i < 32 := by
    rcases takes with rfl | ⟨_, _, below⟩
    · exact inside
    · unfold Straddles at straddles
      omega
  have pattern : (Bank.of offset).lineValue g width = softwareTriggers := by
    rw [bank, Bank.lineValue, readTriggers, if_pos (kind_software.mpr software)]
  rw [pattern, softwareTriggers_bit i word]

theorem requests_performed {offset : Nat} (banked : Banked offset) (width : Width)
    (value : UInt64) (g : Gic) :
    Gic.Performed g (((Bank.of offset).requests width value).foldl Gic.apply g)
      (if Straddles offset then fun _ => none else asks offset width value) := by
  by_cases straddles : Straddles offset
  · obtain ⟨bank, software⟩ := straddles_bank straddles
    have nothing : (Bank.of offset).requests width value = [] := by
      rw [bank]
      exact triggerRequests_software software value
    rw [if_pos straddles, nothing]
    exact (asks_nothing fun _ => rfl).performed nofun nofun g
  · rw [if_neg straddles]
    exact (requests_asks banked straddles width value).performed (fun _ _ => asks_subject)
      (fun _ => requests_silent _) g

variable {d : Distributor} {b : Board} {a : Access} {value : UInt64}

theorem takes_allows {offset : Nat} {width : Width} (banked : Banked offset)
    (takes : Takes offset width) : (Bank.of offset).allows width = true := by
  have place := banked.place
  generalize Bank.of offset = bank at place ⊢
  cases place with
  | priority within | target within =>
      rcases takes with rfl | ⟨rfl, _⟩ <;> rfl
  | _ within =>
      rcases takes with rfl | ⟨_, above, below⟩
      · rfl
      · omega

theorem read_banked (banked : Banked a.offset.toNat) (takes : Takes a.offset.toNat a.width) :
    d.read b a = .ok ⟨.ok ((Bank.of a.offset.toNat).lineValue b.gic a.width), d, b⟩ := by
  have allowed := takes_allows banked takes
  have place := banked.place
  unfold read
  generalize Bank.of a.offset.toNat = bank at allowed place ⊢
  dsimp only
  rw [allowed]
  cases place <;> rfl

theorem write_banked (banked : Banked a.offset.toNat) (takes : Takes a.offset.toNat a.width) :
    d.write b a value = .ok ⟨.ok (), d,
      ((Bank.of a.offset.toNat).requests a.width value).foldl Board.request b⟩ := by
  have allowed := takes_allows banked takes
  have place := banked.place
  unfold write
  generalize Bank.of a.offset.toNat = bank at allowed place ⊢
  dsimp only
  rw [allowed]
  cases place <;> rfl

-- The control register turns the distributor on and off.
theorem writePlain_gic {r : Distributor × Board} (done : d.writePlain b a value = .ok r) :
    ∃ on, r.2.gic = { b.gic with enabled := on } := by
  unfold writePlain at done
  obtain ⟨answer, _, done⟩ := Checked.bind_eq_ok.mp done
  cases answer with
  | error e =>
      cases done
      exact ⟨b.gic.enabled, rfl⟩
  | ok found =>
      dsimp only at done
      split at done
      · split at done <;> cases done
        · exact ⟨true, Board.gic_request ..⟩
        · exact ⟨false, Board.gic_request ..⟩
      · cases done
        exact ⟨b.gic.enabled, rfl⟩

theorem write_unbanked {r : Answered Distributor Unit} (done : d.write b a value = .ok r)
    (beside : ¬ Banked a.offset.toNat) : ∃ on, r.board.gic = { b.gic with enabled := on } := by
  have hidden : ¬ (Bank.of a.offset.toNat).showsLines = true :=
    fun shows => beside ((Bank.of_showsLines _).mp shows)
  unfold write at done
  generalize Bank.of a.offset.toNat = bank at hidden done
  dsimp only at done
  split at done
  · cases done
    exact ⟨b.gic.enabled, rfl⟩
  cases bank with
  | plain =>
      obtain ⟨⟨d', b'⟩, wrote, done⟩ := Checked.bind_eq_ok.mp done
      cases done
      exact writePlain_gic wrote
  | group | software | unknown =>
      cases done
      exact ⟨b.gic.enabled, rfl⟩
  | _ first => exact absurd rfl hidden

end Distributor

namespace Bus

variable {δ : Type} {bus : Bus δ} {s : Slot δ} {a : Access} {address value : UInt64} {width : Width}
  {direction : Direction}

-- Where an access goes does not depend on its direction.
theorem route_either (routed : bus.route address width direction = .ok (.ok (s, a))) :
    a.width = width ∧ ∀ direction', bus.route address width direction' = .ok (.ok (s, a)) := by
  unfold route at routed
  split at routed
  · cases routed
  rename_i aligned
  split at routed
  · cases routed
  rename_i found
  obtain ⟨offset, placed, routed⟩ := Checked.bind_eq_ok.mp routed
  obtain ⟨reach, ended, routed⟩ := Checked.bind_eq_ok.mp routed
  split at routed
  · cases routed
  rename_i inside
  cases routed
  refine ⟨rfl, fun direction' => ?_⟩
  unfold route
  rw [if_neg aligned, found]
  simp only [placed, ended, bind, Except.bind]
  exact if_neg inside

variable [BusDevice δ] {b : Board}

theorem read_routed (routed : bus.route address width .read = .ok (.ok (s, a))) :
    bus.read b address width = (BusDevice.read s.device b a).map fun r =>
      ⟨r.answer.map (width.truncate ·), bus.setDevice s.window.base r.device, r.board⟩ := by
  simp only [read, routed, bind, Except.bind]
  cases BusDevice.read s.device b a with
  | error fault => rfl
  | ok r => simp only [Except.map, Width.and_mask]; rfl

theorem write_routed (routed : bus.route address width .write = .ok (.ok (s, a))) :
    bus.write b address width value = (BusDevice.write s.device b a (width.truncate value)).map
      fun r => ⟨r.answer, bus.setDevice s.window.base r.device, r.board⟩ := by
  simp only [write, routed, bind, Except.bind, Width.and_mask]
  cases BusDevice.write s.device b a (width.truncate value) with
  | error fault => rfl
  | ok r => rfl

end Bus

namespace Distributor

-- The distributor at an offset, as the guest sees it through the bus of the machine. An access that
-- straddles reads the pattern of software interrupts, and a store that straddles asks nothing.
structure Exact (bus : Bus MachineDevice) (b : Board) (address : UInt64) (width : Width)
    (s : Slot MachineDevice) (offset : Nat) : Prop where
  read : Banked offset → Takes offset width → ∃ value,
    bus.read b address width = .ok ⟨.ok value, bus.setDevice s.window.base s.device, b⟩ ∧
    ∀ i, value.toNat.testBit i = (decide (i < 8 * width.bytes) &&
      if Straddles offset then decide (i % 2 = 1) else shows b.gic offset i)
  write : Banked offset → Takes offset width → ∀ value, ∃ b',
    bus.write b address width value = .ok ⟨.ok (), bus.setDevice s.window.base s.device, b'⟩ ∧
    Gic.Performed b.gic b'.gic
      (if Straddles offset then fun _ => none else asks offset width (width.truncate value))
  reads : ∀ r, bus.read b address width = .ok r → r.board.gic = b.gic
  -- The bits and bytes for these read as zero.
  past : ∀ n, 1020 ≤ n → b.gic.line? n = none
  beside : ¬ Banked offset → ∀ value r, bus.write b address width value = .ok r →
    ∃ on, r.board.gic = { b.gic with enabled := on }

variable {bus : Bus MachineDevice} {b : Board} {d : Distributor} {address : UInt64} {width : Width}
  {s : Slot MachineDevice} {a : Access} {direction : Direction}

-- A store to a bank asks for what the bank makes of it, and that is all.
theorem banked_stored (behind : s.device = .distributor d)
    (routed : bus.route address width .write = .ok (.ok (s, a))) (banked : Banked a.offset.toNat)
    (takes : Takes a.offset.toNat a.width) (value : UInt64) :
    bus.write b address width value = .ok ⟨.ok (), bus.setDevice s.window.base s.device,
      ((Bank.of a.offset.toNat).requests a.width (width.truncate value)).foldl Board.request b⟩ := by
  have asked : BusDevice.write s.device b a (width.truncate value) = .ok ⟨.ok (), s.device,
      ((Bank.of a.offset.toNat).requests a.width (width.truncate value)).foldl
        Board.request b⟩ := by
    rw [behind]
    change (d.write b a (width.truncate value)).bind _ = _
    rw [write_banked banked takes]
    rfl
  rw [Bus.write_routed routed, asked]
  rfl

theorem registers_exact (reached : b.gic.Reached) (behind : s.device = .distributor d)
    (routed : bus.route address width direction = .ok (.ok (s, a))) :
    Exact bus b address width s a.offset.toNat := by
  obtain ⟨same, either⟩ := Bus.route_either routed
  subst same
  refine ⟨fun banked takes => ?_, fun banked takes value => ?_, fun r done => ?_,
    fun n high => ?_, fun beside value r done => ?_⟩
  · have asked : BusDevice.read s.device b a = .ok
        ⟨.ok ((Bank.of a.offset.toNat).lineValue b.gic a.width), s.device, b⟩ := by
      rw [behind]
      change (d.read b a).bind _ = _
      rw [read_banked banked takes]
      rfl
    refine ⟨_, (Bus.read_routed (either .read)).trans (by rw [asked]; rfl), fun i => ?_⟩
    rw [Width.truncate_toNat, Nat.testBit_mod_two_pow]
    by_cases inside : i < 8 * a.width.bytes
    · rw [decide_eq_true inside, Bool.true_and, Bool.true_and]
      by_cases straddles : Straddles a.offset.toNat
      · rw [if_pos straddles]
        exact lineValue_straddles straddles takes inside
      · rw [if_neg straddles]
        exact lineValue_bit (Gic.reached_numbered reached) banked takes straddles inside
    · rw [decide_eq_false inside, Bool.false_and, Bool.false_and]
  · refine ⟨_, banked_stored behind (either .write) banked takes value, ?_⟩
    rw [Board.gic_requests]
    exact requests_performed banked a.width _ b.gic
  · rw [Bus.read_routed (either .read), behind] at done
    obtain ⟨answered, asked, rfl⟩ := Checked.map_eq_ok.mp done
    obtain ⟨own, read, mapped⟩ := Checked.bind_eq_ok.mp asked
    cases mapped
    exact read_gic read
  · refine Option.eq_none_iff_forall_ne_some.mpr fun l found => ?_
    exact absurd (Gic.line_exists found) (Nat.not_lt.mpr high)
  · rw [Bus.write_routed (either .write), behind] at done
    obtain ⟨answered, asked, rfl⟩ := Checked.map_eq_ok.mp done
    obtain ⟨own, wrote, mapped⟩ := Checked.bind_eq_ok.mp asked
    cases mapped
    exact write_unbanked wrote beside

-- A machine that is nothing but a distributor at this address.

def quietBoard : Board := ⟨⟨⟨[]⟩, #[]⟩, .initial⟩

def loneAt (base : UInt64) : Bus MachineDevice := ⟨[⟨⟨base, windowSize⟩, .distributor .new⟩]⟩

-- The guest enables the sixth shared interrupt.
theorem registers_exact_enable :
    let routed := (loneAt 0x8000000).route 0x8000104 .word .write
    quietBoard.gic.Reached ∧
      routed = .ok (.ok (⟨⟨0x8000000, windowSize⟩, .distributor .new⟩, ⟨0x104, 0x8000104, .word⟩)) ∧
      ∃ b', (loneAt 0x8000000).write quietBoard 0x8000104 .word 0x20 =
          .ok ⟨.ok (), loneAt 0x8000000, b'⟩ ∧
        (b'.gic.line? 37).map (·.enabled) = some true ∧
        (b'.gic.line? 38).map (·.enabled) = some false := by
  intro routed
  have reached : quietBoard.gic.Reached := ⟨[], rfl⟩
  have found : routed =
      .ok (.ok (⟨⟨0x8000000, windowSize⟩, .distributor .new⟩, ⟨0x104, 0x8000104, .word⟩)) := rfl
  obtain ⟨b', wrote, performed⟩ := (registers_exact (d := .new) reached rfl found).write
    ⟨by decide, by decide⟩ (.inl rfl) 0x20
  have lines (n : Nat) (listed : n < Gic.numLines) : b'.gic.line? n =
      some ((asks 0x104 .word (Width.truncate .word 0x20) n).elim (.initial n)
        (·.rewrite (.initial n))) := by
    rw [performed.lines]
    change (Gic.initial.line? n).map _ = _
    rw [Gic.initial_line, if_pos listed]
    rfl
  have asked : asks 0x104 .word (Width.truncate .word 0x20) 37 = some (.enable 37) := by decide
  have spared : asks 0x104 .word (Width.truncate .word 0x20) 38 = none := by decide
  refine ⟨reached, found, b', wrote, ?_, ?_⟩
  · rw [lines 37 (by decide), asked]
    rfl
  · rw [lines 38 (by decide), spared]
    rfl

-- The base of the distributor is two past a multiple of four. The guest reads the word whose fields
-- are those of lines 8 to 23, and line 16 reads as edge triggered, which it is not.
theorem software_straddled :
    ∃ value : UInt64, quietBoard.gic.Reached ∧
      (loneAt 0x8000002).read quietBoard 0x8000c04 .word =
        .ok ⟨.ok value, loneAt 0x8000002, quietBoard⟩ ∧
      value.toNat.testBit (2 * (16 - 8) + 1) = true ∧
      (quietBoard.gic.line? 16).map (·.trigger) = some .level := by
  refine ⟨softwareTriggers, ⟨[], rfl⟩, rfl, by decide, ?_⟩
  change (Gic.initial.line? 16).map _ = _
  rw [Gic.initial_line, if_pos (by decide)]
  rfl

end Distributor

end VmMonitor
