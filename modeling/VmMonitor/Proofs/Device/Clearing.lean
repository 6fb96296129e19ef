import VmMonitor.Proofs.Strict.Uart

/-!
The clear register of the UART. A store to it is shifted into the storage of the register as to every
other, but what it clears of the raw status is taken from the value as it came. A store of one byte or
two that does not begin where the register does clears other interrupts than the word store of the
same lanes.
-/

namespace VmMonitor

namespace Uart

open Checked

variable {u : Uart} {b : Board} {s : RegisterSpace} {j : Nat} {width : Width}
  {address value : UInt64}

-- The raw status once these bits of it are cleared. The receive bit follows the queue all the same.
def cleared (u : Uart) (bits : UInt64) : UInt64 :=
  let left := u.registers.value ris &&& ~~~(bits &&& allInterrupts)
  if u.received.isEmpty then left &&& ~~~rxInterrupt else (left ||| rxInterrupt) &&& 0xffffffff

-- What a store that clears these bits does.
structure Clears (u : Uart) (b : Board) (bits : UInt64) (r : Answered Uart Unit) : Prop where
  answer : r.answer = .ok ()
  line : r.device.line = u.line
  status : r.device.registers.value ris = u.cleared bits
  mask : r.device.registers.value imsc = u.registers.value imsc
  gic : r.board.gic = b.gic.apply r.device.lineRequest

theorem plan_icr : ∀ j < 4, (RegisterSpace.holding (·.1) (icr + UInt64.ofNat j) plan).map (·.2) =
    some (.word "UARTICR" .writeOnly icr 0 0xffffffffffffffff) := by
  decide +kernel

theorem icr_offsets : ∀ j < 4, (icr + UInt64.ofNat j).toNat = icr.toNat + j ∧
    icr + UInt64.ofNat j ≠ dr ∧ ¬ (icr + UInt64.ofNat j = fr ∨ icr + UInt64.ofNat j = mis) := by
  decide

-- The storage of the clear register takes the store, whatever its lanes are.
theorem write_icr (valid : s.shape = plan) (inside : j + width.bytes ≤ 4) (value : UInt64) :
    ∃ s', s.write (icr + UInt64.ofNat j) width value = .ok (.ok (icr, s')) := by
  have near : j < 4 := Nat.lt_of_lt_of_le (Nat.lt_add_of_pos_right width.bytes_pos) inside
  have found := plan_icr j near
  rw [← valid, RegisterSpace.slot_shape, Option.map_map] at found
  obtain ⟨⟨range, spec, x⟩, held, same⟩ := Option.map_eq_some_iff.mp found
  cases same
  have sound : (RegisterSpec.word "UARTICR" .writeOnly icr 0 0xffffffffffffffff).Sound := by decide
  have covers : (RegisterSpec.word "UARTICR" .writeOnly icr 0 0xffffffffffffffff).Covers
      (icr + UInt64.ofNat j) width := by
    unfold RegisterSpec.Covers
    rw [(icr_offsets j near).1]
    change icr.toNat ≤ _ ∧ _ ≤ icr.toNat + 4
    omega
  obtain ⟨y, wrote, _⟩ := Register.write_lane (r := ⟨_, x⟩) sound covers rfl value
  exact ⟨_, RegisterSpace.write_slot held wrote⟩

theorem write_clears (valid : u.registers.shape = plan) (inside : j + width.bytes ≤ 4) (b : Board)
    (address value : UInt64) :
    ∃ r, u.write b ⟨icr + UInt64.ofNat j, address, width⟩ value = .ok r ∧ Clears u b value r := by
  have near : j < 4 := Nat.lt_of_lt_of_le (Nat.lt_add_of_pos_right width.bytes_pos) inside
  have narrow : width ≠ .double := by
    rintro rfl
    change j + 8 ≤ 4 at inside
    omega
  obtain ⟨_, notData, notFixed⟩ := icr_offsets j near
  obtain ⟨registers, wrote⟩ := write_icr valid inside value
  have shape := (RegisterSpace.write_shape (tidy_of_plan valid) wrote).trans valid
  obtain ⟨status, mask⟩ := write_status valid wrote
  let v : Uart := { u with registers := registers.clearBits ris (value &&& allInterrupts) }
  have shape' : v.registers.shape = plan := (RegisterSpace.clearBits_shape ..).trans shape
  have left : v.registers.value ris = u.registers.value ris &&& ~~~(value &&& allInterrupts) := by
    rw [← status]
    exact clearBits_status shape _
  have done : u.write b ⟨icr + UInt64.ofNat j, address, width⟩ value =
      .ok ⟨.ok (), (v.refresh b).1, (v.refresh b).2⟩ := by
    unfold write writeRegister
    rw [if_neg narrow, if_neg notData, if_neg notFixed, bind_ok wrote]
    rfl
  rw [refresh_eq] at done
  refine ⟨_, done, rfl, rfl, ?_, ?_, Board.gic_request ..⟩
  · unfold cleared
    rw [← left]
    exact latched_status shape'
  · exact (latched_mask shape').trans ((update_mask shape _).trans (mask (by decide)))

-- The status bit by bit. Bits past the interrupts are none of a store's business.
theorem cleared_testBit (u : Uart) (x : UInt64) (i : Nat) : (u.cleared x).toNat.testBit i =
    if i = 4 then !u.received.isEmpty
    else ((u.registers.value ris).toNat.testBit i && !(x.toNat.testBit i && decide (i < 11))) &&
      (u.received.isEmpty || decide (i < 32)) := by
  have all : allInterrupts.toNat.testBit i = decide (i < 11) := Nat.testBit_two_pow_sub_one 11 i
  have receive : rxInterrupt.toNat.testBit i = decide (4 = i) := by
    rw [show rxInterrupt.toNat = 2 ^ 4 from rfl, Nat.testBit_two_pow]
  have word : (0xffffffff : UInt64).toNat.testBit i = decide (i < 32) :=
    Nat.testBit_two_pow_sub_one 32 i
  by_cases own : i = 4
  · rw [if_pos own, own]
    exact receive_bit ..
  have other : decide (4 = i) = false := decide_eq_false (Ne.symm own)
  unfold cleared
  rw [if_neg own]
  cases u.received.isEmpty with
  | true =>
      rw [if_pos rfl, Bits.cleared_bit, Bits.cleared_bit, UInt64.toNat_and, Nat.testBit_and, all,
        receive, other, Bool.not_false, Bool.true_or]
  | false =>
      rw [if_neg Bool.false_ne_true, UInt64.toNat_and, UInt64.toNat_or, Nat.testBit_and,
        Nat.testBit_or, Bits.cleared_bit, UInt64.toNat_and, Nat.testBit_and, all, receive, word,
        other, Bool.or_false, Bool.false_or]

-- Two stores leave one and the same status behind if they agree on every raised interrupt but that of
-- the receive side.
theorem cleared_eq_iff (u : Uart) (x y : UInt64) : u.cleared x = u.cleared y ↔
    ∀ i < 11, i ≠ 4 → (u.registers.value ris).toNat.testBit i = true →
      x.toNat.testBit i = y.toNat.testBit i := by
  constructor
  · intro same i small other up
    have bits := congrArg (·.toNat.testBit i) same
    simpa [cleared_testBit, other, up, small, show i < 32 by omega] using bits
  · intro agree
    apply UInt64.toNat_inj.mp
    apply Nat.eq_of_testBit_eq
    intro i
    rw [cleared_testBit, cleared_testBit]
    by_cases own : i = 4
    · rw [if_pos own, if_pos own]
    rw [if_neg own, if_neg own]
    by_cases small : i < 11
    · cases up : (u.registers.value ris).toNat.testBit i with
      | true => rw [agree i small own up]
      | false => simp only [Bool.false_and]
    · rw [decide_eq_false small, Bool.and_false, Bool.and_false]

-- A store of any width anywhere in the clear register, and the word store of the same lanes.
theorem clear_unshifted (valid : u.registers.shape = plan) (inside : j + width.bytes ≤ 4)
    (b : Board) (address value : UInt64) :
    let bits := width.truncate value
    let lanes := bits <<< UInt64.ofNat (8 * j)
    ∃ r r', u.write b ⟨icr + UInt64.ofNat j, address, width⟩ bits = .ok r ∧
      u.write b ⟨icr, address - UInt64.ofNat j, .word⟩ lanes = .ok r' ∧
      Clears u b bits r ∧ Clears u b lanes r' ∧
      (r.device.registers.value ris = r'.device.registers.value ris ↔
        ∀ i < 11, i ≠ 4 → (u.registers.value ris).toNat.testBit i = true →
          bits.toNat.testBit i = lanes.toNat.testBit i) ∧
      (r.device.registers.value ris = r'.device.registers.value ris →
        r.board.gic = r'.board.gic) ∧
      (j = 0 → r.device.registers.value ris = r'.device.registers.value ris) := by
  intro bits lanes
  obtain ⟨r, done, clears⟩ := write_clears valid inside b address bits
  have whole : 0 + Width.word.bytes ≤ 4 := by decide
  obtain ⟨r', done', clears'⟩ := write_clears valid whole b (address - UInt64.ofNat j) lanes
  have same_iff := cleared_eq_iff u bits lanes
  rw [← clears.status, ← clears'.status] at same_iff
  refine ⟨r, r', done, done', clears, clears', same_iff, fun same => ?_, ?_⟩
  · have masked : r.device.maskedStatus = r'.device.maskedStatus := by
      simp only [maskedStatus, same, clears.mask, clears'.mask]
    rw [clears.gic, clears'.gic, lineRequest, lineRequest, masked, clears.line, clears'.line]
  · rintro rfl
    have unmoved : lanes = bits := UInt64.shiftLeft_zero
    rw [clears.status, clears'.status, unmoved]

-- One byte was transmitted, so that the transmit interrupt is raised.
def transmitted : Checked (Answered Uart Unit) :=
  (Uart.new 33 .accepting).write ⟨⟨⟨[]⟩, #[]⟩, .initial⟩ ⟨dr, 0x9000000, .word⟩ 0x41

theorem clear_unshifted_half : ∃ t r r', transmitted = .ok t ∧ t.device.registers.shape = plan ∧
    2 + Width.half.bytes ≤ 4 ∧
    t.device.write t.board ⟨icr + 2, 0x9000046, .half⟩ 0x20 = .ok r ∧
    t.device.write t.board ⟨icr, 0x9000044, .word⟩ 0x200000 = .ok r' ∧
    ¬ r.device.registers.value ris = r'.device.registers.value ris := by
  have raised : transmitted.toOption.any fun t => t.device.registers.shape = plan ∧
      (t.device.registers.value ris).toNat.testBit 5 = true := by
    decide +kernel
  obtain ⟨t, sent, now⟩ := Checked.ok_of_any raised
  obtain ⟨valid, up⟩ := of_decide_eq_true now
  have inside : 2 + Width.half.bytes ≤ 4 := by decide
  obtain ⟨r, r', done, done', _, _, same, _⟩ :=
    clear_unshifted valid inside t.board 0x9000046 0x20
  refine ⟨t, r, r', sent, valid, inside, done, done', fun equal => ?_⟩
  exact absurd (same.mp equal 5 (by decide) (by decide) up) (by decide)

-- The second byte of the clear register has no part in the transmit interrupt. A store to it clears
-- the interrupt all the same.
theorem clear_misplaced : ∃ t r r', transmitted = .ok t ∧
    t.device.write t.board ⟨icr + 1, 0x9000045, .byte⟩ 0x20 = .ok r ∧
    t.device.write t.board ⟨icr, 0x9000044, .word⟩ 0x2000 = .ok r' ∧
    t.device.registers.value ris = 0x20 ∧ r.device.registers.value ris = 0 ∧
    r'.device.registers.value ris = 0x20 := by
  have ran : transmitted.toOption.any fun t => t.device.registers.value ris = 0x20 ∧
      (t.device.write t.board ⟨icr + 1, 0x9000045, .byte⟩ 0x20).toOption.any fun r =>
        r.device.registers.value ris = 0 ∧
        (t.device.write t.board ⟨icr, 0x9000044, .word⟩ 0x2000).toOption.any fun r' =>
          r'.device.registers.value ris = 0x20 := by
    decide +kernel
  obtain ⟨t, sent, now⟩ := Checked.ok_of_any ran
  obtain ⟨before, now⟩ := of_decide_eq_true now
  obtain ⟨r, done, now⟩ := Checked.ok_of_any now
  obtain ⟨after, now⟩ := of_decide_eq_true now
  obtain ⟨r', done', now⟩ := Checked.ok_of_any now
  exact ⟨t, r, r', sent, done, done', before, after, of_decide_eq_true now⟩

end Uart

end VmMonitor
