import Mathlib.Data.Nat.Bitwise
import VmMonitor.Device.Distributor
import VmMonitor.Proofs.Device.Signal

/-!
The distributor has no line of its own. Its requests tell no listener anything, and the ones that
can put a line to rest come from the two banks of clearing bits alone.
-/

namespace VmMonitor

open Signalling

namespace Distributor

variable {d d' : Distributor} {b b' : Board} {r : Gic.Request} {width : Width} {value : UInt64}
  {lost : Nat → Prop}

instance : Signalling Distributor where
  line? _ := none
  raised _ := false
  sound _ := True

theorem set_bit {i : Nat} (small : i < 32) (set : (value &&& bit true i != 0) = true) :
    value.toNat.testBit i = true := by
  have mask : (bit true i).toNat = 2 ^ i := by
    have fits : i % 2 ^ 64 % 64 = i := by omega
    have below : 2 ^ i < 2 ^ 64 := Nat.pow_lt_pow_right (by decide) (by omega)
    simp only [bit, if_true, UInt64.toNat_shiftLeft, UInt64.toNat_ofNat', UInt64.toNat_one,
      Nat.one_shiftLeft, fits, Nat.mod_eq_of_lt below]
  by_contra clear
  have none : (value &&& bit true i).toNat = 0 := by
    rw [UInt64.toNat_and, mask, Nat.and_two_pow, Bool.eq_false_iff.mpr clear]
    simp
  have zero : value &&& bit true i = 0 := UInt64.toNat_inj.mp none
  rw [zero] at set
  cases set

theorem mem_bitRequests {first : Nat} {make : Nat → Gic.Request}
    (asked : r ∈ bitRequests first value make) :
    ∃ i, i < 32 ∧ value.toNat.testBit i = true ∧ r = make (first + i) := by
  obtain ⟨i, chosen, rfl⟩ := List.mem_map.mp asked
  obtain ⟨range, set⟩ := List.mem_filter.mp chosen
  have small := List.mem_range.mp range
  exact ⟨i, small, set_bit small (Bool.and_eq_true_iff.mp set).1, rfl⟩

theorem requests_silent (bank : Bank) (asked : r ∈ bank.requests width value) :
    r.silent = true := by
  cases bank with
  | setEnable first | clearEnable first | setPending first | clearPending first
  | setActive first | clearActive first =>
      obtain ⟨_, _, _, rfl⟩ := mem_bitRequests asked
      rfl
  | priority first | target first =>
      obtain ⟨_, _, rfl⟩ := List.mem_map.mp asked
      rfl
  | trigger first =>
      simp only [Bank.requests, triggerRequests] at asked
      split at asked
      · cases asked
      · obtain ⟨_, _, rfl⟩ := List.mem_map.mp asked
        rfl
  | plain | group | software | unknown => cases asked

theorem clearPending_bank {offset first : Nat} (is : Bank.of offset = .clearPending first) :
    ∃ k, k < 0x80 ∧ offset = 0x280 + k ∧ first = 8 * k := by
  simp only [Bank.of, ite_eq_iff, reduceCtorEq, and_false, false_or, Bank.clearPending.injEq,
    or_false] at is
  obtain ⟨_, _, _, _, _, _, inside, rfl⟩ := is
  exact ⟨offset - 0x280, by omega, by omega, by omega⟩

theorem clearActive_bank {offset first : Nat} (is : Bank.of offset = .clearActive first) :
    ∃ k, k < 0x80 ∧ offset = 0x380 + k ∧ first = 8 * k := by
  simp only [Bank.of, ite_eq_iff, reduceCtorEq, and_false, false_or, Bank.clearActive.injEq,
    or_false] at is
  obtain ⟨_, _, _, _, _, _, _, _, inside, rfl⟩ := is
  exact ⟨offset - 0x380, by omega, by omega, by omega⟩

theorem requests_spared {offset q : Nat} (asked : r ∈ (Bank.of offset).requests width value)
    (drops : r.drops q = true) : Withdraws offset value q := by
  -- Only the two clearing banks make requests of this kind.
  have clears : ∃ first i, (Bank.of offset = .clearPending first ∨
      Bank.of offset = .clearActive first) ∧ value.toNat.testBit i = true ∧ q = first + i := by
    cases which : Bank.of offset with
    | clearPending first | clearActive first =>
        rw [which] at asked
        obtain ⟨i, _, set, rfl⟩ := mem_bitRequests asked
        simp only [Gic.Request.drops, decide_eq_true_eq] at drops
        exact ⟨first, i, by simp, set, drops.symm⟩
    | setEnable first | clearEnable first | setPending first | setActive first =>
        rw [which] at asked
        obtain ⟨_, _, _, rfl⟩ := mem_bitRequests asked
        cases drops
    | priority first | target first =>
        rw [which] at asked
        obtain ⟨_, _, rfl⟩ := List.mem_map.mp asked
        cases drops
    | trigger first =>
        rw [which] at asked
        simp only [Bank.requests, triggerRequests] at asked
        split at asked
        · cases asked
        · obtain ⟨_, _, rfl⟩ := List.mem_map.mp asked
          cases drops
    | plain | group | software | unknown =>
        rw [which] at asked
        cases asked
  obtain ⟨first, i, kind, set, rfl⟩ := clears
  rcases kind with pending | active
  · obtain ⟨k, inside, place, rfl⟩ := clearPending_bank pending
    refine ⟨0x280, k, .inl rfl, inside, place, by omega, ?_⟩
    rw [Nat.add_sub_cancel_left]
    exact set
  · obtain ⟨k, inside, place, rfl⟩ := clearActive_bank active
    refine ⟨0x380, k, .inr rfl, inside, place, by omega, ?_⟩
    rw [Nat.add_sub_cancel_left]
    exact set

theorem moves_requests (rs : List Gic.Request) (gic : b'.gic = rs.foldl Gic.apply b.gic)
    (silent : ∀ r ∈ rs, r.silent = true) (spared : ∀ r ∈ rs, ∀ q, r.drops q = true → lost q) :
    Moves lost d b.gic d' b'.gic := by
  rw [gic]
  exact ⟨rfl, trivial, .requested rfl silent spared⟩

theorem moves_quiet (gic : b'.gic = b.gic) : Moves lost d b.gic d' b'.gic :=
  moves_requests [] gic nofun nofun

theorem read_gic {a : Access} {r : Answered Distributor UInt64} (done : d.read b a = .ok r) :
    r.board.gic = b.gic := by
  unfold read at done
  dsimp only at done
  split at done
  · cases done
    rfl
  split at done
  · obtain ⟨answer, _, done⟩ := Checked.bind_eq_ok.mp done
    cases answer <;> cases done <;> rfl
  · cases done
    rfl
  · cases done
    rfl
  · cases done
    rfl

theorem read_moves {a : Access} {r : Answered Distributor UInt64} (done : d.read b a = .ok r) :
    Moves lost d b.gic r.device r.board.gic := moves_quiet (read_gic done)

theorem writePlain_moves {a : Access} {r : Distributor × Board}
    (done : d.writePlain b a value = .ok r) : Moves lost d b.gic r.1 r.2.gic := by
  unfold writePlain at done
  obtain ⟨answer, _, done⟩ := Checked.bind_eq_ok.mp done
  cases answer with
  | error e =>
      cases done
      exact moves_quiet rfl
  | ok found =>
      obtain ⟨written, registers⟩ := found
      dsimp only at done
      split at done
      · split at done
        · cases done
          exact moves_requests [.enableDistributor] (by simp) (by simp [Gic.Request.silent])
            (by simp [Gic.Request.drops])
        · cases done
          exact moves_requests [.disableDistributor] (by simp) (by simp [Gic.Request.silent])
            (by simp [Gic.Request.drops])
      · cases done
        exact moves_quiet rfl

theorem write_moves {a : Access} {r : Answered Distributor Unit}
    (done : d.write b a value = .ok r) :
    Moves (Withdraws a.offset.toNat value) d b.gic r.device r.board.gic := by
  unfold write at done
  dsimp only at done
  split at done
  · cases done
    exact moves_quiet rfl
  split at done
  · obtain ⟨⟨d', b'⟩, wrote, done⟩ := Checked.bind_eq_ok.mp done
    cases done
    exact writePlain_moves wrote
  · cases done
    exact moves_quiet rfl
  · cases done
    exact moves_quiet rfl
  · cases done
    exact moves_requests _ (Board.gic_requests ..) (fun _ => requests_silent _)
      fun _ asked _ => requests_spared asked

instance : LawfulSignalling Distributor where
  read_moves _ := read_moves
  write_moves _ := write_moves
  input_moves _ done := by
    cases done
    exact moves_quiet rfl
  endOfInterrupt_device _ _ _ := rfl
  endOfInterrupt_gic _ _ _ := rfl
  levelChanged_device _ _ _ _ := rfl
  levelChanged_gic _ _ _ _ := rfl

end Distributor

end VmMonitor
