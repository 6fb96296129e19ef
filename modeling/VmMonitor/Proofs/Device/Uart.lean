import VmMonitor.Device.Uart
import VmMonitor.Proofs.Bits
import VmMonitor.Proofs.Device.Signal
import VmMonitor.Proofs.Register.Space

/-!
The interrupt line of the UART follows its masked status. The status has two operands, and each
access that can change one of them ends in a refresh of the line.
-/

namespace VmMonitor

open Signalling

namespace Uart

variable {u v : Uart} {b b' : Board} {lost : Nat → Prop}

def plan : List (RegisterRange × RegisterSpec) := (RegisterSpace.ofSpecs layout).shape

instance : Signalling Uart where
  line? u := some u.line
  raised u := u.maskedStatus != 0
  sound u := u.registers.shape = plan

theorem plan_firsts : (plan.map (·.1.first)).Nodup := by decide +kernel

theorem plan_status : (RegisterSpace.holding (·.1) ris plan).map (·.2) =
    some (.word "UARTRIS" .readOnly ris 0 0xffffffffffffffff) := by
  decide +kernel

theorem plan_imsc : (RegisterSpace.holding (·.1) imsc plan).map (·.2.offset) = some imsc := by
  decide +kernel

theorem plan_fixed : ∀ p ∈ plan, p.2.access.writeable = true → p.2.offset ≠ ris := by
  decide +kernel

section Plan

variable {s s' : RegisterSpace} {offset value written : UInt64} {width : Width}

theorem tidy_of_plan (valid : s.shape = plan) : s.Tidy := by
  unfold RegisterSpace.Tidy
  rw [valid]
  exact plan_firsts

theorem starts_of_plan (valid : s.shape = plan) {k : UInt64}
    (start : (RegisterSpace.holding (·.1) k plan).map (·.2.offset) = some k) : s.Starts k := by
  rw [← valid, RegisterSpace.slot_shape, Option.map_map] at start
  exact Option.map_eq_some_iff.mp start

theorem status_slot (valid : s.shape = plan) :
    ∃ t, s.slot? ris = some t ∧ t.register.spec.offset = ris ∧ t.register.spec.size = 4 := by
  have found := plan_status
  rw [← valid, RegisterSpace.slot_shape, Option.map_map] at found
  obtain ⟨t, held, same⟩ := Option.map_eq_some_iff.mp found
  have same : t.register.spec = .word "UARTRIS" .readOnly ris 0 0xffffffffffffffff := same
  refine ⟨t, held, ?_, ?_⟩ <;> rw [same] <;> rfl

-- The device sets and clears bits of the raw status, and leaves the mask alone.

theorem clearBits_status (valid : s.shape = plan) (mask : UInt64) :
    (s.clearBits ris mask).value ris = s.value ris &&& ~~~mask := by
  obtain ⟨t, held, _, _⟩ := status_slot valid
  rw [RegisterSpace.clearBits, RegisterSpace.update_own held]
  simp only [RegisterSpace.value, RegisterSpace.get?, held, Option.map_some, Register.clearBits]

theorem setBits_status (valid : s.shape = plan) (mask : UInt64) :
    (s.setBits ris mask).value ris = (s.value ris ||| mask) &&& 0xffffffff := by
  obtain ⟨t, held, _, size⟩ := status_slot valid
  have four : t.register.spec.sizeMask = 0xffffffff := by
    unfold RegisterSpec.sizeMask
    rw [size]
    rfl
  rw [RegisterSpace.setBits, RegisterSpace.update_own held]
  simp only [RegisterSpace.value, RegisterSpace.get?, held, Option.map_some, Register.setBits,
    Register.setValue, four]

theorem update_mask (valid : s.shape = plan) (f : Register → Register) :
    (s.update ris f).value imsc = s.value imsc := by
  obtain ⟨t, held, named, _⟩ := status_slot valid
  exact RegisterSpace.update_other (tidy_of_plan valid) (starts_of_plan valid plan_imsc) held
    (by rw [named]; decide) f

-- The guest cannot write the raw status, and what it writes elsewhere leaves both operands alone
-- but for the mask.
theorem write_status (valid : s.shape = plan)
    (done : s.write offset width value = .ok (.ok (written, s'))) :
    s'.value ris = s.value ris ∧ (written ≠ imsc → s'.value imsc = s.value imsc) := by
  have tidy := tidy_of_plan valid
  obtain ⟨own, held, start, _⟩ := status_slot valid
  refine ⟨?_, RegisterSpace.write_value_other tidy (starts_of_plan valid plan_imsc) done⟩
  refine RegisterSpace.write_value_other tidy ⟨own, held, start⟩ done ?_
  obtain ⟨t, _, found, may, named, _⟩ := RegisterSpace.write_parts done
  have listed : (t.range, t.register.spec) ∈ plan := by
    rw [← valid]
    exact List.mem_map_of_mem (RegisterSpace.slot_mem found)
  rw [← named]
  exact plan_fixed _ listed may

end Plan

-- A refresh, in two parts: the receive status follows the queue, and the line follows the masked
-- status.

def latched (u : Uart) : Uart :=
  { u with registers := if u.received.isEmpty then u.registers.clearBits ris rxInterrupt
      else u.registers.setBits ris rxInterrupt }

def lineRequest (u : Uart) : Gic.Request :=
  if u.maskedStatus != 0 then .assert u.line else .clearPending u.line

theorem refresh_eq (u : Uart) (b : Board) :
    u.refresh b = (u.latched, b.request u.latched.lineRequest) := by
  change (if u.latched.maskedStatus != 0 then _ else _) = _
  unfold lineRequest
  split <;> rfl

theorem latched_shape (u : Uart) : u.latched.registers.shape = u.registers.shape := by
  unfold latched
  dsimp only
  split
  · exact RegisterSpace.clearBits_shape ..
  · exact RegisterSpace.setBits_shape ..

theorem latched_status (valid : u.registers.shape = plan) : u.latched.registers.value ris =
    if u.received.isEmpty then u.registers.value ris &&& ~~~rxInterrupt
    else (u.registers.value ris ||| rxInterrupt) &&& 0xffffffff := by
  unfold latched
  dsimp only
  split
  · exact clearBits_status valid _
  · exact setBits_status valid _

-- Of the two outcomes each has the receive bit as the queue has it.
theorem receive_bit (status : UInt64) (empty : Bool) :
    (if empty then status &&& ~~~rxInterrupt
      else (status ||| rxInterrupt) &&& 0xffffffff).toNat.testBit 4 = !empty := by
  cases empty with
  | true =>
      rw [if_pos rfl, Bits.cleared_bit]
      exact Bool.and_false _
  | false =>
      rw [if_neg Bool.false_ne_true, UInt64.toNat_and, UInt64.toNat_or, Nat.testBit_and,
        Nat.testBit_or]
      exact congrArg (· && true) (Bool.or_true _)

theorem latched_mask (valid : u.registers.shape = plan) :
    u.latched.registers.value imsc = u.registers.value imsc := by
  unfold latched
  dsimp only
  split <;> exact update_mask valid _

-- What an access comes to. Either nothing that the line depends on has changed, or a refresh ends it,
-- whatever happened to the registers before.
inductive Settles (u : Uart) (b : Board) : Uart → Board → Prop
  | still {registers : RegisterSpace} {b' : Board} (valid : registers.shape = plan)
      (status : registers.value ris = u.registers.value ris)
      (mask : registers.value imsc = u.registers.value imsc) (gic : b'.gic = b.gic) :
      Settles u b { u with registers := registers } b'
  | refreshed {v : Uart} {b' : Board} (valid : v.registers.shape = plan) (line : v.line = u.line)
      (gic : b'.gic = b.gic) : Settles u b (v.refresh b').1 (v.refresh b').2

theorem settles_idle (valid : u.registers.shape = plan) (gic : b'.gic = b.gic) :
    Settles u b u b' := .still valid rfl rfl gic

theorem Settles.moves (settles : Settles u b v b') : Moves lost u b.gic v b'.gic := by
  cases settles with
  | still valid status mask gic =>
      rw [gic]
      refine ⟨rfl, valid, .still fun up => ?_⟩
      simpa only [raised, maskedStatus, status, mask] using up
  | @refreshed v b' valid line gic =>
      rw [refresh_eq, Board.gic_request, gic]
      refine ⟨congrArg some line, (latched_shape v).trans valid, ?_⟩
      unfold lineRequest
      split
      · exact .asserted (congrArg some line.symm)
      · rename_i down
        exact .lowered (congrArg some line.symm) (by simpa [raised] using down)

theorem transmit_frame (u : Uart) (b : Board) (value : UInt8) :
    (u.transmit b value).1.registers = u.registers ∧
      (u.transmit b value).1.line = u.line ∧ (u.transmit b value).2.gic = b.gic := by
  unfold transmit
  dsimp only
  split
  · exact ⟨rfl, rfl, rfl⟩
  · split <;> exact ⟨rfl, rfl, rfl⟩

theorem read_settles {a : Access} {r : Answered Uart UInt64} (valid : u.registers.shape = plan)
    (done : u.read b a = .ok r) : Settles u b r.device r.board := by
  unfold read at done
  split at done
  · cases done
    exact settles_idle valid rfl
  split at done
  · cases done
    exact .refreshed valid rfl rfl
  split at done
  · cases done
    exact settles_idle valid rfl
  split at done
  · cases done
    exact settles_idle valid rfl
  obtain ⟨answer, _, done⟩ := Checked.bind_eq_ok.mp done
  cases answer with
  | ok value =>
      cases done
      exact settles_idle valid rfl
  | error e =>
      cases done
      exact settles_idle valid rfl

theorem writeRegister_settles {a : Access} {value : UInt64} {r : Uart × Board}
    (valid : u.registers.shape = plan) (done : u.writeRegister b a value = .ok r) :
    Settles u b r.1 r.2 := by
  unfold writeRegister at done
  obtain ⟨answer, wrote, done⟩ := Checked.bind_eq_ok.mp done
  cases answer with
  | error e =>
      cases done
      exact settles_idle valid rfl
  | ok found =>
      obtain ⟨written, registers⟩ := found
      have shape : registers.shape = plan :=
        (RegisterSpace.write_shape (tidy_of_plan valid) wrote).trans valid
      dsimp only at done
      split at done
      · cases done
        exact .refreshed ((RegisterSpace.clearBits_shape ..).trans shape) rfl rfl
      split at done
      · cases done
        exact .refreshed shape rfl rfl
      · rename_i notMask
        cases done
        obtain ⟨status, mask⟩ := write_status valid wrote
        exact .still shape status (mask notMask) rfl

theorem write_settles {a : Access} {value : UInt64} {r : Answered Uart Unit}
    (valid : u.registers.shape = plan) (done : u.write b a value = .ok r) :
    Settles u b r.device r.board := by
  unfold write at done
  split at done
  · cases done
    exact settles_idle valid rfl
  split at done
  · obtain ⟨registers, line, gic⟩ := u.transmit_frame b value.toUInt8
    generalize u.transmit b value.toUInt8 = sent at registers line gic done
    obtain ⟨v, b'⟩ := sent
    cases done
    refine .refreshed ?_ line gic
    exact ((RegisterSpace.setBits_shape ..).trans (congrArg _ registers)).trans valid
  split at done
  · cases done
    exact settles_idle valid rfl
  · obtain ⟨⟨u', b'⟩, wrote, done⟩ := Checked.bind_eq_ok.mp done
    cases done
    exact writeRegister_settles valid wrote

theorem input_settles {data : List UInt8} {r : Answered Uart Unit}
    (valid : u.registers.shape = plan) (done : u.input b data = .ok r) :
    Settles u b r.device r.board := by
  unfold input at done
  obtain ⟨room, _, done⟩ := Checked.bind_eq_ok.mp done
  cases done
  refine .refreshed valid rfl ?_
  split <;> rfl

instance : LawfulSignalling Uart where
  read_moves valid done := (read_settles valid done).moves
  write_moves valid done := (write_settles valid done).moves
  input_moves valid done := (input_settles valid done).moves
  endOfInterrupt_device u b _ := by
    change (u.endOfInterrupt b).1 = u
    unfold endOfInterrupt
    split <;> rfl
  endOfInterrupt_gic u b _ := by
    change (u.endOfInterrupt b).2.gic = if u.maskedStatus != 0 then _ else _
    unfold endOfInterrupt
    split <;> simp
  levelChanged_device _ _ _ _ := rfl
  levelChanged_gic _ _ _ _ := rfl

end Uart

end VmMonitor
