import VmMonitor.Proofs.Bus.Asked
import VmMonitor.Proofs.Device.Distributor
import VmMonitor.Proofs.Device.Uart

/-!
What a reset of the distributor and of the UART brings back. The UART has all its state in itself.
The lines that the distributor shows are those of the controller, which no reset reaches.
-/

namespace VmMonitor

open PowerOn

namespace Distributor

variable {d : Distributor} {b : Board} {a : Access} {g g' : Gic} {width : Width}

instance : PowerOn Distributor where
  alike d e := d.registers.shape = e.registers.shape ∧ d.registers.Tidy
  outlasts _ offset := 0x100 ≤ offset.toNat ∧ offset.toNat < 0xd00

-- The banks that show the lines.
def Bank.showsLines : Bank → Bool
  | .plain | .group | .software | .unknown => false
  | _ => true

theorem Bank.of_showsLines (offset : Nat) :
    (Bank.of offset).showsLines = true ↔ 0x100 ≤ offset ∧ offset < 0xd00 := by
  simp only [Bank.of, apply_ite Bank.showsLines]
  simp only [showsLines, Bool.if_false_left, Bool.if_true_left, Bool.and_eq_true, Bool.or_eq_true,
    Bool.not_eq_true', decide_eq_false_iff_not, decide_eq_true_eq, Bool.false_eq_true, and_false,
    or_false]
  omega

theorem Bank.lineValue_zero {bank : Bank} (none : bank.showsLines = false) :
    bank.lineValue g width = 0 := by
  cases bank <;> first | rfl | cases none

theorem read_answer (d : Distributor) (b : Board) (a : Access) :
    BusDevice.answer d b a =
      if !(Bank.of a.offset.toNat).allows a.width then .ok (.error (a.unsupported .read))
      else if Bank.of a.offset.toNat = .plain then
        (d.registers.read a.offset a.width).map fun answer => .ok (answer.toOption.getD 0)
      else .ok (.ok ((Bank.of a.offset.toNat).lineValue b.gic a.width)) := by
  change (d.read b a).map (·.answer) = _
  unfold read
  dsimp only
  split
  · rfl
  split
  · rename_i plain
    rw [if_pos plain]
    cases d.registers.read a.offset a.width with
    | error e => rfl
    | ok answer => cases answer <;> rfl
  · rename_i software
    rw [software]
    rfl
  · rename_i unknown
    rw [unknown]
    rfl
  · rename_i notPlain _ _
    rw [if_neg notPlain]
    rfl

theorem write_shape {value : UInt64} {r : Answered Distributor Unit} (tidy : d.registers.Tidy)
    (done : d.write b a value = .ok r) : r.device.registers.shape = d.registers.shape := by
  unfold write at done
  dsimp only at done
  split at done
  · cases done
    rfl
  split at done
  · obtain ⟨⟨d', b'⟩, wrote, done⟩ := Checked.bind_eq_ok.mp done
    cases done
    unfold writePlain at wrote
    obtain ⟨answer, accessed, wrote⟩ := Checked.bind_eq_ok.mp wrote
    cases answer with
    | error e =>
        cases wrote
        rfl
    | ok found =>
        have shape := RegisterSpace.write_shape tidy accessed
        dsimp only at wrote
        split at wrote
        · split at wrote <;> cases wrote <;> exact shape
        · cases wrote
          exact shape
  · cases done
    rfl
  · cases done
    rfl
  · cases done
    rfl

theorem read_device {r : Answered Distributor UInt64} (done : d.read b a = .ok r) :
    r.device = d := by
  unfold read at done
  dsimp only at done
  split at done
  · cases done
    rfl
  split at done
  · obtain ⟨answer, _, done⟩ := Checked.bind_eq_ok.mp done
    cases answer <;> cases done <;> rfl
  all_goals
    cases done
    rfl

instance : LawfulPowerOn Distributor where
  asked {d d' e} same asks := by
    obtain ⟨shape, tidy⟩ := same
    have kept (shaped : d'.registers.shape = d.registers.shape) : alike d' e :=
      ⟨shaped.trans shape, by unfold RegisterSpace.Tidy; rw [shaped]; exact tidy⟩
    cases asks with
    | read done => exact kept (congrArg (·.registers.shape) (read_device done))
    | write done => exact kept (write_shape tidy done)
    | input done =>
        cases done
        exact kept rfl
    | completed b n => exact kept rfl
    | level b n level => exact kept rfl
    | reset => exact kept (RegisterSpace.reset_shape _)
  outlasts_iff _ _ := Iff.rfl
  restored {d e} b b' a same passing := by
    have registers : (BusDevice.reset d).registers = (BusDevice.reset e).registers :=
      RegisterSpace.reset_congr same.1
    have silent : (Bank.of a.offset.toNat).showsLines = false :=
      Bool.eq_false_iff.mpr fun shows => passing ((Bank.of_showsLines _).mp shows)
    rw [read_answer, read_answer, registers, Bank.lineValue_zero silent,
      Bank.lineValue_zero silent]
  outlasting {d b b' a} lasting gic := by
    have shows := (Bank.of_showsLines _).mpr lasting
    have notPlain : Bank.of a.offset.toNat ≠ .plain := by
      intro plain
      rw [plain] at shows
      cases shows
    rw [read_answer, read_answer, if_neg notPlain, if_neg notPlain, gic]

end Distributor

namespace Uart

variable {u v : Uart} {b b' : Board} {a : Access}

instance : PowerOn Uart where
  alike u v := u.registers.shape = plan ∧ v.registers.shape = plan
  outlasts _ _ := False

-- Neither the sink nor the line has a part in what is read.
theorem read_answer (registers : v.registers = u.registers) (received : v.received = u.received) :
    BusDevice.answer v b' a = BusDevice.answer u b a := by
  change (v.read b' a).map (·.answer) = (u.read b a).map (·.answer)
  have flags : v.flags = u.flags := by
    unfold Uart.flags
    rw [received]
  have status : v.maskedStatus = u.maskedStatus := by
    unfold maskedStatus
    rw [registers]
  unfold read receive
  rw [flags, status, registers, received]
  split
  · rfl
  split
  · rfl
  split
  · rfl
  split
  · rfl
  cases u.registers.read a.offset a.width with
  | error e => rfl
  | ok answer => cases answer <;> rfl

instance : LawfulPowerOn Uart where
  asked {u u' v} same asks := by
    obtain ⟨valid, fresh⟩ := same
    have sound : Signalling.sound u := valid
    refine ⟨?_, fresh⟩
    cases asks with
    | read done => exact (LawfulSignalling.read_moves sound done).sound
    | write done => exact (LawfulSignalling.write_moves sound done).sound
    | input done => exact (LawfulSignalling.input_moves sound done).sound
    | completed b n =>
        rw [LawfulSignalling.endOfInterrupt_device]
        exact valid
    | level b n level => exact valid
    | reset => exact (RegisterSpace.reset_shape _).trans valid
  outlasts_iff _ _ := Iff.rfl
  restored b b' a same _ :=
    read_answer (RegisterSpace.reset_congr (same.1.trans same.2.symm)) rfl
  outlasting lasting _ := lasting.elim

end Uart

end VmMonitor
