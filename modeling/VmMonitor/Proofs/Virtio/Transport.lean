import VmMonitor.Proofs.Device.Signal
import VmMonitor.Proofs.Virtio.Steps

/-!
The interrupt line of a transport. The status rises only where data moved, in the same step as the
line; the driver and a reset can do no more than lower it.
-/

namespace VmMonitor

open Signalling

namespace Transport

variable {ν : Type} {t t' : Transport ν} {b b' : Board} {lost : Nat → Prop}

instance : Signalling (Transport ν) where
  line? t := some t.line
  raised t := t.interruptStatus != 0
  sound _ := True

-- Nothing but the status matters to the line, and the status has not risen.
theorem moves_lowered (line : t'.line = t.line)
    (status : t'.interruptStatus ≠ 0 → t.interruptStatus ≠ 0) (gic : b'.gic = b.gic) :
    Moves lost t b.gic t' b'.gic := by
  rw [gic]
  refine ⟨congrArg some line, trivial, .still fun up => ?_⟩
  exact bne_iff_ne.mpr (status (bne_iff_ne.mp up))

theorem moves_kept (line : t'.line = t.line) (status : t'.interruptStatus = t.interruptStatus)
    (gic : b'.gic = b.gic) : Moves lost t b.gic t' b'.gic :=
  moves_lowered line (fun up => status ▸ up) gic

theorem finish_moves (t : Transport ν) (b : Board) (s : Served ν) :
    Moves lost t b.gic (t.finish b s).1 (t.finish b s).2.gic := by
  unfold finish
  dsimp only
  split
  · refine ⟨rfl, trivial, ?_⟩
    rw [Board.gic_request]
    exact .asserted rfl
  · exact moves_kept rfl rfl rfl

theorem acknowledged_moves (t : Transport ν) (b : Board) (value : UInt32) :
    Moves lost t b.gic { t with interruptStatus := t.interruptStatus &&& ~~~value } b.gic := by
  refine moves_lowered (b := b) rfl (fun up none => up ?_) rfl
  change t.interruptStatus &&& ~~~value = 0
  rw [none]
  exact UInt32.zero_and

variable [VirtioDevice ν]

theorem configure_moves (t : Transport ν) (b : Board) (f : QueueConfig → QueueConfig.Setting) :
    Moves lost t b.gic (t.configure b f).1 (t.configure b f).2.gic := by
  unfold configure
  split
  · exact moves_kept rfl rfl rfl
  · exact moves_kept rfl rfl (Board.gic_logAll ..)

theorem setQueueReady_moves {ready : Bool} {r : Transport ν × Board}
    (done : t.setQueueReady b ready = .ok r) : Moves lost t b.gic r.1 r.2.gic := by
  cases setQueueReady_readied done with
  | still => exact moves_kept rfl rfl rfl
  | refused text => exact moves_kept rfl rfl rfl
  | switched selected switch inside => exact moves_kept rfl rfl rfl

theorem notifyQueue_moves {i : Nat} {r : Transport ν × Board}
    (done : t.notifyQueue b i = .ok r) : Moves lost t b.gic r.1 r.2.gic := by
  cases notifyQueue_notified done with
  | refused text => exact moves_kept rfl rfl rfl
  | served notified => exact finish_moves ..

theorem ackFeatures_moves (t : Transport ν) (b : Board) (value : UInt32) :
    Moves lost t b.gic (t.ackFeatures b value).1 (t.ackFeatures b value).2.gic := by
  unfold ackFeatures
  split
  · refine moves_kept rfl rfl ?_
    dsimp only
    split <;> rfl
  · exact moves_kept rfl rfl rfl

theorem setStatus_moves (t : Transport ν) (b : Board) (value : UInt32) :
    Moves lost t b.gic (t.setStatus b value).1 (t.setStatus b value).2.gic := by
  unfold setStatus
  split
  · exact moves_lowered rfl (fun up => absurd rfl up) rfl
  · refine moves_kept rfl rfl ?_
    dsimp only
    split <;> rfl

theorem writeRegister_moves {a : Access} {value : UInt32} {r : Transport ν × Board}
    (done : t.writeRegister b a value = .ok r) : Moves lost t b.gic r.1 r.2.gic := by
  unfold writeRegister at done
  generalize Register.of a.offset.toNat = register at done
  cases register with
  | queueReady => exact setQueueReady_moves done
  | queueNotify => exact notifyQueue_moves done
  | driverFeatures =>
      cases done
      exact ackFeatures_moves ..
  | interruptAck =>
      cases done
      exact acknowledged_moves ..
  | status =>
      cases done
      exact setStatus_moves ..
  | queueNum | queueDescLow | queueDescHigh | queueAvailLow | queueAvailHigh | queueUsedLow
  | queueUsedHigh =>
      cases done
      exact configure_moves ..
  | deviceFeaturesSel | driverFeaturesSel | queueSel =>
      cases done
      exact moves_kept rfl rfl rfl
  | magicValue | version | deviceId | vendorId | deviceFeatures | queueNumMax | interruptStatus
  | configGeneration | unknown =>
      cases done
      exact moves_kept rfl rfl rfl

theorem readRegister_gic (t : Transport ν) (b : Board) (a : Access) :
    (t.readRegister b a).2.gic = b.gic := by
  unfold readRegister
  split <;> rfl

theorem read_moves {a : Access} {r : Answered (Transport ν) UInt64} (done : t.read b a = .ok r) :
    Moves lost t b.gic r.device r.board.gic := by
  unfold read at done
  split at done
  · split at done <;> cases done <;> exact moves_kept rfl rfl rfl
  split at done
  · cases done
    exact moves_kept rfl rfl rfl
  · cases done
    exact moves_kept rfl rfl (readRegister_gic ..)

theorem write_moves {a : Access} {value : UInt64} {r : Answered (Transport ν) Unit}
    (done : t.write b a value = .ok r) : Moves lost t b.gic r.device r.board.gic := by
  obtain ⟨answer, after, board⟩ := r
  cases write_written done with
  | refused outside => exact moves_kept rfl rfl rfl
  | configured outside bytes => exact moves_kept rfl rfl rfl
  | stored below word wrote => exact writeRegister_moves wrote

theorem input_moves {data : List UInt8} {r : Answered (Transport ν) Unit}
    (done : t.input b data = .ok r) : Moves lost t b.gic r.device r.board.gic := by
  obtain ⟨served, _, rfl⟩ := input_parts done
  exact finish_moves ..

instance : LawfulSignalling (Transport ν) where
  read_moves _ := read_moves
  write_moves _ := write_moves
  input_moves _ := input_moves
  endOfInterrupt_device t b _ := endOfInterrupt_same t b
  endOfInterrupt_gic t b _ := by
    change (t.endOfInterrupt b).2.gic = if t.interruptStatus != 0 then _ else _
    unfold endOfInterrupt
    split <;> simp
  levelChanged_device _ _ _ _ := rfl
  levelChanged_gic _ _ _ _ := rfl

end Transport

end VmMonitor
