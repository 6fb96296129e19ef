import VmMonitor.Virtio.Transport

/-!
What the steps of a transport can come to, case by case, each with what has to hold for it. Whatever
every step keeps is shown of these cases.
-/

namespace VmMonitor

namespace Transport

variable {ν : Type} {t t' : Transport ν} {b : Board} {r : Transport ν × Board}

theorem setRing_parts {i : Nat} {ring : Option SplitQueue} (done : t.setRing i ring = .ok t') :
    i < t.rings.length ∧ t' = { t with rings := t.rings.set i ring } := by
  unfold setRing at done
  split at done <;> cases done
  exact ⟨‹_›, rfl⟩

-- Whether data moved or not, only the interrupt status is left to differ.
theorem finish_device (t : Transport ν) (b : Board) (served : Served ν) :
    ∃ status, (t.finish b served).1 =
      { t with device := served.device, rings := served.rings, interruptStatus := status } := by
  unfold finish
  dsimp only
  split <;> exact ⟨_, rfl⟩

theorem endOfInterrupt_same (t : Transport ν) (b : Board) : (t.endOfInterrupt b).1 = t := by
  unfold endOfInterrupt
  split <;> rfl

-- A queue that is taken down, or put up with a ring of its own.
inductive Switched (c : QueueConfig) : QueueConfig → Option SplitQueue → Prop
  | down : Switched c c.deactivate none
  | up {c' : QueueConfig} {q : SplitQueue} (idle : c.ready = false)
      (activated : c.activate = .ok (q, c')) : Switched c c' (some q)

-- The selected queue as it is made ready or not.
inductive Readied (t : Transport ν) (b : Board) : Transport ν × Board → Prop
  | still : Readied t b (t, b)
  | refused (text : String) : Readied t b (t, b.warn text)
  | switched {c c' : QueueConfig} {ring : Option SplitQueue} (selected : t.selected? = some c)
      (switch : Switched c c' ring) (inside : t.queueSelect.toNat < t.rings.length) :
      Readied t b ({ t with
        queues := t.queues.set t.queueSelect.toNat c'
        rings := t.rings.set t.queueSelect.toNat ring }, b)

variable [VirtioDevice ν]

-- A notification that the device gets or does not get.
inductive Notified (t : Transport ν) (b : Board) (i : Nat) : Transport ν × Board → Prop
  | refused (text : String) : Notified t b i (t, b.warn text)
  | served {served : Served ν}
      (done : VirtioDevice.notify t.device b.toMedium t.rings i = .ok served) :
      Notified t b i (t.finish b served)

-- A store to the configuration space, to a register or to nothing at all.
inductive Written (t : Transport ν) (b : Board) (a : Access) (value : UInt64) :
    Transport ν × Board → Prop
  | refused (outside : ¬ (a.offset < configStart ∧ a.width = .word)) : Written t b a value (t, b)
  | configured (outside : ¬ (a.offset < configStart ∧ a.width = .word)) (bytes : List UInt8) :
      Written t b a value ({ t with
        device := VirtioDevice.writeConfig t.device (a.offset - configStart) bytes
        configGeneration := t.configGeneration + 1 }, b)
  | stored {after : Transport ν × Board} (below : a.offset < configStart) (word : a.width = .word)
      (done : t.writeRegister b a value.toUInt32 = .ok after) : Written t b a value after

theorem setQueueReady_readied {ready : Bool} (done : t.setQueueReady b ready = .ok r) :
    Readied t b r := by
  unfold setQueueReady at done
  dsimp only at done
  split at done
  · cases done
    exact .refused _
  rename_i c selected
  split at done
  · obtain ⟨t', placed, done⟩ := Checked.bind_eq_ok.mp done
    cases done
    obtain ⟨inside, rfl⟩ := setRing_parts placed
    exact .switched selected .down inside
  split at done
  · cases done
    exact .still
  rename_i idle
  split at done
  · rename_i activated
    obtain ⟨t', placed, done⟩ := Checked.bind_eq_ok.mp done
    cases done
    obtain ⟨inside, rfl⟩ := setRing_parts placed
    exact .switched selected (.up (Bool.eq_false_iff.mpr idle) activated) inside
  · cases done
    exact .refused _

theorem notifyQueue_notified {i : Nat} (done : t.notifyQueue b i = .ok r) : Notified t b i r := by
  unfold notifyQueue at done
  split at done
  · cases done
    exact .refused _
  · obtain ⟨served, notified, done⟩ := Checked.bind_eq_ok.mp done
    cases done
    exact .served notified

theorem write_written {a : Access} {value : UInt64} {r : Answered (Transport ν) Unit}
    (done : t.write b a value = .ok r) : Written t b a value (r.device, r.board) := by
  unfold write at done
  split at done
  · rename_i above
    have outside : ¬ (a.offset < configStart ∧ a.width = .word) := fun both =>
      absurd both.1 (UInt64.not_lt.mpr above)
    split at done
    · cases done
      exact .refused outside
    · cases done
      exact .configured outside _
  rename_i below
  split at done
  · rename_i narrow
    cases done
    exact .refused fun both => narrow both.2
  · rename_i word
    obtain ⟨⟨t', b'⟩, wrote, done⟩ := Checked.bind_eq_ok.mp done
    cases done
    exact .stored (UInt64.not_le.mp below) (Decidable.not_not.mp word) wrote

theorem input_parts {data : List UInt8} {r : Answered (Transport ν) Unit}
    (done : t.input b data = .ok r) :
    ∃ served, VirtioDevice.input t.device b.toMedium t.rings data = .ok served ∧
      r = ⟨.ok (), (t.finish b served).1, (t.finish b served).2⟩ := by
  unfold input at done
  obtain ⟨served, taken, done⟩ := Checked.bind_eq_ok.mp done
  cases done
  exact ⟨served, taken, rfl⟩

end Transport

end VmMonitor
