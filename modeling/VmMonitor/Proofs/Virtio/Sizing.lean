import VmMonitor.Proofs.Virtio.Programmed

/-!
The size that a queue gets. A driver asks for it with a whole word, of which the configuration keeps
the low half, and nothing looks at it before the queue is made ready. So the ring has the size that
the low half gives, or the queue is refused; it is the size that was asked for where that fits.
-/

namespace VmMonitor

open SplitQueue Virtio

namespace QueueConfig

variable {c : QueueConfig}

-- The ring that a configuration describes, before any chain was taken.
def ring (c : QueueConfig) : SplitQueue := ⟨c.size, c.descTable, c.availRing, c.usedRing, 0, 0⟩

-- What a queue has to meet to be made ready.
structure Sound (c : QueueConfig) : Prop where
  power : c.size.toNat.isPowerOfTwo
  offered : c.size ≤ c.maxSize
  below : ∀ area ∈ areas c.size c.descTable c.availRing c.usedRing,
    area.2.1.toNat + area.2.2 < UInt64.size

theorem Sound.new_ring (sound : c.Sound) : SplitQueue.new c = .ok c.ring := by
  have power := isPowerOfTwo_iff.mpr sound.power
  have inside : (areas c.size c.descTable c.availRing c.usedRing).find?
      (fun area => (area.2.1.checkedAdd (UInt64.ofNat area.2.2)).isNone) = none := by
    apply List.find?_eq_none.mpr
    intro area listed
    have below := sound.below area listed
    have small : area.2.2 < UInt64.size := Nat.lt_of_le_of_lt (Nat.le_add_left ..) below
    simp [GuestAddress.checkedAdd, Nat.mod_eq_of_lt small, below]
  unfold SplitQueue.new
  simp [power, inside, ring]

theorem Sound.activate (sound : c.Sound) :
    c.activate = .ok (c.ring, { c with ready := true }) := by
  have power := isPowerOfTwo_iff.mpr sound.power
  have some : c.size ≠ 0 := by
    intro none
    rw [none] at power
    cases power
  have offered := UInt16.not_lt.mpr sound.offered
  simp [QueueConfig.activate, some, power, offered, sound.new_ring, bind, Except.bind, pure,
    Except.pure]

theorem activate_refused (unsound : ¬ c.Sound) : ∃ e, c.activate = .error e := by
  cases activated : c.activate with
  | error e => exact ⟨e, rfl⟩
  | ok made =>
      obtain ⟨_, ring, power, offered⟩ := activate_parts activated
      obtain ⟨_, below⟩ := new_parts ring
      exact absurd ⟨isPowerOfTwo_toNat power, offered, below⟩ unsound

end QueueConfig

namespace Transport

variable {ν : Type} [VirtioDevice ν] {t : Transport ν} {b : Board} {c : QueueConfig} {a : Access}

theorem write_size (accessed : Register.queueNum.accessed a) (selected : t.selected? = some c)
    (idle : c.ready = false) (b : Board) (v : UInt32) :
    t.write b a v.toUInt64 =
      .ok ⟨.ok (), t.setQueue t.queueSelect.toNat { c with size := v.toUInt16 }, b⟩ := by
  have back : v.toUInt64.toUInt32 = v := by simp
  rw [write_register accessed, writeRegister, accessed.2.2, back]
  simp [configure, selected, QueueConfig.set, QueueConfig.complaints, idle, Board.logAll,
    Except.map]

theorem write_ready (accessed : Register.queueReady.accessed a) (b : Board) :
    t.write b a 1 = (t.setQueueReady b true).map fun after => ⟨.ok (), after.1, after.2⟩ := by
  rw [write_register accessed, writeRegister, accessed.2.2]
  rfl

-- Making a queue ready, where its configuration will do and where it will not.

theorem setQueueReady_sound (selected : t.selected? = some c) (idle : c.ready = false)
    (inside : t.queueSelect.toNat < t.rings.length) (sound : c.Sound) :
    t.setQueueReady b true = .ok ({ t with
      queues := t.queues.set t.queueSelect.toNat { c with ready := true }
      rings := t.rings.set t.queueSelect.toNat (some c.ring) }, b) := by
  simp [setQueueReady, selected, idle, sound.activate, setQueue, setRing, inside, bind,
    Except.bind, pure, Except.pure]

theorem setQueueReady_unsound (selected : t.selected? = some c) (idle : c.ready = false)
    (unsound : ¬ c.Sound) :
    ∃ e : QueueError, c.activate = .error e ∧ t.setQueueReady b true =
      .ok (t, b.warn s!"{t.label}: refusing to make queue {t.queueSelect.toNat} ready: {e.message}")
    := by
  obtain ⟨e, refused⟩ := QueueConfig.activate_refused unsound
  refine ⟨e, refused, ?_⟩
  simp [setQueueReady, selected, idle, refused, pure, Except.pure]

-- A driver that selects queue `i`, asks for `v` entries and makes the queue ready.
def requests (i v : UInt32) : List (UInt64 × UInt64) :=
  [(0x30, i.toUInt64), (0x38, v.toUInt64), (0x44, 1)]

-- What the request comes to for a queue with configuration `c`. The size that counts is the low
-- half of the word.
structure Sized (t : Transport ν) (b : Board) (c : QueueConfig) (i v : UInt32)
    (after : Transport ν × Board) : Prop where
  offer : ∀ b a, Register.queueNumMax.accessed a →
    (t.select i).read b a = .ok ⟨.ok c.maxSize.toUInt64, t.select i, b⟩
  ready : after.1.isReady i.toNat = true ↔ { c with size := v.toUInt16 }.Sound
  ring : after.1.isReady i.toNat = true →
    ring? after.1.rings i.toNat = some { c with size := v.toUInt16 }.ring ∧ after.2 = b
  refused : after.1.isReady i.toNat = false → after.1.rings = t.rings ∧
    ∃ e : QueueError, { c with size := v.toUInt16 }.activate = .error e ∧
      after.2 = b.warn s!"{t.label}: refusing to make queue {i.toNat} ready: {e.message}"
  others : ∀ j, i.toNat ≠ j →
    after.1.queues[j]? = t.queues[j]? ∧ after.1.rings[j]? = t.rings[j]?
  -- A word whose upper half is not lost on the way.
  asked : v.toNat < 65536 → after.1.isReady i.toNat = true →
    v.toNat.isPowerOfTwo ∧ v.toNat ≤ c.maxSize.toNat ∧
      ∃ q, ring? after.1.rings i.toNat = some q ∧ q.size.toNat = v.toNat

-- The driver's three words, up to what the last of them comes to.
theorem stores_requests {i : UInt32} (found : t.queues[i.toNat]? = some c) (idle : c.ready = false)
    (b : Board) (v : UInt32) :
    t.stores b (requests i v) =
      ((t.select i).setQueue i.toNat { c with size := v.toUInt16 }).setQueueReady b true := by
  have selected : (t.select i).selected? = some c := found
  have written := write_size (a := ⟨0x38, 0x38, .word⟩) (by decide) selected idle b v
  rw [requests, stores, write_select (by decide) b i]
  change stores (t.select i) b _ = _
  rw [stores, written]
  change stores ((t.select i).setQueue i.toNat _) b _ = _
  rw [stores, write_ready (by decide) b]
  cases ((t.select i).setQueue i.toNat { c with size := v.toUInt16 }).setQueueReady b true <;> rfl

-- A queue that is made ready has the size that was asked for, if the word fits the register that
-- keeps it; if not, it has what is left of the word. A queue that would not do stays as it was.
theorem requests_sized {i : UInt32} (paired : t.rings.length = t.queues.length)
    (found : t.queues[i.toNat]? = some c) (idle : c.ready = false) (b : Board) (v : UInt32) :
    ∃ after, t.stores b (requests i v) = .ok after ∧ Sized t b c i v after := by
  obtain ⟨inside, _⟩ := List.getElem?_eq_some_iff.mp found
  let c' : QueueConfig := { c with size := v.toUInt16 }
  let t' : Transport ν := (t.select i).setQueue i.toNat c'
  have selected : t'.selected? = some c' := List.getElem?_set_self inside
  have offer (b : Board) (a : Access) (accessed : Register.queueNumMax.accessed a) :
      (t.select i).read b a = .ok ⟨.ok c.maxSize.toUInt64, t.select i, b⟩ := by
    have selected : (t.select i).selected? = some c := found
    rw [read_register accessed, readRegister, accessed.2.2]
    simp [selected]
  have elsewhere (q : QueueConfig) (j : Nat) (other : i.toNat ≠ j) :
      (t'.queues.set i.toNat q)[j]? = t.queues[j]? := by
    simp [t', setQueue, select, other]
  rw [stores_requests found idle]
  change ∃ after, t'.setQueueReady b true = .ok after ∧ _
  by_cases sound : c'.Sound
  · have made := setQueueReady_sound (b := b) selected idle
      (show i.toNat < t.rings.length by omega) sound
    have up : isReady { t' with
        queues := t'.queues.set i.toNat { c' with ready := true }
        rings := t.rings.set i.toNat (some c'.ring) } i.toNat = true := by
      simp [isReady, t', setQueue, select, inside]
    have ring : ring? (t.rings.set i.toNat (some c'.ring)) i.toNat = some c'.ring := by
      simp [ring?, paired, inside]
    refine ⟨_, made, offer, ⟨fun _ => sound, fun _ => up⟩, fun _ => ⟨ring, rfl⟩, ?_, ?_, ?_⟩
    · intro down
      exact absurd (up.symm.trans down) (by decide)
    · intro j other
      exact ⟨elsewhere _ j other, List.getElem?_set_ne other⟩
    · intro small _
      have whole : v.toUInt16.toNat = v.toNat := by simp [Nat.mod_eq_of_lt small]
      refine ⟨whole ▸ sound.power, ?_, _, ring, whole⟩
      rw [← whole]
      exact UInt16.le_iff_toNat_le.mp sound.offered
  · obtain ⟨e, refused, left⟩ := setQueueReady_unsound (b := b) selected idle sound
    have down : t'.isReady i.toNat = false := by
      simp [isReady, t', setQueue, select, inside, c', idle]
    have never (up : t'.isReady i.toNat = true) : False :=
      absurd (down.symm.trans up) (by decide)
    refine ⟨_, left, offer, ⟨fun up => (never up).elim, fun fit => absurd fit sound⟩,
      fun up => (never up).elim, fun _ => ⟨rfl, e, refused, rfl⟩, ?_, fun _ up => (never up).elim⟩
    intro j other
    refine ⟨?_, rfl⟩
    simp [t', setQueue, select, other]

-- A console whose driver asks for 64 entries of at most 256 for its second queue.
theorem requests_sized_smaller :
    let t := Transport.new (Console.new .accepting) 48
    let b : Board := ⟨⟨⟨[]⟩, #[]⟩, .initial⟩
    t.rings.length = t.queues.length ∧ t.queues[1]? = some (QueueConfig.new 256) ∧
      ∃ after, t.stores b (requests 1 64) = .ok after ∧ after.1.isReady 1 = true ∧
        Sized t b (QueueConfig.new 256) 1 64 after := by
  intro t b
  obtain ⟨after, done, sized⟩ :=
    requests_sized (t := t) (c := QueueConfig.new 256) (i := 1) rfl rfl rfl b 64
  have ran : (t.stores b (requests 1 64)).toOption.any (fun r => r.1.isReady 1) = true := by
    decide +kernel
  obtain ⟨_, same, up⟩ := Checked.ok_of_any ran
  cases done.symm.trans same
  exact ⟨rfl, rfl, after, done, up, sized⟩

-- Of 65552 entries, which is no power of two and far too many, 16 are left.
theorem requests_truncated :
    ∃ after q, (Transport.new (Console.new .accepting) 48).stores ⟨⟨⟨[]⟩, #[]⟩, .initial⟩
        (requests 1 65552) = .ok after ∧ after.1.isReady 1 = true ∧
      ring? after.1.rings 1 = some q ∧ q.size.toNat = 16 ∧
      ¬ (65552 : UInt32).toNat.isPowerOfTwo ∧ Console.queueSize.toNat < (65552 : UInt32).toNat := by
  have ran : ((Transport.new (Console.new .accepting) 48).stores ⟨⟨⟨[]⟩, #[]⟩, .initial⟩
      (requests 1 65552)).toOption.any (fun r => r.1.isReady 1 &&
        (ring? r.1.rings 1).any fun q => q.size.toNat = 16) = true := by
    decide +kernel
  obtain ⟨after, done, ran⟩ := Checked.ok_of_any ran
  obtain ⟨up, ran⟩ := Bool.and_eq_true_iff.mp ran
  obtain ⟨q, found, size⟩ := (Option.any_eq_true _ _).mp ran
  refine ⟨after, q, done, up, found, of_decide_eq_true size, ?_, by decide⟩
  intro power
  exact absurd ((Nat.and_sub_one_eq_zero_iff_isPowerOfTwo (by decide)).mpr power) (by decide)

end Transport

end VmMonitor
