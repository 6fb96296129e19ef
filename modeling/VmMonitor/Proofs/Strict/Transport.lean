import VmMonitor.Proofs.Strict.Controller
import VmMonitor.Proofs.Strict.Registers
import VmMonitor.Proofs.Strict.Service
import VmMonitor.Proofs.Virtio.Make

/-!
The transport with every operation checked. It has a ring for each of its queues, and the size of a
ring is the one that activation has seen to be a power of two.
-/

namespace VmMonitor

open Checked Virtio

namespace Transport

section Definitions

variable {ν : Type} [VirtioDevice ν]

-- The registers that tell a driver what it deals with.
def identity (type : DeviceType) : RegisterSpace := .ofSpecs
  [.fixed "MagicValue" 0x0 magic.toUInt64, .fixed "Version" 0x4 version.toUInt64,
    .fixed "DeviceID" 0x8 type.id.toUInt64, .fixed "VendorID" 0xc vendor.toUInt64]

def strictIdentity (t : Transport ν) (offset : UInt64) : Checked UInt32 := do
  match ← (identity (VirtioDevice.deviceType t.device)).read offset .word with
  | .ok value => return value.toUInt32
  | .error _ => return 0

def strictFeaturePage (features : UInt64) (page : UInt32) : Checked UInt32 :=
  if page < 2 then do
    return (← shiftRight features (← product 32 page.toNat 32)).toUInt32
  else .ok 0

def strictAckFeatures (t : Transport ν) (b : Board) (value : UInt32) :
    Checked (Transport ν × Board) :=
  if t.driverFeatureSelect < 2 then do
    let shift ← product 32 t.driverFeatureSelect.toNat 32
    let page ← shiftLeft 0xffffffff shift
    let offered := VirtioDevice.features t.device
    let requested ← shiftLeft value.toUInt64 shift
    let b := if requested &&& ~~~offered != 0 then
        b.warn s!"{t.label}: driver acked unoffered features {Text.hex (requested &&& ~~~offered)}"
      else b
    let acked := (t.acked &&& ~~~page) ||| (requested &&& offered)
    return ({ t with acked := acked, device := VirtioDevice.ackFeatures t.device acked }, b)
  else
    .ok (t, b.warn <| s!"invalid ack_features (page {t.driverFeatureSelect}, " ++
      s!"value {Text.hexNat value.toNat})")

def strictSetQueueReady (t : Transport ν) (b : Board) (ready : Bool) :
    Checked (Transport ν × Board) := do
  let i := t.queueSelect.toNat
  match t.selected? with
  | none => return (t, b.warn s!"{t.label}: QueueReady for missing queue {i}")
  | some q =>
      if !ready then return (← (t.setQueue i q.deactivate).setRing i none, b)
      if q.ready then return (t, b)
      match ← q.strictActivate with
      | .ok (ring, q) => return (← (t.setQueue i q).setRing i (some ring), b)
      | .error e =>
          return (t, b.warn s!"{t.label}: refusing to make queue {i} ready: {e.message}")

def strictFinish (t : Transport ν) (b : Board) (s : Served ν) : Checked (Transport ν × Board) := do
  let t := { t with device := s.device, rings := s.rings }
  let b := { b with toMedium := s.medium }
  if s.moved then
    return ({ t with interruptStatus := t.interruptStatus ||| usedRingInterrupt },
      ← b.strictRequest (.assert t.line))
  else return (t, b)

-- The other registers read a word as it is.
def strictReadRegister (t : Transport ν) (b : Board) (a : Access) : Checked (UInt32 × Board) :=
  match Register.of a.offset.toNat with
  | .magicValue => do return (← t.strictIdentity 0x0, b)
  | .version => do return (← t.strictIdentity 0x4, b)
  | .deviceId => do return (← t.strictIdentity 0x8, b)
  | .vendorId => do return (← t.strictIdentity 0xc, b)
  | .deviceFeatures => do
      return (← strictFeaturePage (VirtioDevice.features t.device) t.deviceFeatureSelect, b)
  | _ => .ok (t.readRegister b a)

def strictEndOfInterrupt (t : Transport ν) (b : Board) : Checked (Transport ν × Board) := do
  if t.interruptStatus != 0 then return (t, ← b.strictRequest (.assert t.line)) else return (t, b)

variable [StrictVirtioDevice ν]

def strictNotifyQueue (t : Transport ν) (rounds : Nat) (b : Board) (i : Nat) :
    Checked (Transport ν × Board) := do
  match ring? t.rings i with
  | none => return (t, b.warn s!"{t.label}: notify of queue {i} that is not ready")
  | some _ =>
      t.strictFinish b (← StrictVirtioDevice.notify rounds t.device b.toMedium t.rings i)

-- The other registers store a word as it is.
def strictWriteRegister (t : Transport ν) (rounds : Nat) (b : Board) (a : Access)
    (value : UInt32) : Checked (Transport ν × Board) :=
  match Register.of a.offset.toNat with
  | .driverFeatures => t.strictAckFeatures b value
  | .queueReady => t.strictSetQueueReady b (value = 1)
  | .queueNotify => t.strictNotifyQueue rounds b value.toNat
  | _ => t.writeRegister b a value

def strictRead (t : Transport ν) (b : Board) (a : Access) :
    Checked (Answered (Transport ν) UInt64) :=
  if configStart ≤ a.offset then
    if a.width = .double then .ok ⟨.error (a.unsupported .read), t, b⟩
    else do
      let buffer ← slice (List.replicate 8 0) 0 a.width.bytes
      let offset ← sub a.offset configStart
      let bytes ← StrictVirtioDevice.readConfig t.device offset buffer
      return ⟨.ok (UInt64.ofNat (Bytes.toNat bytes)), t, b⟩
  else if a.width ≠ .word then .ok ⟨.error (a.unsupported .read), t, b⟩
  else do
    let (value, b) ← t.strictReadRegister b a
    return ⟨.ok value.toUInt64, t, b⟩

def strictWrite (t : Transport ν) (rounds : Nat) (b : Board) (a : Access) (value : UInt64) :
    Checked (Answered (Transport ν) Unit) :=
  if configStart ≤ a.offset then
    if a.width = .double then .ok ⟨.error (a.unsupported .write), t, b⟩
    else do
      let data ← slice (Bytes.ofNat value.toNat 8) 0 a.width.bytes
      let device := VirtioDevice.writeConfig t.device (← sub a.offset configStart) data
      return ⟨.ok (), { t with device := device, configGeneration := t.configGeneration + 1 }, b⟩
  else if a.width ≠ .word then .ok ⟨.error (a.unsupported .write), t, b⟩
  else do
    let (t, b) ← t.strictWriteRegister rounds b a value.toUInt32
    return ⟨.ok (), t, b⟩

def strictInput (t : Transport ν) (rounds : Nat) (b : Board) (data : List UInt8) :
    Checked (Answered (Transport ν) Unit) := do
  let (t, b) ← t.strictFinish b
    (← StrictVirtioDevice.input rounds t.device b.toMedium t.rings data)
  return ⟨.ok (), t, b⟩

-- What the work on the queues relies on, whatever was asked of the device before.
structure Steady {ν : Type} (t : Transport ν) : Prop where
  lengths : t.rings.length = t.queues.length
  power : ∀ i q, ring? t.rings i = some q → isPowerOfTwo q.size = true

end Definitions

variable {ν : Type} [VirtioDevice ν] {t t' : Transport ν} {b : Board}

theorem new_steady (device : ν) (line : Nat) : (Transport.new device line).Steady where
  lengths := List.length_map ..
  power i q found := by
    change ring? (List.map _ _) i = some q at found
    rw [ring_cleared] at found
    cases found

theorem strictIdentity_ok (t : Transport ν) :
    t.strictIdentity 0x0 = .ok magic ∧ t.strictIdentity 0x4 = .ok version ∧
      t.strictIdentity 0x8 = .ok (VirtioDevice.deviceType t.device).id ∧
      t.strictIdentity 0xc = .ok vendor := by
  unfold strictIdentity
  cases VirtioDevice.deviceType t.device with
  | net => exact ⟨rfl, rfl, rfl, rfl⟩
  | console => exact ⟨rfl, rfl, rfl, rfl⟩

-- There are two pages of features.
theorem strictFeaturePage_ok (features : UInt64) (page : UInt32) :
    strictFeaturePage features page = .ok (featurePage features page) := by
  unfold strictFeaturePage featurePage
  split
  · rename_i known
    rcases page_cases known with rfl | rfl <;> rfl
  · rfl

theorem strictAckFeatures_ok (t : Transport ν) (b : Board) (value : UInt32) :
    t.strictAckFeatures b value = .ok (t.ackFeatures b value) := by
  unfold strictAckFeatures ackFeatures
  split
  · rename_i known
    generalize t.driverFeatureSelect = page at known
    rcases page_cases known with rfl | rfl <;> rfl
  · rfl

theorem strictSetQueueReady_same (t : Transport ν) (b : Board) (ready : Bool) :
    t.strictSetQueueReady b ready = t.setQueueReady b ready := by
  unfold strictSetQueueReady setQueueReady
  cases t.selected? with
  | none => rfl
  | some q =>
      dsimp only
      rewrite [bind_ok q.strictActivate_ok]
      rfl

omit [VirtioDevice ν] in
theorem strictFinish_ok (t : Transport ν) (b : Board) (s : Served ν) :
    t.strictFinish b s = .ok (t.finish b s) := by
  unfold strictFinish finish
  simp only [Board.strictRequest_ok, ok_bind]
  split <;> rfl

theorem strictReadRegister_ok (t : Transport ν) (b : Board) (a : Access) :
    t.strictReadRegister b a = .ok (t.readRegister b a) := by
  obtain ⟨magic, version, deviceId, vendor⟩ := t.strictIdentity_ok
  have features := strictFeaturePage_ok (VirtioDevice.features t.device) t.deviceFeatureSelect
  unfold strictReadRegister
  split
  · rename_i named
    rw [bind_ok magic, readRegister, named]
    rfl
  · rename_i named
    rw [bind_ok version, readRegister, named]
    rfl
  · rename_i named
    rw [bind_ok deviceId, readRegister, named]
    rfl
  · rename_i named
    rw [bind_ok vendor, readRegister, named]
    rfl
  · rename_i named
    rw [bind_ok features, readRegister, named]
    rfl
  · rfl

omit [VirtioDevice ν] in
theorem strictEndOfInterrupt_ok (t : Transport ν) (b : Board) :
    t.strictEndOfInterrupt b = .ok (t.endOfInterrupt b) := by
  unfold strictEndOfInterrupt endOfInterrupt
  rw [bind_ok (b.strictRequest_ok _)]
  split <;> rfl

theorem take_ofNat {n count k : Nat} (le : k ≤ count) :
    (Bytes.ofNat n count).take k = Bytes.ofNat n k := by
  induction k generalizing n count with
  | zero => rfl
  | succ k ih =>
      obtain ⟨rest, rfl⟩ : ∃ rest, count = rest + 1 := ⟨count - 1, by omega⟩
      rw [Bytes.ofNat, Bytes.ofNat, List.take_succ_cons, ih (by omega)]

theorem setQueueReady_ok (steady : t.Steady) (b : Board) (ready : Bool) :
    ∃ r, t.setQueueReady b ready = .ok r := by
  unfold setQueueReady
  dsimp only
  cases found : t.selected? with
  | none => exact ⟨_, rfl⟩
  | some q =>
      have inside : t.queueSelect.toNat < t.rings.length := by
        rw [steady.lengths]
        exact (List.getElem?_eq_some_iff.mp found).1
      have placed (c : QueueConfig) (ring : Option SplitQueue) :
          ∃ t', (t.setQueue t.queueSelect.toNat c).setRing t.queueSelect.toNat ring = .ok t' :=
        ⟨_, if_pos inside⟩
      dsimp only
      split
      · obtain ⟨t', done⟩ := placed q.deactivate none
        rw [bind_ok done]
        exact ⟨_, rfl⟩
      split
      · exact ⟨_, rfl⟩
      split
      · rename_i ring c _
        obtain ⟨t', done⟩ := placed c (some ring)
        rw [bind_ok done]
        exact ⟨_, rfl⟩
      · exact ⟨_, rfl⟩

section

variable [StrictVirtioDevice ν]

theorem strictRead_ok (t : Transport ν) (b : Board) (a : Access) :
    ∃ r, t.strictRead b a = .ok r ∧ t.read b a = .ok r := by
  unfold strictRead read
  by_cases config : configStart ≤ a.offset
  · rw [if_pos config, if_pos config]
    by_cases wide : a.width = .double
    · rw [if_pos wide, if_pos wide]
      exact ⟨_, rfl, rfl⟩
    · have bytes : a.width.bytes ≤ 8 := by cases a.width <;> decide
      have buffer : ((List.replicate 8 (0 : UInt8)).drop 0).take a.width.bytes =
          List.replicate a.width.bytes 0 := by
        rw [List.drop_zero, List.take_replicate, Nat.min_eq_left bytes]
      have inside : 0 + a.width.bytes ≤ (List.replicate 8 (0 : UInt8)).length := by
        rw [List.length_replicate]
        omega
      rw [if_neg wide, if_neg wide, bind_ok (slice_ok inside), buffer, bind_ok (sub_ok config),
        bind_ok (StrictVirtioDevice.readConfig_ok ..)]
      exact ⟨_, rfl, rfl⟩
  · rw [if_neg config, if_neg config]
    by_cases word : a.width ≠ .word
    · rw [if_pos word, if_pos word]
      exact ⟨_, rfl, rfl⟩
    · rw [if_neg word, if_neg word, bind_ok (t.strictReadRegister_ok b a)]
      exact ⟨_, rfl, rfl⟩

theorem strictNotifyQueue_faithful (steady : t.Steady) (b : Board) (i : Nat) :
    Faithful (fun rounds => t.strictNotifyQueue rounds b i) (t.notifyQueue b i) := by
  unfold strictNotifyQueue notifyQueue
  simp only [strictFinish_ok]
  cases ring? t.rings i with
  | none => exact .once ⟨_, rfl⟩
  | some q =>
      refine Faithful.bind ?_ fun s => ⟨_, rfl⟩
      exact StrictVirtioDevice.notify_faithful t.device b.toMedium steady.power i

theorem strictWriteRegister_faithful (steady : t.Steady) (b : Board) (a : Access)
    (value : UInt32) :
    Faithful (fun rounds => t.strictWriteRegister rounds b a value)
      (t.writeRegister b a value) := by
  unfold strictWriteRegister
  simp only [strictAckFeatures_ok, strictSetQueueReady_same]
  unfold writeRegister
  cases Register.of a.offset.toNat with
  | queueNotify => exact strictNotifyQueue_faithful steady b value.toNat
  | queueReady => exact .once (setQueueReady_ok steady b _)
  | _ => exact .once ⟨_, rfl⟩

theorem strictWrite_faithful (steady : t.Steady) (b : Board) (a : Access) (value : UInt64) :
    Faithful (fun rounds => t.strictWrite rounds b a value) (t.write b a value) := by
  unfold strictWrite write
  by_cases config : configStart ≤ a.offset
  · simp only [if_pos config]
    by_cases wide : a.width = .double
    · simp only [if_pos wide]
      exact .once ⟨_, rfl⟩
    · have bytes : a.width.bytes ≤ 8 := by cases a.width <;> decide
      have inside : 0 + a.width.bytes ≤ (Bytes.ofNat value.toNat 8).length := by
        rw [Bytes.length_ofNat]
        omega
      simp only [if_neg wide, slice_ok inside, sub_ok config, ok_bind, List.drop_zero,
        take_ofNat bytes]
      exact .once ⟨_, rfl⟩
  · simp only [if_neg config]
    by_cases word : a.width ≠ .word
    · simp only [if_pos word]
      exact .once ⟨_, rfl⟩
    · simp only [if_neg word]
      exact (strictWriteRegister_faithful steady b a value.toUInt32).bind fun r => ⟨_, rfl⟩

theorem strictInput_faithful (steady : t.Steady) (b : Board) (data : List UInt8) :
    Faithful (fun rounds => t.strictInput rounds b data) (t.input b data) := by
  unfold strictInput input
  simp only [strictFinish_ok]
  refine Faithful.bind ?_ fun s => ⟨_, rfl⟩
  exact StrictVirtioDevice.input_faithful t.device b.toMedium steady.power data

end

-- What is asked of a transport leaves it steady.
section Steady

omit [VirtioDevice ν] in
theorem Steady.setQueue (steady : t.Steady) (i : Nat) (c : QueueConfig) :
    (t.setQueue i c).Steady where
  lengths := by
    change t.rings.length = (t.queues.set i c).length
    rw [List.length_set]
    exact steady.lengths
  power := steady.power

-- A ring has the size that was checked when its queue was made ready.
omit [VirtioDevice ν] in
theorem Steady.switched {i : Nat} {c c' : QueueConfig} {ring : Option SplitQueue}
    (steady : t.Steady) (switch : Switched c c' ring) :
    Transport.Steady { t with queues := t.queues.set i c', rings := t.rings.set i ring } := by
  refine ⟨?_, fun j q found => ?_⟩
  · change (t.rings.set i ring).length = (t.queues.set i c').length
    rw [List.length_set, List.length_set]
    exact steady.lengths
  rcases ring_set found with new | old
  · cases switch with
    | down => cases new
    | up idle activated =>
        cases new
        obtain ⟨_, made, power, _⟩ := QueueConfig.activate_parts activated
        obtain ⟨rfl, _⟩ := SplitQueue.new_parts made
        exact power
  · exact steady.power j q old

theorem Steady.setQueueReady {ready : Bool} {r : Transport ν × Board} (steady : t.Steady)
    (done : t.setQueueReady b ready = .ok r) : r.1.Steady := by
  cases setQueueReady_readied done with
  | still => exact steady
  | refused text => exact steady
  | switched selected switch inside => exact steady.switched switch

theorem Steady.configure (steady : t.Steady) (f : QueueConfig → QueueConfig.Setting) :
    (t.configure b f).1.Steady := by
  unfold Transport.configure
  split
  · exact steady
  · exact steady.setQueue ..

theorem Steady.reset (steady : t.Steady) : t.reset.Steady where
  lengths := by
    change (t.rings.map _).length = (t.queues.map _).length
    rw [List.length_map, List.length_map]
    exact steady.lengths
  power i q found := by
    change ring? (t.rings.map _) i = some q at found
    rw [ring_cleared] at found
    cases found

variable [Lanes ν]

theorem Steady.finish {served : Served ν} (steady : t.Steady) (call : Call) (b : Board)
    {m : Medium} (done : call.perform t.device m t.rings = .ok served) :
    (t.finish b served).1.Steady := by
  have places := call_places done
  obtain ⟨status, after⟩ := finish_device t b served
  rw [after]
  refine ⟨?_, fun i q found => ?_⟩
  · have length := congrArg List.length places
    rw [List.length_map, List.length_map] at length
    change served.rings.length = t.queues.length
    rw [length]
    exact steady.lengths
  · have here := (ring_atRest t.rings i).trans (by rw [← places, ← ring_atRest, found])
    obtain ⟨q', was, same⟩ := Option.map_eq_some_iff.mp here
    have size : q'.size = q.size := congrArg (·.size) same
    rw [← size]
    exact steady.power i q' was

theorem Steady.notifyQueue {i : Nat} {r : Transport ν × Board} (steady : t.Steady)
    (done : t.notifyQueue b i = .ok r) : r.1.Steady := by
  cases notifyQueue_notified done with
  | refused text => exact steady
  | served notified => exact steady.finish (.notify i) b notified

theorem Steady.writeRegister {a : Access} {value : UInt32} {r : Transport ν × Board}
    (steady : t.Steady) (done : t.writeRegister b a value = .ok r) : r.1.Steady := by
  unfold Transport.writeRegister at done
  generalize Register.of a.offset.toNat = register at done
  cases register with
  | queueReady => exact steady.setQueueReady done
  | queueNotify => exact steady.notifyQueue done
  | driverFeatures =>
      cases done
      unfold ackFeatures
      split <;> exact ⟨steady.lengths, steady.power⟩
  | status =>
      cases done
      unfold setStatus
      split
      · exact steady.reset
      · exact ⟨steady.lengths, steady.power⟩
  | queueNum | queueDescLow | queueDescHigh | queueAvailLow | queueAvailHigh | queueUsedLow
  | queueUsedHigh =>
      cases done
      exact steady.configure _
  | _ =>
      cases done
      exact ⟨steady.lengths, steady.power⟩

theorem Steady.write {a : Access} {value : UInt64} {r : Answered (Transport ν) Unit}
    (steady : t.Steady) (done : t.write b a value = .ok r) : r.device.Steady := by
  obtain ⟨answer, after, board⟩ := r
  cases write_written done with
  | refused outside => exact steady
  | configured outside bytes => exact ⟨steady.lengths, steady.power⟩
  | stored below word wrote => exact steady.writeRegister wrote

theorem Steady.asked (steady : t.Steady) (asks : Asks t t') : t'.Steady := by
  cases asks with
  | read done =>
      rw [read_device done]
      exact steady
  | write done => exact steady.write done
  | completed b n =>
      change (t.endOfInterrupt b).1.Steady
      rw [endOfInterrupt_same]
      exact steady
  | level b n level => exact steady
  | @input b data r done =>
      obtain ⟨served, taken, rfl⟩ := input_parts done
      exact steady.finish (.input data) b taken
  | reset => exact steady.reset

end Steady

end Transport

end VmMonitor
