import VmMonitor.Proofs.Bus.Asked
import VmMonitor.Proofs.Virtio.Programmed

/-!
What a reset of a transport brings back: everything that a driver can read but for the number of
changes to the configuration space. What is left to tell two transports apart after a reset is what
they were made of, and nobody can change that.
-/

namespace VmMonitor

open PowerOn Virtio Virtio.Service

-- What a driver can tell about a device itself.
structure Virtio.Make where
  type : DeviceType
  features : UInt64
  config : UInt64 → List UInt8 → List UInt8

def Virtio.make {ν : Type} [VirtioDevice ν] (d : ν) : Make :=
  ⟨VirtioDevice.deviceType d, VirtioDevice.features d, VirtioDevice.readConfig d⟩

-- A device that nothing makes another device.
class FixedMake (ν : Type) [VirtioDevice ν] [Lanes ν] : Prop where
  acked : ∀ (d : ν) features, make (VirtioDevice.ackFeatures d features) = make d
  configured : ∀ (d : ν) offset bytes, make (VirtioDevice.writeConfig d offset bytes) = make d
  reset : ∀ d : ν, make (VirtioDevice.reset d) = make d
  accepted : ∀ (d : ν) m data, make (Lanes.accept d m data).1 = make d
  worked : ∀ {i s} {d d' : ν} {m m' chain written}, Lanes.lane? i = some s →
    s.work d m chain = .ok (written, d', m') → make d' = make d

namespace Virtio

-- One queue that sends and one that takes in.
theorem worked_either {σ α : Type} {view : σ → α} {s tx rx : Service σ} {i out inward : Nat}
    {d d' : σ} {m m' : Medium} {chain : DescriptorChain} {written : UInt32}
    (lane : (if i = out then some tx else if i = inward then some rx else none) = some s)
    (done : s.work d m chain = .ok (written, d', m'))
    (sends : tx.work d m chain = .ok (written, d', m') → view d' = view d)
    (fills : rx.work d m chain = .ok (written, d', m') → view d' = view d) :
    view d' = view d := by
  split at lane
  · cases lane
    exact sends done
  split at lane <;> cases lane
  exact fills done

section

variable {ν α β : Type} [VirtioDevice ν] [Lanes ν] {view : ν → α} {d : ν} {m : Medium}
  {rings : Rings} {served : Served ν}

-- What the calls of a device leave as it is.
structure Unworked (view : ν → α) : Prop where
  accepted : ∀ (d : ν) m data, view (Lanes.accept d m data).1 = view d
  worked : ∀ {i s} {d d' : ν} {m m' chain written}, Lanes.lane? i = some s →
    s.work d m chain = .ok (written, d', m') → view d' = view d

-- What nothing changes about a device.
structure Lasting (view : ν → α) : Prop extends Unworked view where
  acked : ∀ (d : ν) features, view (VirtioDevice.ackFeatures d features) = view d
  configured : ∀ (d : ν) offset bytes, view (VirtioDevice.writeConfig d offset bytes) = view d
  reset : ∀ d : ν, view (VirtioDevice.reset d) = view d

theorem Lasting.map (lasting : Lasting view) (f : α → β) : Lasting fun d => f (view d) where
  accepted d m data := congrArg f (lasting.accepted d m data)
  worked lane done := congrArg f (lasting.worked lane done)
  acked d features := congrArg f (lasting.acked d features)
  configured d offset bytes := congrArg f (lasting.configured d offset bytes)
  reset d := congrArg f (lasting.reset d)

theorem FixedMake.lasting [FixedMake ν] : Lasting (make : ν → Make) where
  accepted := FixedMake.accepted
  worked := FixedMake.worked
  acked := FixedMake.acked
  configured := FixedMake.configured
  reset := FixedMake.reset

theorem Lasting.fixedMake (lasting : Lasting (make : ν → Make)) : FixedMake ν :=
  ⟨lasting.acked, lasting.configured, lasting.reset, lasting.accepted, lasting.worked⟩

theorem Unworked.drain (unworked : Unworked view) {i fuel : Nat} {s : Service ν} {n n' : Drained ν}
    (lane : Lanes.lane? i = some s) (done : s.drain fuel n = .ok n') :
    view n'.state = view n.state := by
  refine drain_keeps (P := fun k => view k.state = view n.state) ?_ rfl done
  intro k more k' same round
  cases round with
  | sated full => exact same
  | empty ring popped => exact same
  | refused e ring text popped => exact same
  | lost ring e text hungry popped worked returned => exact (unworked.worked lane worked).trans same
  | served ring hungry popped worked returned => exact (unworked.worked lane worked).trans same

theorem Unworked.call (unworked : Unworked view) (call : Call)
    (done : call.perform d m rings = .ok served) : view served.device = view d := by
  have outset : view (call.outset d m).1 = view d := by
    cases call with
    | notify i => rfl
    | input data => exact unworked.accepted d m data
  rcases call_parts done with ⟨_, rfl⟩ | ⟨s, q, d', lane, _, drained, rfl⟩
  · exact outset
  · exact (unworked.drain lane drained).trans outset

end

end Virtio

namespace Console

variable {c c' : Console} {m m' : Medium} {chain : DescriptorChain} {written : UInt32}

-- A console without its terminal and without what waits in it.
def bare (c : Console) : Console := { c with sink := .accepting, buffered := [] }

theorem transmit_bare (done : c.transmit m chain = .ok (written, c', m')) : c'.bare = c.bare := by
  unfold transmit at done
  dsimp only at done
  split at done
  · cases done
    rfl
  · split at done <;> cases done <;> rfl

theorem deliver_bare (done : c.deliver m chain = .ok (written, c', m')) : c'.bare = c.bare := by
  obtain ⟨_, _, _, rfl, _⟩ := deliver_parts done
  rfl

theorem bare_lasting : Lasting bare where
  accepted _ _ _ := rfl
  worked lane done := worked_either lane done transmit_bare deliver_bare
  acked _ _ := rfl
  configured _ _ _ := rfl
  reset _ := rfl

instance : FixedMake Console := (bare_lasting.map make).fixedMake

end Console

namespace Net

variable {n n' : Net} {m m' : Medium} {chain : DescriptorChain} {written : UInt32}

-- A link without its network and without what waits in it.
def bare (n : Net) : Net := { n with sink := .accepting, backlog := [] }

theorem send_bare (n : Net) (m : Medium) (frame : List UInt8) : (n.send m frame).1.bare = n.bare := by
  unfold send
  split <;> rfl

theorem transmit_bare (done : n.transmit m chain = .ok (written, n', m')) : n'.bare = n.bare := by
  unfold transmit at done
  dsimp only at done
  split at done
  · cases done
    rfl
  split at done
  · cases done
    rfl
  split at done
  · cases done
    rfl
  · obtain ⟨frame, _, done⟩ := Checked.bind_eq_ok.mp done
    cases done
    exact send_bare ..

theorem deliver_bare (done : n.deliver m chain = .ok (written, n', m')) : n'.bare = n.bare := by
  unfold deliver at done
  split at done <;> cases done <;> rfl

theorem bare_unworked : Unworked bare where
  accepted n m data := by
    change (n.accept m data).1.bare = _
    unfold accept
    split <;> rfl
  worked lane done := worked_either lane done transmit_bare deliver_bare

-- What a driver has acknowledged is all that is left to change.
theorem unacked_lasting : Lasting fun n => { bare n with acked := 0 } where
  accepted n m data := congrArg ({ · with acked := 0 }) (bare_unworked.accepted n m data)
  worked lane done := congrArg ({ · with acked := 0 }) (bare_unworked.worked lane done)
  acked _ _ := rfl
  configured _ _ _ := rfl
  reset _ := rfl

instance : FixedMake Net := (unacked_lasting.map make).fixedMake

end Net

namespace Transport

section

variable {ν : Type} [VirtioDevice ν] {t u : Transport ν} {b b' : Board} {a : Access}

-- What a transport was made of.
def build (t : Transport ν) : Make × List UInt16 := (make t.device, t.queues.map (·.maxSize))

instance : PowerOn (Transport ν) where
  alike t u := t.build = u.build
  -- The configuration generation.
  outlasts _ offset := offset = 0xfc

section Answer

theorem configGeneration_at {offset : UInt64} :
    Register.of offset.toNat = .configGeneration ↔ offset = 0xfc := by
  constructor
  · intro named
    unfold Register.of at named
    split at named <;> cases named
    exact UInt64.toNat_inj.mp ‹_›
  · rintro rfl
    rfl

theorem reset_queues (same : t.build = u.build) : t.reset.queues = u.reset.queues := by
  have fresh (t : Transport ν) :
      t.reset.queues = (t.queues.map (·.maxSize)).map QueueConfig.new := by
    rw [List.map_map]
    rfl
  rw [fresh, fresh, (Prod.mk.inj same).2]

theorem reset_register (same : t.reset.build = u.reset.build)
    (queues : t.reset.queues = u.reset.queues) (passing : a.offset ≠ 0xfc) :
    (t.reset.readRegister b a).1 = (u.reset.readRegister b' a).1 := by
  obtain ⟨made, _⟩ := Prod.mk.inj same
  have type := congrArg Make.type made
  have features := congrArg Make.features made
  have selected : t.reset.selected? = u.reset.selected? := by
    unfold selected?
    rw [queues]
    rfl
  unfold readRegister
  cases register : Register.of a.offset.toNat with
  | configGeneration => exact absurd (configGeneration_at.mp register) passing
  | deviceId => exact congrArg DeviceType.id type
  | deviceFeatures => exact congrArg (featurePage · 0) features
  | queueNumMax =>
      dsimp only
      rw [selected]
  | queueReady =>
      dsimp only
      rw [selected]
  | _ => rfl

theorem read_answer (t : Transport ν) (b : Board) (a : Access) :
    BusDevice.answer t b a =
      .ok (if configStart ≤ a.offset then
        if a.width = .double then .error (a.unsupported .read)
        else .ok (UInt64.ofNat (Bytes.toNat (VirtioDevice.readConfig t.device
          (a.offset - configStart) (List.replicate a.width.bytes 0))))
      else if a.width ≠ .word then .error (a.unsupported .read)
      else .ok (t.readRegister b a).1.toUInt64) := by
  change (t.read b a).map (·.answer) = _
  unfold read
  split
  · split <;> rfl
  split <;> rfl

end Answer

end

section Made

variable {ν α : Type} {view : ν → α} {t t' : Transport ν}

-- What nothing done to a transport changes, where nothing done to its device changes the view.
def made (view : ν → α) (t : Transport ν) : α × Nat × List UInt16 :=
  (view t.device, t.line, t.queues.map (·.maxSize))

theorem made_congr (device : view t'.device = view t.device) (line : t'.line = t.line)
    (queues : t'.queues = t.queues) : t'.made view = t.made view := by
  unfold made
  rw [device, line, queues]

theorem setQueue_made {i : Nat} {c c' : QueueConfig} (found : t.queues[i]? = some c)
    (size : c'.maxSize = c.maxSize) : (t.setQueue i c').made view = t.made view := by
  have same : (t.queues.set i c').map (·.maxSize) = t.queues.map (·.maxSize) := by
    apply List.ext_getElem?
    intro j
    obtain ⟨inside, at_⟩ := List.getElem?_eq_some_iff.mp found
    by_cases here : i = j
    · subst here
      simp [inside, at_, size]
    · simp [here]
  exact Prod.ext rfl (Prod.ext rfl same)

variable {b : Board} {a : Access}

theorem finish_made {served : Served ν} (same : view served.device = view t.device) :
    (t.finish b served).1.made view = t.made view := by
  obtain ⟨status, after⟩ := finish_device t b served
  rw [after]
  exact made_congr same rfl rfl

variable [VirtioDevice ν]

theorem configure_made (t : Transport ν) (b : Board) (f : QueueConfig → QueueConfig.Setting) :
    (t.configure b f).1.made view = t.made view := by
  unfold configure
  split
  · rfl
  · rename_i c selected
    refine setQueue_made selected ?_
    unfold QueueConfig.set
    split
    · rfl
    · split <;> rfl

theorem Switched.maxSize {c c' : QueueConfig} {ring : Option SplitQueue}
    (switch : Switched c c' ring) : c'.maxSize = c.maxSize := by
  cases switch with
  | down => rfl
  | up idle activated =>
      obtain ⟨rfl, _⟩ := QueueConfig.activate_parts activated
      rfl

theorem setQueueReady_made {ready : Bool} {r : Transport ν × Board}
    (done : t.setQueueReady b ready = .ok r) : r.1.made view = t.made view := by
  cases setQueueReady_readied done with
  | still => rfl
  | refused text => rfl
  | switched selected switch inside => exact setQueue_made selected switch.maxSize

variable [Lanes ν]

theorem reset_made (lasting : Lasting view) (t : Transport ν) : t.reset.made view = t.made view := by
  unfold made reset
  rw [lasting.reset, List.map_map]
  rfl

theorem notifyQueue_made (lasting : Lasting view) {i : Nat} {r : Transport ν × Board}
    (done : t.notifyQueue b i = .ok r) : r.1.made view = t.made view := by
  cases notifyQueue_notified done with
  | refused text => rfl
  | served notified => exact finish_made (lasting.call (.notify i) notified)

theorem writeRegister_made (lasting : Lasting view) {value : UInt32} {r : Transport ν × Board}
    (done : t.writeRegister b a value = .ok r) : r.1.made view = t.made view := by
  unfold writeRegister at done
  generalize Register.of a.offset.toNat = register at done
  cases register with
  | queueReady => exact setQueueReady_made done
  | queueNotify => exact notifyQueue_made lasting done
  | driverFeatures =>
      cases done
      unfold ackFeatures
      split
      · exact made_congr (lasting.acked ..) rfl rfl
      · rfl
  | status =>
      cases done
      unfold setStatus
      split
      · exact reset_made lasting t
      · rfl
  | queueNum | queueDescLow | queueDescHigh | queueAvailLow | queueAvailHigh | queueUsedLow
  | queueUsedHigh =>
      cases done
      exact configure_made ..
  | _ =>
      cases done
      rfl

theorem write_made (lasting : Lasting view) {value : UInt64} {r : Answered (Transport ν) Unit}
    (done : t.write b a value = .ok r) : r.device.made view = t.made view := by
  obtain ⟨answer, after, board⟩ := r
  cases write_written done with
  | refused outside => rfl
  | configured outside bytes => exact made_congr (lasting.configured ..) rfl rfl
  | stored below word wrote => exact writeRegister_made lasting wrote

theorem input_made (lasting : Lasting view) {data : List UInt8} {r : Answered (Transport ν) Unit}
    (done : t.input b data = .ok r) : r.device.made view = t.made view := by
  obtain ⟨served, taken, rfl⟩ := input_parts done
  exact finish_made (lasting.call (.input data) taken)

theorem asks_made (lasting : Lasting view) (asks : Asks t t') : t'.made view = t.made view := by
  cases asks with
  | read done => rw [read_device done]
  | write done => exact write_made lasting done
  | input done => exact input_made lasting done
  | completed b n =>
      change (t.endOfInterrupt b).1.made view = t.made view
      rw [endOfInterrupt_same]
  | level b n level => rfl
  | reset => exact reset_made lasting t

variable [FixedMake ν]

theorem asks_build (asks : Asks t t') : t'.build = t.build :=
  congrArg (fun m => (m.1, m.2.2)) (asks_made FixedMake.lasting asks)

instance : LawfulPowerOn (Transport ν) where
  asked same asks := (asks_build asks).trans same
  outlasts_iff _ _ := Iff.rfl
  restored {t u} b b' a same passing := by
    have whole : t.reset.build = u.reset.build :=
      (asks_build .reset).trans (Eq.trans same (asks_build .reset).symm)
    have config := congrArg Make.config (Prod.mk.inj whole).1
    change BusDevice.answer t.reset b a = BusDevice.answer u.reset b' a
    rw [read_answer, read_answer, reset_register whole (reset_queues same) passing]
    dsimp only [make] at config
    rw [config]
  outlasting {t b b' a} lasting _ := by
    change BusDevice.answer t.reset b' a = BusDevice.answer t b a
    have below : ¬ configStart ≤ a.offset := by
      rw [show a.offset = 0xfc from lasting]
      decide
    have register := configGeneration_at.mpr lasting
    rw [read_answer, read_answer, if_neg below, if_neg below]
    unfold readRegister
    rw [register]
    rfl

end Made

end Transport

end VmMonitor
