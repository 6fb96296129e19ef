import VmMonitor.Proofs.Virtio.Make

/-!
What a driver finds that comes after another one. Once the status is written to zero, the transport
goes through whatever happens next like a new transport over a new device of the same build: with the
same answers, and the same board after every one of them, whatever the board was. Only the number of
changes to the configuration space goes on from where it was.
-/

namespace VmMonitor

open Virtio

namespace Transport

-- What can happen to a transport and to the board that it is on.
inductive Demand where
  | load (a : Access)
  | store (a : Access) (value : UInt64)
  | input (data : List UInt8)
  | completed
  | reset
  -- The guest works on its memory, and other devices on the controller.
  | outside (change : Board → Board)

namespace Demand

-- A load that tells the configuration generation.
def Dated : Demand → Prop
  | load a => Register.configGeneration.accessed a
  | _ => False

instance : DecidablePred Dated
  | load a => inferInstanceAs (Decidable (Register.configGeneration.accessed a))
  | store .. | input _ | completed | reset | outside _ => inferInstanceAs (Decidable False)

-- The answer to a demand where the generation is larger by `g`.
def later (g : UInt32) (d : Demand) (answer : Except BusError (Option UInt64)) :
    Except BusError (Option UInt64) :=
  if d.Dated then answer.map (·.map fun v => (v.toUInt32 + g).toUInt64) else answer

theorem later_load (g : UInt32) (a : Access) (answer : Except BusError UInt64) :
    later g (load a) (answer.map some) =
      (if Register.configGeneration.accessed a then answer.map fun v => (v.toUInt32 + g).toUInt64
        else answer).map some := by
  unfold later
  change (if Register.configGeneration.accessed a then _ else _) = _
  split
  · cases answer <;> rfl
  · rfl

theorem later_undated {d : Demand} (undated : ¬ d.Dated) (g : UInt32)
    (answer : Except BusError (Option UInt64)) : d.later g answer = answer := if_neg undated

end Demand

-- A transport whose configuration space has changed `g` times more.
def aged {ν : Type} (g : UInt32) (t : Transport ν) : Transport ν :=
  { t with configGeneration := t.configGeneration + g }

variable {ν : Type} [VirtioDevice ν] {t : Transport ν} {fresh : ν} {line : Nat} {g : UInt32}
  {log : List (Stroke ν)}

def perform (t : Transport ν) (b : Board) :
    Demand → Checked (Answered (Transport ν) (Option UInt64))
  | .load a => (t.read b a).map fun r => ⟨r.answer.map some, r.device, r.board⟩
  | .store a value =>
      (t.write b a value).map fun r => ⟨r.answer.map fun _ => none, r.device, r.board⟩
  | .input data => (t.input b data).map fun r => ⟨r.answer.map fun _ => none, r.device, r.board⟩
  | .completed => .ok ⟨.ok none, (t.endOfInterrupt b).1, (t.endOfInterrupt b).2⟩
  | .reset => .ok ⟨.ok none, t.reset, b⟩
  | .outside change => .ok ⟨.ok none, t, change b⟩

-- What comes of one demand after the other, up to a fault if there is one: the answers, and the
-- board with its memory, all that left for the host and the controller.
def life (t : Transport ν) (b : Board) :
    List Demand → List (Checked (Except BusError (Option UInt64) × Board))
  | [] => []
  | d :: rest =>
      match t.perform b d with
      | .error e => [.error e]
      | .ok r => .ok (r.answer, r.board) :: life r.device r.board rest

section Aged

variable (t : Transport ν) (b : Board) (g : UInt32)

theorem setRing_aged {ν : Type} (t : Transport ν) (g : UInt32) (i : Nat)
    (ring : Option SplitQueue) :
    (t.aged g).setRing i ring = (t.setRing i ring).map (aged g) := by
  unfold setRing
  change (if i < t.rings.length then _ else _) = _
  split <;> rfl

theorem configure_aged (f : QueueConfig → QueueConfig.Setting) :
    (t.aged g).configure b f = (t.configure b f).map (aged g) id := by
  have selected : (t.aged g).selected? = t.selected? := rfl
  unfold configure
  rw [selected]
  cases t.selected? <;> rfl

theorem setQueueReady_aged (ready : Bool) :
    (t.aged g).setQueueReady b ready = (t.setQueueReady b ready).map (Prod.map (aged g) id) := by
  have place (q : QueueConfig) (ring : Option SplitQueue) :
      (do return (← ((t.aged g).setQueue t.queueSelect.toNat q).setRing t.queueSelect.toNat ring, b) :
        Checked (Transport ν × Board)) =
      (do return (← (t.setQueue t.queueSelect.toNat q).setRing t.queueSelect.toNat ring, b) :
        Checked (Transport ν × Board)).map (Prod.map (aged g) id) := by
    have aged_ := setRing_aged (t.setQueue t.queueSelect.toNat q) g t.queueSelect.toNat ring
    change (setRing (aged g (t.setQueue t.queueSelect.toNat q)) t.queueSelect.toNat ring >>= _) = _
    rw [aged_]
    cases (t.setQueue t.queueSelect.toNat q).setRing t.queueSelect.toNat ring <;> rfl
  have selected : (t.aged g).selected? = t.selected? := rfl
  unfold setQueueReady
  rw [selected]
  cases t.selected? with
  | none => rfl
  | some q =>
      dsimp only
      split
      · exact place q.deactivate none
      split
      · rfl
      cases q.activate with
      | error e => rfl
      | ok made => exact place made.2 (some made.1)

theorem finish_aged {ν : Type} (t : Transport ν) (b : Board) (g : UInt32) (served : Served ν) :
    (t.aged g).finish b served = (t.finish b served).map (aged g) id := by
  unfold finish
  dsimp only
  split <;> rfl

theorem notifyQueue_aged (i : Nat) :
    (t.aged g).notifyQueue b i = (t.notifyQueue b i).map (Prod.map (aged g) id) := by
  have rings : (t.aged g).rings = t.rings := rfl
  unfold notifyQueue
  rw [rings]
  cases ring? t.rings i with
  | none => rfl
  | some _ =>
      change (VirtioDevice.notify t.device b.toMedium t.rings i >>= _) = _
      cases VirtioDevice.notify t.device b.toMedium t.rings i with
      | error e => rfl
      | ok served => exact congrArg Except.ok (finish_aged t b g served)

theorem writeRegister_aged (a : Access) (value : UInt32) :
    (t.aged g).writeRegister b a value =
      (t.writeRegister b a value).map (Prod.map (aged g) id) := by
  unfold writeRegister
  generalize Register.of a.offset.toNat = register
  cases register with
  | queueReady => exact setQueueReady_aged ..
  | queueNotify => exact notifyQueue_aged ..
  | driverFeatures =>
      refine congrArg Except.ok ?_
      unfold ackFeatures
      change (if t.driverFeatureSelect < 2 then _ else _) = _
      split <;> rfl
  | status =>
      refine congrArg Except.ok ?_
      unfold setStatus
      split <;> rfl
  | queueNum | queueDescLow | queueDescHigh | queueAvailLow | queueAvailHigh | queueUsedLow
  | queueUsedHigh => exact congrArg Except.ok (configure_aged ..)
  | _ => rfl

theorem write_aged (a : Access) (value : UInt64) :
    (t.aged g).write b a value =
      (t.write b a value).map fun r => ⟨r.answer, r.device.aged g, r.board⟩ := by
  unfold write
  split
  · split
    · rfl
    · -- A change to the configuration space counts on top of the earlier ones.
      have counted : t.configGeneration + g + 1 = t.configGeneration + 1 + g :=
        by ac_rfl
      simp [aged, counted, Except.map, pure, Except.pure]
  split
  · rfl
  · rw [writeRegister_aged]
    cases t.writeRegister b a value.toUInt32 <;> rfl

theorem input_aged (data : List UInt8) :
    (t.aged g).input b data =
      (t.input b data).map fun r => ⟨r.answer, r.device.aged g, r.board⟩ := by
  unfold input
  change (VirtioDevice.input t.device b.toMedium t.rings data >>= _) = _
  cases VirtioDevice.input t.device b.toMedium t.rings data with
  | error e => rfl
  | ok served =>
      have finished := finish_aged t b g served
      simp [bind, Except.bind, pure, Except.pure, Except.map, finished]

theorem readRegister_aged (a : Access) :
    (t.aged g).readRegister b a =
      (if Register.of a.offset.toNat = .configGeneration then (t.readRegister b a).1 + g
        else (t.readRegister b a).1, (t.readRegister b a).2) := by
  unfold readRegister
  generalize Register.of a.offset.toNat = register
  cases register <;> rfl

theorem read_aged (a : Access) :
    (t.aged g).read b a = (t.read b a).map fun r =>
      ⟨if Register.configGeneration.accessed a then r.answer.map fun v => (v.toUInt32 + g).toUInt64
        else r.answer, r.device.aged g, r.board⟩ := by
  unfold read
  split
  · rename_i above
    have undated : ¬ Register.configGeneration.accessed a := fun accessed =>
      absurd accessed.1 (UInt64.not_lt.mpr above)
    simp only [if_neg undated]
    split <;> rfl
  rename_i below
  split
  · rename_i narrow
    have undated : ¬ Register.configGeneration.accessed a := fun accessed => narrow accessed.2.1
    simp [undated, Except.map]
  · rename_i word
    have dated : Register.configGeneration.accessed a ↔
        Register.of a.offset.toNat = .configGeneration :=
      ⟨fun accessed => accessed.2.2,
        fun named => ⟨UInt64.not_le.mp below, Decidable.not_not.mp word, named⟩⟩
    rw [readRegister_aged]
    by_cases named : Register.of a.offset.toNat = .configGeneration
    · simp [dated, named, Except.map]
    · simp [dated, named, Except.map]

theorem endOfInterrupt_aged {ν : Type} (t : Transport ν) (b : Board) (g : UInt32) :
    (t.aged g).endOfInterrupt b = (t.endOfInterrupt b).map (aged g) id := by
  unfold endOfInterrupt
  change (if (t.interruptStatus != 0) = true then _ else _) = _
  split <;> rfl

-- One step: the older transport does the same, and only a load of the generation tells.
theorem perform_aged (d : Demand) :
    (t.aged g).perform b d =
      (t.perform b d).map fun r => ⟨d.later g r.answer, r.device.aged g, r.board⟩ := by
  cases d with
  | load a =>
      rw [perform, perform, read_aged]
      cases t.read b a with
      | error e => rfl
      | ok r =>
          exact congrArg (fun answer => Except.ok (Answered.mk answer (r.device.aged g) r.board))
            (Demand.later_load g a r.answer).symm
  | store a value =>
      rw [perform, perform, write_aged]
      cases t.write b a value <;> rfl
  | input data =>
      rw [perform, perform, input_aged]
      cases t.input b data <;> rfl
  | completed =>
      rw [perform, perform, endOfInterrupt_aged]
      rfl
  | reset => rfl
  | outside change => rfl

-- A whole life, by induction on what happens in it.
theorem life_aged (ds : List Demand) :
    (t.aged g).life b ds =
      List.zipWith (fun d reply => reply.map fun r => (d.later g r.1, r.2)) ds (t.life b ds) := by
  induction ds generalizing t b with
  | nil => rfl
  | cons d rest ih =>
      rw [life, life, perform_aged]
      cases t.perform b d with
      | error e => simp [Except.map]
      | ok r => simp [Except.map, ih]

theorem life_undated {ds : List Demand} (undated : ∀ d ∈ ds, ¬ d.Dated) :
    (t.aged g).life b ds = t.life b ds := by
  induction ds generalizing t b with
  | nil => rfl
  | cons d rest ih =>
      obtain ⟨first, others⟩ := List.forall_mem_cons.mp undated
      rw [life, life, perform_aged]
      cases t.perform b d with
      | error e => rfl
      | ok r => simp [Except.map, Demand.later_undated first, ih _ _ others]

end Aged

-- The same transport but for the generation, in everything that can happen to it.
structure Renewed (t u : Transport ν) (g : UInt32) : Prop where
  state : t = u.aged g
  lives : ∀ b ds, t.life b ds =
    List.zipWith (fun d reply => reply.map fun r => (d.later g r.1, r.2)) ds (u.life b ds)
  undated : ∀ b ds, (∀ d ∈ ds, ¬ d.Dated) → t.life b ds = u.life b ds

theorem Renewed.of_aged (u : Transport ν) (g : UInt32) : Renewed (u.aged g) u g where
  state := rfl
  lives b ds := life_aged u b g ds
  undated b _ undated := life_undated u b g undated

theorem history_made {α : Type} {view : ν → α} [Lanes ν] (lasting : Lasting view)
    (history : History fresh line t log) : t.made view = (Transport.new fresh line).made view := by
  induction history with
  | start => rfl
  | read _ done ih => exact (asks_made lasting (.read done)).trans ih
  | wrote _ done ih => exact (asks_made lasting (.write done)).trans ih
  | fed _ done ih => exact (asks_made lasting (.input done)).trans ih
  | ended b _ ih => exact (asks_made lasting (.completed b line)).trans ih
  | reset _ ih => exact (asks_made lasting .reset).trans ih

-- A reset transport is a new one, where the reset device is a new one.
theorem reset_aged {d : ν} (device : VirtioDevice.reset t.device = d)
    (sizes : t.queues.map (·.maxSize) = VirtioDevice.queueMaxSizes d)
    (paired : t.rings.length = t.queues.length) :
    t.reset = (Transport.new d t.line).aged t.configGeneration := by
  have queues : t.queues.map QueueConfig.reset =
      (VirtioDevice.queueMaxSizes d).map QueueConfig.new := by
    rw [← sizes, List.map_map]
    rfl
  have rings : t.rings.map (fun _ => (none : Option SplitQueue)) =
      ((VirtioDevice.queueMaxSizes d).map QueueConfig.new).map fun _ => none := by
    rw [← queues, List.map_const', List.map_const', List.length_map, paired]
  unfold reset aged Transport.new
  rw [device, queues, rings]
  simp

theorem write_reset {a : Access} {value : UInt64} (accessed : Register.status.accessed a)
    (zero : value.toUInt32 = 0) (b : Board) : t.write b a value = .ok ⟨.ok (), t.reset, b⟩ := by
  rw [write_register accessed, writeRegister, accessed.2.2]
  simp [setStatus, zero, Except.map]

-- After a history, a reset leaves what the device has come to, on a transport that is new.
theorem history_reset {α : Type} {view : ν → α} [Lanes ν] (lasting : Lasting view) {d : ν}
    (history : History fresh line t log) (device : VirtioDevice.reset t.device = d)
    (sizes : VirtioDevice.queueMaxSizes d = VirtioDevice.queueMaxSizes fresh) :
    Renewed t.reset (Transport.new d line) t.configGeneration := by
  have made := history_made lasting history
  have maxSizes : t.queues.map (·.maxSize) = VirtioDevice.queueMaxSizes d := by
    have kept := congrArg (·.2.2) made
    change t.queues.map (·.maxSize) =
      ((VirtioDevice.queueMaxSizes fresh).map QueueConfig.new).map (·.maxSize) at kept
    rw [kept, sizes, List.map_map]
    exact List.map_id _
  have same : t.line = line := congrArg (·.2.1) made
  rw [reset_aged device maxSizes (history_programmed history).lengths, same]
  exact .of_aged ..

end Transport

-- A console of the same geometry and queues, new at a terminal.
def Console.again (c : Console) (sink : Sink) : Console :=
  { Console.new sink with cols := c.cols, rows := c.rows, queueSizes := c.queueSizes }

-- A link of the same address and queues, new at a network.
def Net.again (n : Net) (sink : Sink) : Net :=
  { Net.new sink n.mac with queueSizes := n.queueSizes }

namespace Transport

theorem console_reset {fresh : Console} {line : Nat} {t : Transport Console}
    {log : List (Stroke Console)} (history : History fresh line t log) :
    Renewed t.reset (Transport.new (fresh.again t.device.sink) line) t.configGeneration := by
  have bare : t.device.bare = fresh.bare :=
    congrArg (·.1) (history_made Console.bare_lasting history)
  have device := congrArg (Console.again · t.device.sink) bare
  exact history_reset Console.bare_lasting history device rfl

theorem net_reset {fresh : Net} {line : Nat} {t : Transport Net} {log : List (Stroke Net)}
    (history : History fresh line t log) :
    Renewed t.reset (Transport.new (fresh.again t.device.sink) line) t.configGeneration := by
  have bare : { t.device.bare with acked := 0 } = { fresh.bare with acked := 0 } :=
    congrArg (·.1) (history_made Net.unacked_lasting history)
  have device := congrArg (Net.again · t.device.sink) bare
  exact history_reset Net.unacked_lasting history device rfl

-- A driver that starts over leaves nothing of its session to whoever comes next.
theorem history_forgotten :
    (∀ (fresh : Console) (line : Nat) (t : Transport Console) (log : List (Stroke Console)),
      History fresh line t log → ∀ b a value, Register.status.accessed a → value.toUInt32 = 0 →
        ∃ after, t.write b a value = .ok ⟨.ok (), after, b⟩ ∧
          Renewed after (Transport.new (fresh.again t.device.sink) line) t.configGeneration) ∧
    ∀ (fresh : Net) (line : Nat) (t : Transport Net) (log : List (Stroke Net)),
      History fresh line t log → ∀ b a value, Register.status.accessed a → value.toUInt32 = 0 →
        ∃ after, t.write b a value = .ok ⟨.ok (), after, b⟩ ∧
          Renewed after (Transport.new (fresh.again t.device.sink) line) t.configGeneration :=
  ⟨fun _ _ _ _ history b _ _ accessed zero =>
      ⟨_, write_reset accessed zero b, console_reset history⟩,
    fun _ _ _ _ history b _ _ accessed zero =>
      ⟨_, write_reset accessed zero b, net_reset history⟩⟩

-- A console with input that waits, a feature acknowledged, the second queue ready and selected, and
-- one change to the configuration space.
theorem history_forgotten_console :
    ∃ t log after, History (Console.new .accepting) 48 t log ∧ t.device.buffered = [0x61] ∧
      t.isReady 1 = true ∧ t.acked = 0x100000000 ∧ t.queueSelect = 1 ∧ t.configGeneration = 1 ∧
      t.write ⟨⟨⟨[]⟩, #[]⟩, .initial⟩ ⟨0x70, 0x70, .word⟩ 0 =
        .ok ⟨.ok (), after, ⟨⟨⟨[]⟩, #[]⟩, .initial⟩⟩ ∧
      Renewed after (Transport.new ((Console.new .accepting).again t.device.sink) 48) 1 := by
  let b : Board := ⟨⟨⟨[]⟩, #[]⟩, .initial⟩
  let words : List (UInt64 × UInt64) :=
    [(0x24, 1), (0x20, 1), (0x30, 1), (0x84, 2), (0x44, 1), (0x100, 7)]
  have ran : ((Transport.new (Console.new .accepting) 48).stores b words >>=
      fun r => r.1.input r.2 [0x61]).toOption.any (fun r => r.device.device.buffered = [0x61] &&
        r.device.isReady 1 && r.device.acked = 0x100000000 && r.device.queueSelect = 1 &&
        r.device.configGeneration = 1) = true := by
    decide +kernel
  obtain ⟨fed, done, ran⟩ := Checked.ok_of_any ran
  obtain ⟨stored, wrote, done⟩ := Checked.bind_eq_ok.mp done
  obtain ⟨log, history⟩ := stores_history .start wrote
  simp only [Bool.and_eq_true, decide_eq_true_eq] at ran
  obtain ⟨⟨⟨⟨waiting, ready⟩, acked⟩, selected⟩, generation⟩ := ran
  obtain ⟨after, reset, renewed⟩ := history_forgotten.1 _ _ _ _ (.fed history done) b
    ⟨0x70, 0x70, .word⟩ 0 (by decide) rfl
  rw [generation] at renewed
  exact ⟨fed.device, log, after, .fed history done, waiting, ready, acked, selected, generation,
    reset, renewed⟩

end Transport

end VmMonitor
