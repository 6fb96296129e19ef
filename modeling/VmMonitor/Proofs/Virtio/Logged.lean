import VmMonitor.Proofs.Virtio.Confined
import VmMonitor.Proofs.Virtio.Turns

/-!
The calls of a device since it was last reset. A device keeps what the host sent until its driver
has room for it; if each call hands on what it held before and took in, less what it still holds,
then so does the whole log.
-/

namespace VmMonitor

open GuestMemory SplitQueue Virtio Virtio.Service

namespace Virtio

-- A call, what it found and what it left.
structure Moment (ν : Type) where
  call : Call
  device : ν
  rings : Rings
  medium : Medium
  served : Served ν

section

variable {ν : Type} [VirtioDevice ν] {m₀ : GuestMemory} {fresh d : ν} {m : Medium} {rings : Rings}
  {log : List (Moment ν)} {k : Moment ν}

-- The life of a device with the calls since its last reset.
inductive Logged (fresh : ν) (m₀ : GuestMemory) : ν → Rings → Medium → List (Moment ν) → Prop
  | start (queues : Nat) (effects : Array Effect) :
      Logged fresh m₀ fresh (List.replicate queues none) ⟨m₀, effects⟩ []
  | ready {d : ν} {rings : Rings} {m : Medium} {log : List (Moment ν)} {c c' : QueueConfig}
      {q : SplitQueue} (i : Nat) (earlier : Logged fresh m₀ d rings m log)
      (activated : c.activate = .ok (q, c')) : Logged fresh m₀ d (rings.set i (some q)) m log
  | unready {d : ν} {rings : Rings} {m : Medium} {log : List (Moment ν)} (i : Nat)
      (earlier : Logged fresh m₀ d rings m log) : Logged fresh m₀ d (rings.set i none) m log
  | acked {d : ν} {rings : Rings} {m : Medium} {log : List (Moment ν)} (features : UInt64)
      (earlier : Logged fresh m₀ d rings m log) :
      Logged fresh m₀ (VirtioDevice.ackFeatures d features) rings m log
  | configured {d : ν} {rings : Rings} {m : Medium} {log : List (Moment ν)} (offset : UInt64)
      (data : List UInt8) (earlier : Logged fresh m₀ d rings m log) :
      Logged fresh m₀ (VirtioDevice.writeConfig d offset data) rings m log
  | reset {d : ν} {rings : Rings} {m : Medium} {log : List (Moment ν)}
      (earlier : Logged fresh m₀ d rings m log) :
      Logged fresh m₀ (VirtioDevice.reset d) (rings.map fun _ => none) m []
  | guest {d : ν} {rings : Rings} {m : Medium} {log : List (Moment ν)} (memory : GuestMemory)
      (earlier : Logged fresh m₀ d rings m log) (same : memory.layout = m.memory.layout) :
      Logged fresh m₀ d rings { m with memory := memory } log
  | called {d : ν} {rings : Rings} {m : Medium} {log : List (Moment ν)} {served : Served ν}
      (call : Call) (earlier : Logged fresh m₀ d rings m log)
      (done : call.perform d m rings = .ok served) :
      Logged fresh m₀ served.device served.rings served.medium
        (log ++ [⟨call, d, rings, m, served⟩])

-- Every session has a log.
theorem session_logged (session : Session fresh m₀ d rings m) :
    ∃ log, Logged fresh m₀ d rings m log := by
  induction session with
  | start queues effects => exact ⟨_, .start queues effects⟩
  | ready i _ activated ih => exact ih.imp fun _ earlier => .ready i earlier activated
  | unready i _ ih => exact ih.imp fun _ earlier => .unready i earlier
  | acked features _ ih => exact ih.imp fun _ earlier => .acked features earlier
  | configured offset data _ ih => exact ih.imp fun _ earlier => .configured offset data earlier
  | reset _ ih =>
      obtain ⟨_, earlier⟩ := ih
      exact ⟨_, .reset earlier⟩
  | guest memory _ same ih => exact ih.imp fun _ earlier => .guest memory earlier same
  | notified i _ done ih =>
      obtain ⟨_, earlier⟩ := ih
      exact ⟨_, .called (.notify i) earlier done⟩
  | fed data _ done ih =>
      obtain ⟨_, earlier⟩ := ih
      exact ⟨_, .called (.input data) earlier done⟩

theorem Session.called {call : Call} {served : Served ν} (earlier : Session fresh m₀ d rings m)
    (done : call.perform d m rings = .ok served) :
    Session fresh m₀ served.device served.rings served.medium := by
  cases call with
  | notify i => exact .notified i earlier done
  | input data => exact .fed data earlier done

theorem Logged.session (logged : Logged fresh m₀ d rings m log) : Session fresh m₀ d rings m := by
  induction logged with
  | start queues effects => exact .start queues effects
  | ready i _ activated ih => exact .ready i ih activated
  | unready i _ ih => exact .unready i ih
  | acked features _ ih => exact .acked features ih
  | configured offset data _ ih => exact .configured offset data ih
  | reset _ ih => exact .reset ih
  | guest memory _ same ih => exact .guest memory ih same
  | called call _ done ih => exact ih.called done

-- Each call of a log was made in the course of a session.
theorem Logged.each (logged : Logged fresh m₀ d rings m log) :
    ∀ k ∈ log, Session fresh m₀ k.device k.rings k.medium ∧
      k.call.perform k.device k.medium k.rings = .ok k.served := by
  induction logged with
  | start | reset => nofun
  | ready _ _ _ ih | unready _ _ ih | acked _ _ ih | configured _ _ _ ih | guest _ _ _ ih => exact ih
  | called call earlier done ih =>
      intro k listed
      rcases List.mem_append.mp listed with old | new
      · exact ih k old
      · cases List.mem_singleton.mp new
        exact ⟨earlier.session, done⟩

variable [Lanes ν] {α : Type} {held : ν → List α}

-- A device that holds what it took from the host until it hands it on. Only calls have to do with
-- that, and a reset drops it all.
structure Holding (held : ν → List α) : Prop where
  acked : ∀ d features, held (VirtioDevice.ackFeatures d features) = held d
  configured : ∀ d offset data, held (VirtioDevice.writeConfig d offset data) = held d
  reset : ∀ d, held (VirtioDevice.reset d) = []
  -- The other queues do not come near it.
  others : ∀ {i s}, i ≠ Lanes.inward ν → Lanes.lane? i = some s →
    ∀ {state m chain written state' m'}, s.work state m chain = .ok (written, state', m') →
    held state' = held state

theorem Logged.conserves {handed taken : Moment ν → List α} (holding : Holding held)
    (empty : held fresh = []) (logged : Logged fresh m₀ d rings m log)
    (each : ∀ k ∈ log, handed k ++ held k.served.device = held k.device ++ taken k) :
    log.flatMap handed ++ held d = log.flatMap taken := by
  induction logged with
  | start => exact empty
  | ready _ _ _ ih | unready _ _ ih | guest _ _ _ ih => exact ih each
  | acked features _ ih =>
      rw [holding.acked]
      exact ih each
  | configured offset data _ ih =>
      rw [holding.configured]
      exact ih each
  | reset _ _ => exact holding.reset _
  | @called d rings m log served call earlier done ih =>
      have before := ih fun k listed => each k (List.mem_append_left _ listed)
      have now : handed ⟨call, d, rings, m, served⟩ ++ held served.device =
          held d ++ taken ⟨call, d, rings, m, served⟩ :=
        each _ (List.mem_append_right _ (List.mem_singleton.mpr rfl))
      rw [List.flatMap_append, List.flatMap_append, List.flatMap_singleton,
        List.flatMap_singleton, List.append_assoc, now, ← List.append_assoc, before]

-- What one call hands on.

-- The chains that the call has filled with what the host sent.
def Moment.filled (k : Moment ν) : List (Turn ν) :=
  if k.call.queue ν = Lanes.inward ν then k.call.turns k.device k.medium k.rings else []

-- What the device took in, where `accepts` tells what it takes of the data it is sent.
def Moment.taken (accepts : ν → List UInt8 → List α) (k : Moment ν) : List α :=
  match k.call with
  | .notify _ => []
  | .input data => accepts k.device data

-- A call that can hand out what it holds: the used ring is in memory, and the buffers to be filled
-- lie apart from each other and from the used ring.
structure Moment.Orderly (k : Moment ν) : Prop where
  used : k.call.queue ν = Lanes.inward ν → ∀ q, ring? k.rings (Lanes.inward ν) = some q →
    q.UsedMapped k.medium.memory
  apart : ∀ t ∈ k.filled, t.chain.writable.Pairwise Descriptor.Apart
  clear : ∀ t ∈ k.filled, ∀ x, Writable t.chain x → ¬ t.before.ring.UsedByte x

-- What the driver finds in the buffers of a chain that was given back, up to the length it is told.
def Turn.found {σ : Type} (t : Turn σ) : List UInt8 :=
  (DescriptorChain.joined t.after.medium.memory t.chain.writable).take t.written.toNat

-- Giving the chain back leaves alone what the work has written into it.
theorem Service.Turned.worked {σ : Type} {s : Service σ} {stock : σ → Nat} {t : Turn σ}
    (turned : s.Turned t) (lawful : s.Lawful stock) (sane : Sane t.before)
    (clear : ∀ x, Writable t.chain x → ¬ t.before.ring.UsedByte x) :
    ∃ memory, s.work t.before.state t.before.medium t.chain =
        .ok (t.written, t.after.state, { t.after.medium with memory := memory }) ∧
      DescriptorChain.joined t.after.medium.memory t.chain.writable =
        DescriptorChain.joined memory t.chain.writable := by
  obtain ⟨memory, worked, returned⟩ := turned.parts
  have layout := lawful.layout worked
  have given := addUsed_returned (sane.memory.congr layout)
    (sane.ring.same t.before.ring.taken_place) t.chain.head t.written
  rw [returned] at given
  refine ⟨memory, worked, DescriptorChain.joined_kept (sane.memory.congr layout)
    (fun d here => ?_) fun d here x covers => given.kept x (clear x ⟨d, here, covers⟩)⟩
  exact (turned.placed d (List.mem_filter.mp here).1).congr layout

-- What was filled without fail is found in the buffers, as far as there is room.
theorem Service.Turned.fills {σ : Type} {s : Service σ} {t : Turn σ} {data : List UInt8}
    {memory : GuestMemory} {n : Nat} (turned : s.Turned t) (sane : Sane t.before)
    (apart : t.chain.writable.Pairwise Descriptor.Apart)
    (filled : t.chain.writeAll t.before.medium.memory data = (.ok n, memory))
    (written : t.written = UInt32.ofNat n)
    (same : DescriptorChain.joined t.after.medium.memory t.chain.writable =
      DescriptorChain.joined memory t.chain.writable) :
    t.written.toNat = n ∧ n = min data.length t.chain.writableLen ∧ t.found = data.take n := by
  obtain ⟨head, made⟩ := turned.made
  have small : t.chain.writableLen ≤ DescriptorChain.maxBytes :=
    (DescriptorChain.new_bounded made).writable
  have placed : ∀ d ∈ t.chain.writable, d.Placed t.before.medium.memory :=
    fun d here => turned.placed d (List.mem_filter.mp here).1
  obtain ⟨count, laid⟩ := DescriptorChain.fill_done sane.memory placed apart (Nat.zero_le _) filled
  have room : (DescriptorChain.joined t.before.medium.memory t.chain.writable).length =
      t.chain.writableLen := DescriptorChain.length_joined ..
  rw [Nat.zero_add, ← DescriptorChain.writableLen_total] at count
  have length : t.written.toNat = n := by
    rw [written]
    exact UInt32.toNat_ofNat_of_lt' (Nat.lt_of_le_of_lt (by omega : n ≤ DescriptorChain.maxBytes)
      (by decide : DescriptorChain.maxBytes < UInt32.size))
  refine ⟨length, count, ?_⟩
  rw [Turn.found, same, laid, List.drop_zero, length]
  exact take_overlay (by omega) (by omega)

-- The turns that a log of calls has filled, as turns of the service of the queue.
theorem Logged.turned {stock : ν → Nat} {s : Service ν} (sound : m₀.Sound)
    (logged : Logged fresh m₀ d rings m log) (lane : Lanes.lane? (Lanes.inward ν) = some s)
    (lawful : s.Lawful stock) (listed : k ∈ log) {t : Turn ν} (here : t ∈ k.filled) :
    s.Turned t ∧ Sane t.before ∧
      stock t.before.state ≤ stock (k.call.outset k.device k.medium).1 := by
  obtain ⟨session, done⟩ := logged.each k listed
  unfold Moment.filled at here
  split at here
  · rename_i inward
    rcases call_passed done with ⟨none, _⟩ | ⟨s', q, d', own, found, _, passed, _⟩
    · rw [none] at here
      cases here
    · rw [inward, lane] at own
      cases own
      have sane := session_sane sound session k.call found
      obtain ⟨turned, kept⟩ := passed.each lawful sane t here
      exact ⟨turned, sane.kept kept, kept.shrinks⟩
  · cases here

theorem Moment.conserves {accepts : ν → List UInt8 → List α} {value : Turn ν → List α}
    (holding : Holding held) (sound : m₀.Sound)
    (session : Session fresh m₀ k.device k.rings k.medium)
    (done : k.call.perform k.device k.medium k.rings = .ok k.served) (orderly : k.Orderly)
    (accepted : ∀ data, k.call = .input data →
      held (Lanes.accept k.device k.medium data).1 = held k.device ++ accepts k.device data)
    (each : ∀ t ∈ k.filled, value t ++ held t.after.state = held t.before.state) :
    k.filled.flatMap value ++ held k.served.device = held k.device ++ k.taken accepts := by
  have outset : held (k.call.outset k.device k.medium).1 = held k.device ++ k.taken accepts := by
    unfold Moment.taken
    cases call : k.call with
    | notify i => exact (List.append_nil _).symm
    | input data => exact accepted data call
  rw [← outset]
  rcases call_passed done with ⟨none, same⟩ | ⟨s, q, d', lane, found, drained, passed, same⟩
  · have filled : k.filled = [] := by
      unfold Moment.filled
      rw [none, ite_self]
    rw [filled, same]
    rfl
  have sane := session_sane sound session k.call found
  rw [same]
  by_cases here : k.call.queue ν = Lanes.inward ν
  · have filled : k.filled = k.call.turns k.device k.medium k.rings := if_pos here
    rw [filled] at each ⊢
    have mapped := orderly.used here q (here ▸ found)
    rw [← outset_memory k.device k.medium k.call] at mapped
    exact passed.conserves (Lanes.layout lane) sane mapped each
  · have filled : k.filled = [] := if_neg here
    rw [filled]
    refine drain_keeps (P := fun n => held n.state = held (k.call.outset k.device k.medium).1)
      (fun n more n' before round => ?_) rfl drained
    cases round with
    | sated | empty | refused => exact before
    | lost _ _ _ _ _ worked | served _ _ _ worked =>
        exact (holding.others here lane worked).trans before

-- What a call shows of the chains that it has filled.
structure Moment.Shown (k : Moment ν) : Prop where
  published : ∀ q, ring? k.rings (Lanes.inward ν) = some q →
    ∀ i (t : Turn ν), k.filled[i]? = some t → t.Published q (q.nextUsed.toNat + i)
  counted : ∀ q, ring? k.rings (Lanes.inward ν) = some q →
    ∃ q', ring? k.served.rings (Lanes.inward ν) = some q' ∧
      q'.nextUsed = q.nextUsed + UInt16.ofNat k.filled.length
  moved : k.call.queue ν = Lanes.inward ν → (k.served.moved = true ↔ k.filled ≠ [])

theorem Moment.shown_idle (idle : k.filled = [])
    (same : ring? k.served.rings (Lanes.inward ν) = ring? k.rings (Lanes.inward ν))
    (unmoved : k.call.queue ν = Lanes.inward ν → k.served.moved = false) : k.Shown where
  published q found i t listed := by
    rw [idle] at listed
    cases listed
  counted q found := by
    refine ⟨q, same.trans found, ?_⟩
    rw [idle]
    exact (UInt16.add_zero _).symm
  moved here := by
    rw [idle, unmoved here]
    simp

theorem Moment.shown (sound : m₀.Sound) (session : Session fresh m₀ k.device k.rings k.medium)
    (done : k.call.perform k.device k.medium k.rings = .ok k.served) (orderly : k.Orderly) :
    k.Shown := by
  by_cases here : k.call.queue ν = Lanes.inward ν
  · have filled : k.filled = k.call.turns k.device k.medium k.rings := if_pos here
    rcases call_passed done with ⟨none, same⟩ | ⟨s, q, d', lane, found, _, passed, same⟩
    · refine k.shown_idle (filled.trans none) ?_ fun _ => ?_ <;> rw [same]
    have sane := session_sane sound session k.call found
    have standing := session_standing (lanes_bounded sound) (Nat.le_refl 0) session
    have bounded := (standing.activated _ q found).bounded
    rw [here] at found
    have mapped := orderly.used here q found
    rw [← outset_memory k.device k.medium k.call] at mapped
    obtain ⟨counted, moved⟩ := passed.counts (Lanes.layout lane) sane mapped
    have own (q' : SplitQueue) (again : ring? k.rings (Lanes.inward ν) = some q') : q' = q := by
      rw [found] at again
      exact (Option.some.inj again).symm
    refine ⟨fun q' again i t listed => ?_, fun q' again => ⟨d'.ring, ?_, ?_⟩, fun _ => ?_⟩
    · rw [filled] at listed
      rw [own q' again]
      exact passed.published (Lanes.layout lane) sane bounded.power listed
    · rw [same, here]
      exact ring_stored found d'.ring
    · rw [filled, own q' again]
      exact counted
    · rw [same, filled, moved]
      simp
  · refine k.shown_idle (if_neg here) ?_ fun there => absurd there here
    unfold ring?
    rw [call_others done here]

-- What a log hands on, call by call and as a whole.
theorem Logged.relays {accepts : ν → List UInt8 → List α} {value : Turn ν → List α}
    (holding : Holding held) (sound : m₀.Sound) (empty : held fresh = [])
    (logged : Logged fresh m₀ d rings m log) (orderly : ∀ k ∈ log, k.Orderly)
    (accepted : ∀ {d rings m}, Session fresh m₀ d rings m → ∀ data,
      held (Lanes.accept d m data).1 = held d ++ accepts d data)
    (each : ∀ k ∈ log, ∀ t ∈ k.filled, value t ++ held t.after.state = held t.before.state) :
    (∀ k ∈ log, k.filled.flatMap value ++ held k.served.device =
      held k.device ++ k.taken accepts) ∧
    (log.flatMap fun k => k.filled.flatMap value) ++ held d =
      log.flatMap (Moment.taken accepts) := by
  have calls (k : Moment ν) (listed : k ∈ log) :
      k.filled.flatMap value ++ held k.served.device = held k.device ++ k.taken accepts := by
    obtain ⟨session, done⟩ := logged.each k listed
    exact k.conserves holding sound session done (orderly k listed)
      (fun data _ => accepted session data) (each k listed)
  exact ⟨calls, logged.conserves holding empty calls⟩

theorem Logged.shown (sound : m₀.Sound) (logged : Logged fresh m₀ d rings m log)
    (orderly : ∀ k ∈ log, k.Orderly) : ∀ k ∈ log, k.Shown := by
  intro k listed
  obtain ⟨session, done⟩ := logged.each k listed
  exact k.shown sound session done (orderly k listed)

-- A device stays within its capacity while it takes something in.
theorem outset_standing {stock : ν → Nat} {capacity : Nat} (bounded : Bounded m₀ stock capacity)
    (fits : stock fresh ≤ capacity) (session : Session fresh m₀ d rings m)
    (accepts : ∀ data, Standing m₀ stock capacity d rings m →
      Standing m₀ stock capacity (Lanes.accept d m data).1 rings (Lanes.accept d m data).2)
    (call : Call) :
    Standing m₀ stock capacity (call.outset d m).1 rings (call.outset d m).2 := by
  have standing := session_standing bounded fits session
  cases call with
  | notify i => exact standing
  | input data => exact accepts data standing

-- A call with the ring of one slot in use, that comes to fill one buffer above it.
theorem startRing_orderly {t : Turn ν} (len : UInt32)
    (layout : k.medium.memory.layout = [(0, 0x10000)])
    (own : ring? k.rings (Lanes.inward ν) = some startRing) (filled : k.filled = [t])
    (buffer : t.chain.writable = [⟨0x4000, len, .writable⟩]) (ring : t.before.ring = startRing) :
    k.Orderly where
  used _ q found := by
    have listed : ((0, 0x10000) : GuestAddress × Nat) ∈ k.medium.memory.layout := by simp [layout]
    cases own.symm.trans found
    refine ⟨holds_listed listed (by decide) (by decide) (by decide), fun i inside => ?_⟩
    cases Nat.lt_one_iff.mp inside
    exact holds_listed listed (by decide) (by decide) (by decide)
  apart t' here := by
    cases List.mem_singleton.mp (filled ▸ here)
    rw [buffer]
    exact List.pairwise_singleton _ _
  clear t' here x := by
    cases List.mem_singleton.mp (filled ▸ here)
    rintro ⟨b, listed, low, _⟩ used
    rw [buffer, List.mem_singleton] at listed
    rw [ring] at used
    cases listed
    change 0x4000 ≤ x.toNat at low
    change 0x3000 + 2 ≤ x.toNat ∧ x.toNat < 0x3000 + 4 + 8 * 1 at used
    omega

-- A call that fills one chain and comes to its end.
theorem Logged.once {s : Service ν} {call : Call} {q : SplitQueue} {t : Turn ν} {last : Drained ν}
    (logged : Logged fresh m₀ d rings m log) (inward : call.queue ν = Lanes.inward ν)
    (lane : Lanes.lane? (call.queue ν) = some s) (found : ring? rings (call.queue ν) = some q)
    (first : s.turn? (call.start d m q) = some t) (ended : s.round t.after = .ok (false, last)) :
    ∃ k : Moment ν, k.call = call ∧ k.rings = rings ∧ k.medium = m ∧ k.served.device = last.state ∧
      k.filled = [t] ∧ Logged fresh m₀ last.state k.served.rings k.served.medium (log ++ [k]) := by
  have drained : s.drain bound (call.start d m q) = .ok last :=
    (drain_next (turn_round first)).trans (drain_last ended)
  have done : call.perform d m rings = .ok ⟨last.moved, last.state,
      rings.set (call.queue ν) (some last.ring), last.medium⟩ := by
    rw [call_run lane, Service.run, found]
    exact congrArg (· >>= _) drained
  have turns : call.turns d m rings = [t] := by
    rw [Call.turns_run lane found]
    exact (turns_next first).trans (congrArg (t :: ·) (turns_last ended))
  exact ⟨⟨call, d, rings, m, _⟩, rfl, rfl, rfl, rfl, (if_pos inward).trans turns,
    .called call logged done⟩

end

end Virtio

end VmMonitor
