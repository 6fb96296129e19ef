import VmMonitor.Proofs.Strict.Console
import VmMonitor.Proofs.Virtio.Logged

/-!
What a console receives as a stream of bytes. The host sends it in pieces and the driver takes it in
chains of any shape, some of which cannot be filled; put together, what the driver finds in its
buffers and what the device still holds are the bytes that were accepted.
-/

namespace VmMonitor

open GuestMemory SplitQueue DescriptorChain Virtio Virtio.Service

-- The index of the driver.
def SplitQueue.IndexByte (q : SplitQueue) (x : GuestAddress) : Prop :=
  q.availRing.toNat + 2 ≤ x.toNat ∧ x.toNat < q.availRing.toNat + 4

theorem SplitQueue.SamePlace.indexByte {q q' : SplitQueue} (place : SamePlace q q')
    {x : GuestAddress} : q'.IndexByte x ↔ q.IndexByte x := by
  unfold SamePlace at place
  rw [place]
  rfl

namespace Virtio.Service

variable {σ : Type} {s : Service σ} {d d' : Drained σ} {fuel : Nat} {stock : σ → Nat}
  {region : DescriptorChain → GuestAddress → Prop}

-- A turn brings the ring nearer to the index of the driver, unless something is written over it.
theorem Turned.nearer {t : Turn σ} (turned : s.Turned t) (keeps : s.KeepsTo region)
    (lawful : s.Lawful stock) (sane : Sane t.before)
    (clear : ∀ x, t.before.ring.IndexByte x → ¬ s.Reaches region t.before x) :
    distance t.after < distance t.before := by
  have kept := round_kept lawful sane turned.round
  obtain ⟨⟨i, read, ahead⟩, _, _⟩ := pop_chain turned.popped
  have again : t.before.ring.readAvailIndex t.after.medium.memory = .ok i :=
    readAvailIndex_congr sane.memory sane.ring kept.layout
      (fun x low high => Classical.byContradiction fun changed =>
        clear x ⟨low, high⟩ (round_reaches keeps lawful sane turned.round changed)) read
  have same : t.after.ring.readAvailIndex t.after.medium.memory = .ok i := by
    rw [turned.ring lawful sane]
    exact again
  have next : t.after.ring.nextAvail = t.before.ring.nextAvail + 1 := by
    rw [turned.ring lawful sane]
  rw [distance, distance, same, read, next]
  exact distance_next ahead

theorem drain_settles (keeps : s.KeepsTo region) (lawful : s.Lawful stock) (sane : Sane d)
    (works : ∀ state m chain, chain.Bounded → ∃ r, s.work state m chain = .ok r)
    (clear : ∀ x, d.ring.IndexByte x → ¬ s.Reaches region d x) (enough : 65536 ≤ fuel) :
    ∃ d', s.drain fuel d = .ok d' := by
  refine drain_ends (I := fun n => Sane n ∧ ∀ x, n.ring.IndexByte x → ¬ s.Reaches region n x)
    (f := distance) ?_ ⟨sane, clear⟩ (Nat.lt_of_lt_of_le (distance_lt d) enough)
  rintro n ⟨fit, apart⟩
  obtain ⟨⟨more, n'⟩, done⟩ : ∃ r, s.round n = .ok r := by
    refine round_total fun chain ring _ popped => ?_
    obtain ⟨_, _, _, made⟩ := pop_chain popped
    exact works n.state n.medium chain (new_bounded made)
  refine ⟨more, n', done, fun goes => ?_⟩
  subst goes
  obtain ⟨t, _, turned, rfl, rfl⟩ := round_turn done
  have kept := round_kept lawful fit turned.round
  refine ⟨⟨fit.kept kept, fun x index reaches => ?_⟩, turned.nearer keeps lawful fit apart⟩
  exact apart x (kept.place.indexByte.mp index) (reaches.later kept.place done)

end Virtio.Service

namespace Console

variable {m₀ : GuestMemory} {fresh c c' : Console} {m m' : Medium} {rings : Rings}
  {chain : DescriptorChain} {written : UInt32} {t : Turn Console} {k : Moment Console}
  {log : List (Moment Console)}

-- What is accepted of the data that the host sends.
def accepts (c : Console) (data : List UInt8) : List UInt8 :=
  data.take (min data.length (4096 - c.buffered.length))

theorem accept_buffered (c : Console) (m : Medium) (data : List UInt8) :
    (c.accept m data).1.buffered = c.buffered ++ c.accepts data := by
  refine congrArg (c.buffered ++ ·) (List.take_eq_take_iff.mpr ?_)
  rw [capacity]
  omega

theorem transmit_keeps (done : c.transmit m chain = .ok (written, c', m')) :
    c'.buffered = c.buffered := by
  unfold transmit at done
  dsimp only at done
  split at done
  · cases done
    rfl
  · split at done <;>
      · cases done
        rfl

theorem holding : Holding Console.buffered where
  acked _ _ := rfl
  configured _ _ _ := rfl
  reset _ := rfl
  others {i s} other lane := by
    change (if i = txQueue then some transmitService
      else if i = rxQueue then some receiveService else none) = some s at lane
    split at lane
    · cases lane
      exact transmit_keeps
    · split at lane
      · exact absurd ‹_› other
      · cases lane

-- Either the chain takes what it was given, or nothing is taken out of the buffer.
theorem deliver_outcome (done : c.deliver m chain = .ok (written, c', m')) :
    (∃ n, chain.writeAll m.memory (c.buffered.take chain.writableLen) = (.ok n, m'.memory) ∧
      written = UInt32.ofNat n ∧ c'.buffered = c.buffered.drop n) ∨
    ∃ e, chain.writeAll m.memory (c.buffered.take chain.writableLen) = (.error e, m'.memory) ∧
      written = 0 ∧ c'.buffered = c.buffered := by
  have same : c.buffered.take (min chain.writableLen c.buffered.length) =
      c.buffered.take chain.writableLen := by
    rw [List.take_eq_take_iff]
    omega
  unfold deliver at done
  dsimp only at done
  rw [same] at done
  cases filled : chain.writeAll m.memory (c.buffered.take chain.writableLen) with
  | mk answer memory =>
      rw [filled] at done
      cases answer with
      | ok n =>
          obtain ⟨left, sliced, done⟩ := Checked.bind_eq_ok.mp done
          cases done
          exact .inl ⟨n, rfl, rfl, slice_drop sliced⟩
      | error e =>
          obtain ⟨left, sliced, done⟩ := Checked.bind_eq_ok.mp done
          cases done
          exact .inr ⟨e, rfl, rfl, slice_drop sliced⟩

-- What becomes of the buffered input when it is handed out into one chain.
structure Handed (t : Turn Console) : Prop where
  stream : t.found ++ t.after.state.buffered = t.before.state.buffered
  within : t.written.toNat ≤ t.chain.writableLen
  full : t.written.toNat = t.chain.writableLen ∨ t.after.state.buffered = [] ∨
    ∃ e, (t.chain.writeAll t.before.medium.memory
      (t.before.state.buffered.take t.chain.writableLen)).1 = .error e

theorem turned_handed (turned : receiveService.Turned t) (sane : Sane t.before)
    (apart : t.chain.writable.Pairwise Descriptor.Apart)
    (clear : ∀ x, Writable t.chain x → ¬ t.before.ring.UsedByte x) : Handed t := by
  obtain ⟨memory, worked, same⟩ := turned.worked receive_progressing.toLawful sane clear
  rcases deliver_outcome worked with ⟨n, filled, written, left⟩ | ⟨e, failed, written, left⟩
  · obtain ⟨length, count, found⟩ := turned.fills sane apart filled written same
    rw [List.length_take] at count
    rw [List.take_take, Nat.min_eq_left (by omega)] at found
    refine ⟨by rw [found, left, List.take_append_drop], by omega, ?_⟩
    by_cases all : t.before.state.buffered.length ≤ n
    · exact .inr (.inl (left.trans (List.drop_eq_nil_of_le all)))
    · exact .inl (by omega)
  · have none : t.written.toNat = 0 := congrArg UInt32.toNat written
    refine ⟨?_, by omega, .inr (.inr ⟨e, congrArg Prod.fst failed⟩)⟩
    rw [Turn.found, none, left]
    rfl

-- The stream over a log of calls.
structure Streamed (c : Console) (log : List (Moment Console)) : Prop where
  stream : (log.flatMap fun k => k.filled.flatMap Turn.found) ++ c.buffered =
    log.flatMap (Moment.taken accepts)
  each : ∀ k ∈ log, k.filled.flatMap Turn.found ++ k.served.device.buffered =
    k.device.buffered ++ k.taken accepts
  chains : ∀ k ∈ log, ∀ t ∈ k.filled, Handed t
  shown : ∀ k ∈ log, k.Shown
  room : c.buffered.length ≤ 4096 ∧ ∀ k ∈ log,
    (k.call.outset k.device k.medium).1.buffered.length ≤ 4096 ∧
      ∀ t ∈ k.filled, t.before.state.buffered.length ≤ 4096

theorem outset_room (sound : m₀.Sound) (empty : fresh.buffered = [])
    (session : Session fresh m₀ c rings m) (call : Call) :
    (call.outset c m).1.stock ≤ capacity := by
  have fits : fresh.stock ≤ capacity := by simp [stock, empty]
  have standing := outset_standing (bounded sound) fits session
    (fun data standing => accept_standing standing data) call
  exact standing.stocked

theorem logged_streamed (sound : m₀.Sound) (empty : fresh.buffered = [])
    (logged : Logged fresh m₀ c rings m log) (orderly : ∀ k ∈ log, k.Orderly) :
    Streamed c log := by
  have turned (k : Moment Console) (listed : k ∈ log) (t : Turn Console) (here : t ∈ k.filled) :=
    logged.turned sound rfl receive_progressing.toLawful listed here
  have chains (k : Moment Console) (listed : k ∈ log) (t : Turn Console) (here : t ∈ k.filled) :
      Handed t := by
    obtain ⟨turn, sane, _⟩ := turned k listed t here
    exact turned_handed turn sane ((orderly k listed).apart t here) ((orderly k listed).clear t here)
  obtain ⟨each, stream⟩ := logged.relays holding sound empty orderly
    (fun _ data => accept_buffered ..) fun k listed t here => (chains k listed t here).stream
  refine ⟨stream, each, chains, logged.shown sound orderly, ?_, fun k listed => ?_⟩
  · exact outset_room sound empty logged.session (.notify 0)
  · have room := outset_room sound empty (logged.each k listed).1 k.call
    exact ⟨room, fun t here => Nat.le_trans (turned k listed t here).2.2 room⟩

-- A call that is to fill buffers comes back as long as neither the used ring nor the buffers reach
-- over the index of the driver.
theorem receive_settles (sound : m₀.Sound) (session : Session fresh m₀ c rings m) (call : Call)
    (here : call.queue Console = rxQueue)
    (clear : ∀ q, ring? rings rxQueue = some q → ∀ x, q.IndexByte x →
      ¬ receiveService.Reaches Writable (call.start c m q) x) :
    ∃ served, call.perform c m rings = .ok served := by
  have ends (q : SplitQueue) (found : ring? rings rxQueue = some q) :
      ∃ d, receiveService.drain bound (call.start c m q) = .ok d :=
    drain_settles receive_writes receive_progressing.toLawful
      (session_sane sound session call found)
      (fun c m chain bounded => (strictDeliver_ok bounded c m).imp fun _ both => both.2)
      (clear q found) (by decide)
  have lane : Lanes.lane? (call.queue Console) = some receiveService := by
    rw [here]
    rfl
  rw [call_run lane, here]
  exact run_returns ends

-- Between two resets, whatever the host sends and whenever the driver lays out buffers.
theorem receive_streams [Host] {ranges : List (GuestAddress × UInt64)}
    (built : GuestMemory.new ranges = .ok m₀) :
    (∀ (fresh c : Console) (rings : Rings) (m : Medium), Session fresh m₀ c rings m →
      ∃ log, Logged fresh m₀ c rings m log) ∧
    ∀ (fresh c : Console) (rings : Rings) (m : Medium) (log : List (Moment Console)),
      fresh.buffered = [] → Logged fresh m₀ c rings m log →
      ((∀ k ∈ log, k.Orderly) → Streamed c log) ∧
      ∀ call : Call, call.queue Console = rxQueue →
        (∀ q, ring? rings rxQueue = some q → ∀ x, q.IndexByte x →
          ¬ receiveService.Reaches Writable (call.start c m q) x) →
        ∃ served, call.perform c m rings = .ok served :=
  ⟨fun _ _ _ _ => session_logged, fun _ _ _ _ _ empty logged =>
    ⟨logged_streamed (new_sound built) empty logged,
      receive_settles (new_sound built) logged.session⟩⟩

-- Three bytes for a buffer of two.
theorem receive_streams_short :
    ∃ m₀ c rings m k t, GuestMemory.new [(0, 0x10000)] = .ok m₀ ∧
      Logged (Console.new .accepting) m₀ c rings m [k] ∧ k.call = .input [104, 105, 33] ∧
      k.filled = [t] ∧ t.found = [104, 105] ∧ c.buffered = [33] ∧ Streamed c [k] := by
  let fresh := Console.new .accepting
  let call : Call := .input [104, 105, 33]
  let start (m : GuestMemory) : Drained Console := call.start fresh ⟨m, #[]⟩ startRing
  have ran : ((GuestMemory.new [(0, 0x10000)]).toOption.any fun m₀ =>
      (m₀.writeObject 0x1000 (Bytes.ofNat 0x4000 8 ++ Bytes.ofNat 2 4 ++ [2, 0])).toOption.any
        fun middle => (middle.writeObject 0x2002 [1, 0]).toOption.any fun m =>
        (receiveService.turn? (start m)).any fun t =>
        (receiveService.round t.after).toOption.any fun last =>
          last.1 = false && m.layout = m₀.layout && m₀.layout = [(0, 0x10000)] &&
            t.chain.writable = [⟨0x4000, 2, .writable⟩] && t.before.ring = startRing &&
            t.found = [104, 105] && last.2.state.buffered = [33]) = true := by
    decide +kernel
  obtain ⟨m₀, built, ran⟩ := Checked.ok_of_any ran
  obtain ⟨_, _, ran⟩ := Checked.ok_of_any ran
  obtain ⟨memory, _, ran⟩ := Checked.ok_of_any ran
  obtain ⟨t, first, ran⟩ := (Option.any_eq_true ..).mp ran
  obtain ⟨⟨more, d⟩, last, ran⟩ := Checked.ok_of_any ran
  simp only [Bool.and_eq_true, decide_eq_true_eq] at ran
  obtain ⟨⟨⟨⟨⟨⟨rfl, same⟩, layout⟩, buffer⟩, ring⟩, found⟩, left⟩ := ran
  have logged : Logged fresh m₀ fresh [some startRing, none] ⟨memory, #[]⟩ [] :=
    .guest memory (.ready 0 (.start 2 #[]) startRing_activated) same
  obtain ⟨k, made, rings, medium, _, filled, after⟩ :=
    logged.once rfl rfl rfl first last
  have orderly : k.Orderly :=
    startRing_orderly 2 (medium ▸ same.trans layout) (rings ▸ rfl) filled buffer ring
  have streamed : Streamed d.state [k] :=
    ((receive_streams built).2 _ _ _ _ [k] rfl after).1 (List.forall_mem_singleton.mpr orderly)
  exact ⟨m₀, _, _, _, k, t, built, after, made, filled, found, left, streamed⟩

end Console

end VmMonitor
