import VmMonitor.Proofs.Virtio.Logged

/-!
What a network link receives, frame by frame. A frame that finds room waits for a chain of its own
and is gone with it, whether it fitted or not, so that chains and accepted frames go together one by
one in their order.
-/

namespace VmMonitor.Net

open GuestMemory SplitQueue DescriptorChain Virtio Virtio.Service

variable {m₀ : GuestMemory} {fresh n n' : Net} {m m' : Medium} {rings : Rings}
  {chain : DescriptorChain} {written : UInt32} {t : Turn Net} {k : Moment Net}
  {log : List (Moment Net)}

-- What is accepted of the data that the host sends.
def accepts (n : Net) (data : List UInt8) : List (List UInt8) :=
  if n.backlog.length = 64 then [] else [data]

theorem accept_backlog (few : n.stock ≤ capacity) (m : Medium) (data : List UInt8) :
    (n.accept m data).1.backlog = n.backlog ++ n.accepts data := by
  unfold accept accepts
  rw [stock, capacity] at few
  rw [capacity]
  split
  · rw [if_pos (by omega), List.append_nil]
  · rw [if_neg (by omega)]

theorem send_keeps (n : Net) (m : Medium) (frame : List UInt8) :
    (n.send m frame).1.backlog = n.backlog := by
  unfold send
  split <;> rfl

theorem transmit_keeps (done : n.transmit m chain = .ok (written, n', m')) :
    n'.backlog = n.backlog := by
  unfold transmit at done
  dsimp only at done
  split at done
  · cases done
    rfl
  split at done
  · cases done
    rfl
  split at done
  · cases done
    rfl
  · obtain ⟨frame, _, done⟩ := Checked.bind_eq_ok.mp done
    cases done
    exact send_keeps n m frame

theorem holding : Holding Net.backlog where
  acked _ _ := rfl
  configured _ _ _ := rfl
  reset _ := rfl
  others {i s} other lane := by
    change (if i = txQueue then some transmitService
      else if i = rxQueue then some receiveService else none) = some s at lane
    split at lane
    · cases lane
      exact transmit_keeps
    · split at lane
      · exact absurd ‹_› other
      · cases lane

-- The oldest frame is taken out, and the chain is filled with it if it can be filled at all.
theorem deliver_outcome {frame : List UInt8} {rest : List (List UInt8)}
    (waiting : n.backlog = frame :: rest) (done : n.deliver m chain = .ok (written, n', m')) :
    n'.backlog = rest ∧ ∀ count,
      (chain.writeAll m.memory (receiveHeader ++ frame)).1 = .ok count →
      chain.writeAll m.memory (receiveHeader ++ frame) = (.ok count, m'.memory) ∧
        written = UInt32.ofNat count := by
  have plain : (if chain.writableLen < (receiveHeader ++ frame).length then
      m.warn <| s!"net: receive buffer of {chain.writableLen} bytes " ++
        s!"truncates a {(receiveHeader ++ frame).length} byte frame"
      else m).memory = m.memory := by
    split <;> rfl
  unfold deliver at done
  rw [waiting] at done
  dsimp only at done
  rw [plain] at done
  cases filled : chain.writeAll m.memory (receiveHeader ++ frame) with
  | mk answer memory =>
      rw [filled] at done
      cases answer with
      | ok total =>
          cases done
          refine ⟨rfl, fun count same => ?_⟩
          cases same
          exact ⟨rfl, rfl⟩
      | error e =>
          cases done
          exact ⟨rfl, nofun⟩

-- The frame that a turn takes out.
def oldest (t : Turn Net) : List UInt8 := t.before.state.backlog.headD []

-- A chain that was given back with as much of a frame as finds room, behind its header.
structure Carries (t : Turn Net) (frame : List UInt8) : Prop where
  length : t.written.toNat = min (12 + frame.length) t.chain.writableLen
  bytes : t.found = (List.replicate 10 0 ++ [1, 0] ++ frame).take t.written.toNat

theorem turned_carries (turned : receiveService.Turned t) (sane : Sane t.before)
    (apart : t.chain.writable.Pairwise Descriptor.Apart)
    (clear : ∀ x, Writable t.chain x → ¬ t.before.ring.UsedByte x)
    (mapped : ∀ d ∈ t.chain.writable, t.before.medium.memory.Mapped d.address) :
    Carries t (oldest t) ∧ oldest t :: t.after.state.backlog = t.before.state.backlog := by
  obtain ⟨memory, worked, same⟩ := turned.worked receive_lawful sane clear
  have held : ∀ d ∈ t.chain.writable, t.before.medium.memory.Holds d.address d.len.toNat :=
    placed_held (fun d here => turned.placed d (List.mem_filter.mp here).1)
      fun d here _ => mapped d here
  have hungry : !t.before.state.backlog.isEmpty := turned.hungry
  unfold oldest
  cases waiting : t.before.state.backlog with
  | nil =>
      rw [waiting] at hungry
      cases hungry
  | cons frame rest =>
      obtain ⟨left, filled⟩ := deliver_outcome waiting worked
      obtain ⟨filled, written⟩ := filled _ (fill_held sane.memory held (Nat.zero_le _))
      obtain ⟨length, count, found⟩ := turned.fills sane apart filled written same
      have header : receiveHeader = List.replicate 10 0 ++ [1, 0] := rfl
      rw [← length] at count found
      rw [header] at count found
      rw [List.length_append] at count
      exact ⟨⟨count, found⟩, congrArg (frame :: ·) left⟩

-- The frames over a log of calls.
structure Relayed (n : Net) (log : List (Moment Net)) : Prop where
  carried : ∀ (i : Nat) (t : Turn Net), (log.flatMap Moment.filled)[i]? = some t →
    ∃ frame, (log.flatMap (Moment.taken accepts))[i]? = some frame ∧ Carries t frame
  waiting : (log.flatMap (Moment.taken accepts)).drop (log.flatMap Moment.filled).length = n.backlog
  each : ∀ k ∈ log, k.filled.map oldest ++ k.served.device.backlog =
    k.device.backlog ++ k.taken accepts
  shown : ∀ k ∈ log, k.Shown
  room : n.backlog.length ≤ 64 ∧ ∀ k ∈ log, k.device.backlog.length ≤ 64

theorem session_fits (sound : m₀.Sound) (empty : fresh.backlog = [])
    (session : Session fresh m₀ n rings m) : Standing m₀ stock capacity n rings m :=
  session_standing (bounded sound) (by simp [stock, empty]) session

theorem logged_relayed (sound : m₀.Sound) (empty : fresh.backlog = [])
    (logged : Logged fresh m₀ n rings m log) (orderly : ∀ k ∈ log, k.Orderly)
    (mapped : ∀ k ∈ log, ∀ t ∈ k.filled, ∀ d ∈ t.chain.writable,
      t.before.medium.memory.Mapped d.address) : Relayed n log := by
  have carries (k : Moment Net) (listed : k ∈ log) (t : Turn Net) (here : t ∈ k.filled) :
      Carries t (oldest t) ∧ [oldest t] ++ t.after.state.backlog = t.before.state.backlog := by
    obtain ⟨turned, sane, _⟩ := logged.turned sound rfl receive_lawful listed here
    exact turned_carries turned sane ((orderly k listed).apart t here)
      ((orderly k listed).clear t here) (mapped k listed t here)
  obtain ⟨each, all⟩ := logged.relays holding sound empty orderly
    (fun session data => accept_backlog (session_fits sound empty session).stocked _ data)
    fun k listed t here => (carries k listed t here).2
  simp only [← List.map_eq_flatMap] at each all
  rw [← List.map_flatMap] at all
  refine ⟨fun i t here => ?_, ?_, each, logged.shown sound orderly,
    (session_fits sound empty logged.session).stocked, fun k listed => ?_⟩
  · obtain ⟨k, listed, inside⟩ := List.mem_flatMap.mp (List.mem_of_getElem? here)
    refine ⟨oldest t, ?_, (carries k listed t inside).1⟩
    have early := (List.getElem?_eq_some_iff.mp here).1
    rw [← all, List.getElem?_append_left (by rwa [List.length_map]), List.getElem?_map, here]
    rfl
  · rw [← all]
    exact List.drop_left' (List.length_map _)
  · exact (session_fits sound empty (logged.each k listed).1).stocked

-- Calls for the queue that receives come back whatever the driver has put into its rings.
theorem receive_ends (sound : m₀.Sound) (empty : fresh.backlog = [])
    (session : Session fresh m₀ n rings m) (call : Call) (here : call.queue Net = rxQueue) :
    ∃ served, call.perform n m rings = .ok served := by
  have lane : Lanes.lane? (call.queue Net) = some receiveService := by
    rw [here]
    rfl
  have standing := outset_standing (bounded sound) (by simp [stock, empty]) session
    (fun data standing => accept_standing standing data) call
  rw [call_run lane, here]
  exact receive_returns standing

-- Between two resets, whatever the host sends and whenever the driver lays out buffers.
theorem receive_relays [Host] {ranges : List (GuestAddress × UInt64)}
    (built : GuestMemory.new ranges = .ok m₀) :
    (∀ (fresh n : Net) (rings : Rings) (m : Medium), Session fresh m₀ n rings m →
      ∃ log, Logged fresh m₀ n rings m log) ∧
    ∀ (fresh n : Net) (rings : Rings) (m : Medium) (log : List (Moment Net)),
      fresh.backlog = [] → Logged fresh m₀ n rings m log →
      ((∀ k ∈ log, k.Orderly) →
        (∀ k ∈ log, ∀ t ∈ k.filled, ∀ d ∈ t.chain.writable,
          t.before.medium.memory.Mapped d.address) → Relayed n log) ∧
      ∀ call : Call, call.queue Net = rxQueue → ∃ served, call.perform n m rings = .ok served :=
  ⟨fun _ _ _ _ => session_logged, fun _ _ _ _ _ empty logged =>
    ⟨logged_relayed (new_sound built) empty logged,
      receive_ends (new_sound built) empty logged.session⟩⟩

-- A frame of three bytes for a buffer with room for two of them behind the header.
theorem receive_relays_truncated :
    ∃ m₀ n rings m k t, GuestMemory.new [(0, 0x10000)] = .ok m₀ ∧
      Logged (Net.new .accepting []) m₀ n rings m [k] ∧ k.call = .input [104, 105, 33] ∧
      k.filled = [t] ∧ t.found = [0, 0, 0, 0, 0, 0, 0, 0, 0, 0, 1, 0, 104, 105] ∧
      n.backlog = [] ∧ Relayed n [k] := by
  let fresh := Net.new .accepting []
  let call : Call := .input [104, 105, 33]
  let start (m : GuestMemory) : Drained Net := call.start fresh ⟨m, #[]⟩ startRing
  have ran : ((GuestMemory.new [(0, 0x10000)]).toOption.any fun m₀ =>
      (m₀.writeObject 0x1000 (Bytes.ofNat 0x4000 8 ++ Bytes.ofNat 14 4 ++ [2, 0])).toOption.any
        fun middle => (middle.writeObject 0x2002 [1, 0]).toOption.any fun m =>
        (receiveService.turn? (start m)).any fun t =>
        (receiveService.round t.after).toOption.any fun last =>
          last.1 = false && m.layout = m₀.layout && m₀.layout = [(0, 0x10000)] &&
            t.chain.writable = [⟨0x4000, 14, .writable⟩] && t.before.ring = startRing &&
            (t.before.medium.memory.byte? 0x4000).isSome &&
            t.found = [0, 0, 0, 0, 0, 0, 0, 0, 0, 0, 1, 0, 104, 105] &&
            last.2.state.backlog = []) = true := by
    decide +kernel
  obtain ⟨m₀, built, ran⟩ := Checked.ok_of_any ran
  obtain ⟨_, _, ran⟩ := Checked.ok_of_any ran
  obtain ⟨memory, _, ran⟩ := Checked.ok_of_any ran
  obtain ⟨t, first, ran⟩ := (Option.any_eq_true ..).mp ran
  obtain ⟨⟨more, d⟩, last, ran⟩ := Checked.ok_of_any ran
  simp only [Bool.and_eq_true, decide_eq_true_eq] at ran
  obtain ⟨⟨⟨⟨⟨⟨⟨rfl, same⟩, layout⟩, buffer⟩, ring⟩, mapped⟩, found⟩, left⟩ := ran
  have logged : Logged fresh m₀ fresh [some startRing, none] ⟨memory, #[]⟩ [] :=
    .guest memory (.ready 0 (.start 2 #[]) startRing_activated) same
  obtain ⟨k, made, rings, medium, _, filled, after⟩ := logged.once rfl rfl rfl first last
  have orderly : k.Orderly :=
    startRing_orderly 14 (medium ▸ same.trans layout) (rings ▸ rfl) filled buffer ring
  have relayed : Relayed d.state [k] :=
    ((receive_relays built).2 _ _ _ _ [k] rfl after).1 (List.forall_mem_singleton.mpr orderly)
      (List.forall_mem_singleton.mpr fun t' here b inside => by
        cases List.mem_singleton.mp (filled ▸ here)
        rw [buffer, List.mem_singleton] at inside
        rw [inside]
        exact mapped)
  exact ⟨m₀, _, _, _, k, t, built, after, made, filled, found, left, relayed⟩

end VmMonitor.Net
