import VmMonitor.Proofs.Virtio.Lanes

/-!
What becomes of the entries that a queue takes from its available ring. The position of what was
taken and the position of what was given back are advanced in different places, with failures in
between; they drift apart by the entries that name no chain and, where the used ring does not lie in
one region, by those that it could not hold. The driver never hears of either again.
-/

namespace VmMonitor

open GuestMemory SplitQueue Virtio Virtio.Service

namespace SplitQueue

variable {q q' : SplitQueue} {m m' : GuestMemory} {head : UInt16} {len : UInt32}

theorem pop_none (popped : q.pop m = (.ok none, q')) : q' = q := by
  unfold pop at popped
  split at popped
  · cases popped
  · cases popped
    rfl
  · split at popped
    · cases popped
    · dsimp only at popped
      split at popped <;> cases popped

-- Of all failures, only a malformed chain moves the ring.
theorem pop_error {e : QueueError} (popped : q.pop m = (.error e, q')) :
    (∃ cause, e = .chain cause ∧ q' = { q with nextAvail := q.nextAvail + 1 }) ∨
      (∀ cause, e ≠ .chain cause) ∧ q' = q := by
  unfold pop at popped
  split at popped
  · rename_i failed
    cases popped
    refine .inr ⟨?_, rfl⟩
    rintro cause rfl
    unfold hasAvailable readAvailIndex at failed
    split at failed <;> cases failed
  · cases popped
  · split at popped
    · cases popped
      exact .inr ⟨nofun, rfl⟩
    · dsimp only at popped
      split at popped
      · rename_i cause _
        cases popped
        exact .inl ⟨cause, rfl, rfl⟩
      · cases popped

-- The position moves with the element, whatever becomes of the index.
theorem addUsed_parts (q : SplitQueue) (m : GuestMemory) (head : UInt16) (len : UInt32) :
    (∃ cause, (q.addUsed m head len).1 = .error (.usedEntry cause) ∧
      (q.addUsed m head len).2.1 = q) ∨
    ((∃ cause, (q.addUsed m head len).1 = .error (.usedIndex cause)) ∨
      (q.addUsed m head len).1 = .ok ()) ∧
      (q.addUsed m head len).2.1 = { q with nextUsed := q.nextUsed + 1 } := by
  unfold addUsed
  split
  · exact .inl ⟨_, rfl, rfl⟩
  · dsimp only
    split
    · exact .inr ⟨.inl ⟨_, rfl⟩, rfl⟩
    · exact .inr ⟨.inr rfl, rfl⟩

-- One region holds all that giving chains back writes.
def UsedWhole (q : SplitQueue) (m : GuestMemory) : Prop :=
  m.Holds q.usedRing (4 + 8 * q.size.toNat)

theorem UsedWhole.congr (whole : q.UsedWhole m) (same : m'.layout = m.layout) : q.UsedWhole m' :=
  Holds.congr same whole

theorem SamePlace.usedWhole (place : SamePlace q q') : q'.UsedWhole m ↔ q.UsedWhole m := by
  unfold SamePlace at place
  rw [place]
  rfl

-- Such a used ring takes every chain that is given back.
theorem addUsed_whole (sound : m.Sound) (laid : q.LaidOut) (whole : q.UsedWhole m)
    (head : UInt16) (len : UInt32) : (q.addUsed m head len).1 = .ok () := by
  unfold UsedWhole at whole
  have slot := slot_lt laid.size q.nextUsed
  have place := laid.usedSlot q.nextUsed
  have index := laid.usedIndex
  have element : m.Holds (q.usedSlotAddress q.nextUsed) 8 :=
    whole.within (by omega) (by omega) (by decide)
  have announced : m.Holds (q.usedRing.wrappingAdd 2) 2 :=
    whole.within (by omega) (by omega) (by decide)
  obtain ⟨_, _, done, _⟩ := addUsed_stores sound head len element announced
  rw [done]

end SplitQueue

namespace Virtio

-- What comes of an entry of the available ring.
inductive Entry where
  -- It does not name a chain.
  | malformed (cause : ChainError)
  -- Its chain was worked on, and the used ring could not take it.
  | unstored (chain : DescriptorChain)
  -- Its chain stands in the used ring, whose index could not be stored.
  | unannounced (chain : DescriptorChain) (written : UInt32)
  -- Its chain was given back, with the bytes written into it.
  | returned (chain : DescriptorChain) (written : UInt32)

namespace Entry

-- By how giving its chain back went.
def ofReturn (chain : DescriptorChain) (written : UInt32) : Except QueueError Unit → Entry
  | .ok () => returned chain written
  | .error (.usedIndex _) => unannounced chain written
  | .error _ => unstored chain

def isMalformed : Entry → Bool
  | malformed _ => true
  | unstored _ | unannounced .. | returned .. => false

-- Whether the used ring has an element for it.
def stored : Entry → Bool
  | unannounced .. | returned .. => true
  | malformed _ | unstored _ => false

-- Whether nothing went wrong with the used ring.
def Settled (e : Entry) : Prop :=
  (∃ cause, e = malformed cause) ∨ ∃ chain written, e = returned chain written

-- The ring behind an entry.
def behind (q : SplitQueue) (e : Entry) : SplitQueue :=
  { q with
    nextAvail := q.nextAvail + 1
    nextUsed := if e.stored then q.nextUsed + 1 else q.nextUsed }

theorem behind_return {q ring : SplitQueue} (moved : ring = { q with nextAvail := q.nextAvail + 1 })
    (m : GuestMemory) (chain : DescriptorChain) (written : UInt32) :
    behind q (ofReturn chain written (ring.addUsed m chain.head written).1) =
      (ring.addUsed m chain.head written).2.1 := by
  rcases addUsed_parts ring m chain.head written with
    ⟨cause, failed, same⟩ | ⟨⟨cause, failed⟩ | done, next⟩
  · rw [failed, same, moved]
    rfl
  · rw [failed, next, moved]
    rfl
  · rw [done, next, moved]
    rfl

theorem behind_all (entries : List Entry) (q : SplitQueue) :
    entries.foldl behind q = { q with
      nextAvail := q.nextAvail + UInt16.ofNat entries.length
      nextUsed := q.nextUsed + UInt16.ofNat (entries.countP stored) } := by
  induction entries generalizing q with
  | nil => simp
  | cons e rest ih =>
      rw [List.foldl_cons, ih, behind, List.length_cons, List.countP_cons]
      have one (n : Nat) : UInt16.ofNat (n + 1) = 1 + UInt16.ofNat n := by
        rw [Nat.add_comm, UInt16.ofNat_add]
        rfl
      cases e.stored <;> simp [one, UInt16.add_assoc]

theorem settled_counts {entries : List Entry} (settled : ∀ e ∈ entries, e.Settled) :
    entries.length = entries.countP stored + entries.countP isMalformed := by
  induction entries with
  | nil => rfl
  | cons e rest ih =>
      have rest := ih fun e later => settled e (List.mem_cons_of_mem _ later)
      rw [List.length_cons, List.countP_cons, List.countP_cons, rest]
      rcases settled e List.mem_cons_self with ⟨cause, rfl⟩ | ⟨chain, written, rfl⟩
      · exact Nat.add_assoc ..
      · exact Nat.add_right_comm ..

end Entry

namespace Service

variable {σ : Type} {s : Service σ} {d d' : Drained σ} {more : Bool} {fuel : Nat}
  {stock : σ → Nat}

-- The entry that a round takes.
def outcome? (s : Service σ) (d : Drained σ) : Option Entry :=
  if !s.wants d.state then none
  else match d.ring.pop d.medium.memory with
    | (.ok none, _) => none
    | (.error (.chain cause), _) => some (.malformed cause)
    | (.error _, _) => none
    | (.ok (some chain), ring) =>
        match s.work d.state d.medium chain with
        | .error _ => none
        | .ok (written, _, medium) =>
            some (.ofReturn chain written (ring.addUsed medium.memory chain.head written).1)

-- All entries that a run takes.
def entries (s : Service σ) : Nat → Drained σ → List Entry
  | 0, _ => []
  | fuel + 1, d => (s.outcome? d).toList ++
      match s.round d with
      | .ok (true, next) => entries s fuel next
      | _ => []

theorem entry_worked {chain : DescriptorChain} {written : UInt32} {state : σ} {medium : Medium}
    {ring : SplitQueue} (hungry : s.wants d.state = true)
    (popped : d.ring.pop d.medium.memory = (.ok (some chain), ring))
    (worked : s.work d.state d.medium chain = .ok (written, state, medium)) :
    s.outcome? d =
      some (.ofReturn chain written (ring.addUsed medium.memory chain.head written).1) := by
  simp [outcome?, hungry, popped, worked]

theorem round_ring (ran : s.round d = .ok (more, d')) :
    d'.ring = (s.outcome? d).toList.foldl Entry.behind d.ring := by
  cases hungry : s.wants d.state with
  | false =>
      have sated : s.round d = .ok (false, d) := by simp [round, hungry]
      rw [sated] at ran
      cases ran
      simp [outcome?, hungry]
  | true =>
      cases round_parts ran with
      | sated full =>
          rw [hungry] at full
          cases full
      | empty ring popped =>
          cases pop_none popped
          simp [outcome?, hungry, popped]
      | refused e ring text popped =>
          rcases pop_error popped with ⟨cause, rfl, moved⟩ | ⟨other, same⟩
          · simp [outcome?, hungry, popped, moved, Entry.behind, Entry.stored]
          · cases e with
            | chain cause => exact absurd rfl (other cause)
            | _ => simp [outcome?, hungry, popped, same]
      | lost ring e text _ popped worked returned | served ring _ popped worked returned =>
          obtain ⟨_, moved, _⟩ := pop_chain popped
          rw [entry_worked hungry popped worked]
          exact (Entry.behind_return moved _ _ _).symm

theorem drain_ring (done : s.drain fuel d = .ok d') :
    d'.ring = (s.entries fuel d).foldl Entry.behind d.ring := by
  induction fuel generalizing d with
  | zero => cases done
  | succ fuel ih =>
      unfold drain at done
      obtain ⟨⟨more, next⟩, ran, done⟩ := Checked.bind_eq_ok.mp done
      have first := round_ring ran
      rw [entries, ran, List.foldl_append, ← first]
      cases more with
      | false =>
          cases done
          rfl
      | true => exact ih done

-- A used ring in one region loses nothing of what it is given.

theorem entry_settled {e : Entry} (lawful : s.Lawful stock) (sane : Sane d)
    (whole : d.ring.UsedWhole d.medium.memory) (met : s.outcome? d = some e) :
    e.Settled := by
  unfold outcome? at met
  split at met
  · cases met
  split at met
  · cases met
  · cases met
    exact .inl ⟨_, rfl⟩
  · cases met
  rename_i chain ring popped
  split at met
  · cases met
  rename_i written state medium worked
  obtain ⟨_, moved, _⟩ := pop_chain popped
  have place : SamePlace d.ring ring := by
    rw [moved]
    rfl
  have layout := lawful.layout worked
  have held : ring.UsedWhole medium.memory := place.usedWhole.mpr (whole.congr layout)
  have returned := addUsed_whole (sane.memory.congr layout) (sane.ring.same place) held chain.head
    written
  rw [returned] at met
  cases met
  exact .inr ⟨_, _, rfl⟩

theorem entries_settled (lawful : s.Lawful stock) (sane : Sane d)
    (whole : d.ring.UsedWhole d.medium.memory) :
    ∀ e ∈ s.entries fuel d, e.Settled := by
  induction fuel generalizing d with
  | zero => nofun
  | succ fuel ih =>
      intro e listed
      rcases List.mem_append.mp listed with now | later
      · exact entry_settled lawful sane whole (Option.mem_toList.mp now)
      · split at later
        · rename_i next ran
          have kept := round_kept lawful sane (round_parts ran)
          have held := kept.place.usedWhole.mpr (whole.congr kept.layout)
          exact ih (sane.kept kept) held e later
        · cases later

end Service

section

variable {m₀ : GuestMemory} {q : SplitQueue} {entries : List Entry}

-- A ring behind all the entries that its queue has taken.
structure Tracks (m₀ : GuestMemory) (q : SplitQueue) (entries : List Entry) : Prop where
  ring : q = entries.foldl Entry.behind q.atRest
  settled : q.UsedWhole m₀ → ∀ e ∈ entries, e.Settled

theorem Tracks.activated {c c' : QueueConfig} (activated : c.activate = .ok (q, c')) :
    Tracks m₀ q [] :=
  ⟨(activate_atRest activated).symm, nofun⟩

theorem Tracks.drain {σ : Type} {s : Service σ} {stock : σ → Nat} {fuel : Nat}
    {start final : Drained σ} (tracks : Tracks m₀ start.ring entries) (lawful : s.Lawful stock)
    (sane : Sane start) (layout : start.medium.memory.layout = m₀.layout)
    (drained : s.drain fuel start = .ok final) :
    Tracks m₀ final.ring (entries ++ s.entries fuel start) where
  ring := by
    rw [List.foldl_append, (drain_place drained).atRest, ← tracks.ring]
    exact drain_ring drained
  settled whole e listed := by
    have held : start.ring.UsedWhole m₀ := (drain_place drained).usedWhole.mp whole
    rcases List.mem_append.mp listed with old | new
    · exact tracks.settled held e old
    · exact entries_settled lawful sane (held.congr layout) e new

-- How the positions of a ring go with the entries that its queue has taken.
structure Balanced (m₀ : GuestMemory) (q : SplitQueue) (entries : List Entry) : Prop where
  taken : q.nextAvail = UInt16.ofNat entries.length
  given : q.nextUsed = UInt16.ofNat (entries.countP Entry.stored)
  -- A used ring that lies in one region loses nothing but malformed chains.
  settled : q.UsedWhole m₀ → ∀ e ∈ entries, e.Settled
  agree : q.UsedWhole m₀ →
    (q.nextAvail = q.nextUsed ↔ entries.countP Entry.isMalformed % 65536 = 0)

theorem Tracks.balanced (tracks : Tracks m₀ q entries) : Balanced m₀ q entries := by
  have ring := tracks.ring
  rw [Entry.behind_all] at ring
  have taken : q.nextAvail = UInt16.ofNat entries.length := by
    rw [ring]
    exact UInt16.zero_add _
  have given : q.nextUsed = UInt16.ofNat (entries.countP Entry.stored) := by
    rw [ring]
    exact UInt16.zero_add _
  refine ⟨taken, given, tracks.settled, fun whole => ?_⟩
  rw [taken, given, Entry.settled_counts (tracks.settled whole), ← UInt16.toNat_inj,
    UInt16.toNat_ofNat', UInt16.toNat_ofNat']
  change _ % 65536 = _ % 65536 ↔ _
  omega

end

section

variable {ν : Type} [VirtioDevice ν] [Lanes ν] {m₀ : GuestMemory} {fresh d : ν} {m : Medium}
  {rings : Rings} {call : Call} {served : Served ν}

-- The entries that a call takes from the ring of its queue.
def Call.entries (call : Call) (d : ν) (m : Medium) (rings : Rings) : List Entry :=
  match Lanes.lane? (call.queue ν), ring? rings (call.queue ν) with
  | some s, some q => s.entries bound (call.start d m q)
  | _, _ => []

-- What came of the entries that each queue has taken since it was made ready.
abbrev Ledger := Nat → List Entry

def Ledger.set (ledger : Ledger) (i : Nat) (entries : List Entry) : Ledger :=
  fun j => if i = j then entries else ledger j

-- A life of a device with its ledger. Only making a queue ready and calls write to it; beside them
-- device, driver and guest do what they like, as long as memory stays where it is and no ring is
-- put in the place of another.
inductive Recorded (m₀ : GuestMemory) : ν → Rings → Medium → Ledger → Prop
  | start (d : ν) (queues : Nat) (effects : Array Effect) :
      Recorded m₀ d (List.replicate queues none) ⟨m₀, effects⟩ fun _ => []
  | ready {d : ν} {rings : Rings} {m : Medium} {ledger : Ledger} {c c' : QueueConfig}
      {q : SplitQueue} (i : Nat) (earlier : Recorded m₀ d rings m ledger)
      (activated : c.activate = .ok (q, c')) :
      Recorded m₀ d (rings.set i (some q)) m (ledger.set i [])
  | beside {d : ν} {rings : Rings} {m : Medium} {ledger : Ledger} (d' : ν) (rings' : Rings)
      (m' : Medium) (earlier : Recorded m₀ d rings m ledger)
      (layout : m'.memory.layout = m.memory.layout)
      (kept : ∀ j q, ring? rings' j = some q → ring? rings j = some q) :
      Recorded m₀ d' rings' m' ledger
  | called {d : ν} {rings : Rings} {m : Medium} {ledger : Ledger} {served : Served ν} (call : Call)
      (earlier : Recorded m₀ d rings m ledger) (done : call.perform d m rings = .ok served) :
      Recorded m₀ served.device served.rings served.medium
        (ledger.set (call.queue ν) (ledger (call.queue ν) ++ call.entries d m rings))

-- Every session has a ledger.
theorem session_recorded (session : Session fresh m₀ d rings m) :
    ∃ ledger, Recorded m₀ d rings m ledger := by
  induction session with
  | start queues effects => exact ⟨_, .start _ queues effects⟩
  | ready i _ activated ih =>
      obtain ⟨ledger, earlier⟩ := ih
      exact ⟨_, .ready i earlier activated⟩
  | unready i _ ih =>
      obtain ⟨ledger, earlier⟩ := ih
      refine ⟨ledger, .beside _ _ _ earlier rfl fun j q found => ?_⟩
      rcases ring_set found with none | old
      · cases none
      · exact old
  | acked features _ ih | configured offset data _ ih =>
      obtain ⟨ledger, earlier⟩ := ih
      exact ⟨ledger, .beside _ _ _ earlier rfl fun _ _ found => found⟩
  | reset _ ih =>
      obtain ⟨ledger, earlier⟩ := ih
      refine ⟨ledger, .beside _ _ _ earlier rfl fun j q found => ?_⟩
      rw [ring_cleared] at found
      cases found
  | guest memory _ same ih =>
      obtain ⟨ledger, earlier⟩ := ih
      exact ⟨ledger, .beside _ _ _ earlier same fun _ _ found => found⟩
  | notified i _ done ih =>
      obtain ⟨ledger, earlier⟩ := ih
      exact ⟨_, .called (.notify i) earlier done⟩
  | fed data _ done ih =>
      obtain ⟨ledger, earlier⟩ := ih
      exact ⟨_, .called (.input data) earlier done⟩

-- A device, its rings and memory with the ledger so far.
structure Accurate (m₀ : GuestMemory) (d : ν) (rings : Rings) (m : Medium) (ledger : Ledger) :
    Prop where
  standing : Standing m₀ (fun _ => 0) 0 d rings m
  tracks : ∀ i q, ring? rings i = some q → Tracks m₀ q (ledger i)

-- A ring and the entries of its queue change together.
theorem tracks_set {ledger : Ledger} {i : Nat} {q : SplitQueue} {entries : List Entry}
    (tracks : ∀ j q, ring? rings j = some q → Tracks m₀ q (ledger j)) (fits : Tracks m₀ q entries)
    (j : Nat) (q' : SplitQueue) (found : ring? (rings.set i (some q)) j = some q') :
    Tracks m₀ q' (ledger.set i entries j) := by
  unfold Ledger.set
  rcases ring_set_at found with ⟨here, same⟩ | ⟨other, old⟩
  · cases same
    rw [if_pos here]
    exact fits
  · rw [if_neg other]
    exact tracks j q' old

theorem call_standing (sound : m₀.Sound) (standing : Standing m₀ (fun _ => 0) 0 d rings m)
    (done : call.perform d m rings = .ok served) :
    Standing m₀ (fun _ => 0) 0 served.device served.rings served.medium := by
  cases call with
  | notify i => exact (lanes_bounded sound).notify standing done
  | input data => exact (lanes_bounded sound).input standing done

theorem called_tracks {ledger : Ledger} (sound : m₀.Sound)
    (accurate : Accurate m₀ d rings m ledger) (done : call.perform d m rings = .ok served) :
    ∀ j q, ring? served.rings j = some q → Tracks m₀ q
      (ledger.set (call.queue ν) (ledger (call.queue ν) ++ call.entries d m rings) j) := by
  rcases call_parts done with ⟨idle, rfl⟩ | ⟨s, q, d', lane, found, drained, rfl⟩
  · have none : call.entries d m rings = [] := by
      unfold Call.entries
      rcases idle with lane | absent
      · rw [lane]
      · rw [absent]
        split
        · rename_i both
          cases both
        · rfl
    intro j q found
    unfold Ledger.set
    rw [none, List.append_nil, ite_eq_right_iff.mpr (congrArg ledger)]
    exact accurate.tracks j q found
  · have taken : call.entries d m rings = s.entries bound (call.start d m q) := by
      unfold Call.entries
      rw [lane, found]
    have sane := start_sane sound accurate.standing call found
    have layout := (congrArg layout (outset_memory d m call)).trans accurate.standing.layout
    rw [taken]
    exact tracks_set accurate.tracks
      ((accurate.tracks _ q found).drain (Lanes.layout lane) sane layout drained)

theorem recorded_accurate {ledger : Ledger} (sound : m₀.Sound)
    (recorded : Recorded m₀ d rings m ledger) : Accurate m₀ d rings m ledger := by
  induction recorded with
  | start d queues effects =>
      have none (j : Nat) (q : SplitQueue) : ring? (List.replicate queues none) j ≠ some q := by
        rw [ring_start]
        nofun
      exact ⟨⟨rfl, fun j q found => absurd found (none j q), Nat.le_refl _⟩,
        fun j q found => absurd found (none j q)⟩
  | ready i _ activated ih =>
      exact ⟨ih.standing.ready i activated, tracks_set ih.tracks (.activated activated)⟩
  | beside d' rings' m' _ layout kept ih =>
      exact ⟨⟨layout.trans ih.standing.layout,
        fun j q found => ih.standing.activated j q (kept j q found), Nat.le_refl _⟩,
        fun j q found => ih.tracks j q (kept j q found)⟩
  | called call _ done ih =>
      exact ⟨call_standing sound ih.standing done, called_tracks sound ih done⟩

end

-- The books of a device: every session keeps them, and they balance.
structure Accounted (ν : Type) [VirtioDevice ν] [Lanes ν] (m₀ : GuestMemory) : Prop where
  kept : ∀ (fresh d : ν) (rings : Rings) (m : Medium), Session fresh m₀ d rings m →
    ∃ ledger, Recorded m₀ d rings m ledger
  balanced : ∀ (d : ν) (rings : Rings) (m : Medium) (ledger : Ledger),
    Recorded m₀ d rings m ledger →
    ∀ i q, ring? rings i = some q → Balanced m₀ q (ledger i)

theorem lanes_accounted {ν : Type} [VirtioDevice ν] [Lanes ν] {m₀ : GuestMemory}
    (sound : m₀.Sound) : Accounted ν m₀ where
  kept _ _ _ _ := session_recorded
  balanced _ _ _ _ recorded i q found :=
    ((recorded_accurate sound recorded).tracks i q found).balanced

theorem session_entries_accounted [Host] {m₀ : GuestMemory} {ranges : List (GuestAddress × UInt64)}
    (built : GuestMemory.new ranges = .ok m₀) : Accounted Console m₀ ∧ Accounted Net m₀ :=
  ⟨lanes_accounted (new_sound built), lanes_accounted (new_sound built)⟩

-- A ring of one slot as it is made, each of its parts in a place of its own.
def startRing : SplitQueue := ⟨1, 0x1000, 0x2000, 0x3000, 0, 0⟩

theorem startRing_activated : (⟨false, 256, 1, 0x1000, 0x2000, 0x3000⟩ : QueueConfig).activate =
    .ok (startRing, ⟨true, 256, 1, 0x1000, 0x2000, 0x3000⟩) := rfl

theorem startRing_notified {m : GuestMemory} {d : Drained Console}
    (drained : Console.transmitService.drain bound
      ⟨false, Console.new .accepting, startRing, ⟨m, #[]⟩⟩ = .ok d) :
    VirtioDevice.notify (Console.new .accepting) ⟨m, #[]⟩ [none, some startRing]
      Console.txQueue = .ok ⟨d.moved, d.state, [none, some d.ring], d.medium⟩ := by
  have found : ring? [none, some startRing] Console.txQueue = some startRing := rfl
  rw [Console.notify_transmit, Service.run, found]
  dsimp only
  rw [drained]
  rfl

-- One empty buffer to transmit.
theorem session_entries_accounted_empty :
    ∃ m₀ c rings m ledger q, GuestMemory.new [(0, 0x10000)] = .ok m₀ ∧
      Session (Console.new .accepting) m₀ c rings m ∧ Recorded m₀ c rings m ledger ∧
      ring? rings Console.txQueue = some q ∧ q.nextAvail = 1 ∧
      Balanced m₀ q (ledger Console.txQueue) := by
  let fresh := Console.new .accepting
  let start (m : GuestMemory) : Drained Console := ⟨false, fresh, startRing, ⟨m, #[]⟩⟩
  have ran : ((GuestMemory.new [(0, 0x10000)]).toOption.any fun m₀ =>
      (m₀.writeObject 0x2002 [1, 0]).toOption.any fun m =>
        (Console.transmitService.round (start m)).toOption.any fun first =>
        (Console.transmitService.round first.2).toOption.any fun second =>
          first.1 = true && second.1 = false && m.layout = m₀.layout &&
            second.2.ring.nextAvail = 1) = true := by
    decide +kernel
  obtain ⟨m₀, built, ran⟩ := Checked.ok_of_any ran
  obtain ⟨memory, wrote, ran⟩ := Checked.ok_of_any ran
  obtain ⟨⟨more, next⟩, first, ran⟩ := Checked.ok_of_any ran
  obtain ⟨⟨last, d⟩, second, ran⟩ := Checked.ok_of_any ran
  simp only [Bool.and_eq_true, decide_eq_true_eq] at ran
  obtain ⟨⟨⟨rfl, rfl⟩, same⟩, taken⟩ := ran
  have ready : Session fresh m₀ fresh [none, some startRing] ⟨memory, #[]⟩ :=
    .guest memory (.ready 1 (.start 2 #[]) startRing_activated) same
  have drained : Console.transmitService.drain bound (start memory) = .ok d :=
    (drain_next first).trans (drain_last second)
  have session := Session.notified Console.txQueue ready (startRing_notified drained)
  have accounted := (session_entries_accounted built).1
  obtain ⟨ledger, recorded⟩ := accounted.kept _ _ _ _ session
  exact ⟨m₀, d.state, _, _, ledger, d.ring, built, session, recorded, rfl, taken,
    accounted.balanced _ _ _ _ recorded Console.txQueue d.ring rfl⟩

-- The driver names a chain outside the table. With both rings in memory and apart, the notification
-- returns with an entry taken and none given back.
theorem notify_loses :
    ∃ m₀ rings m q served q', GuestMemory.new [(0, 0x10000)] = .ok m₀ ∧
      Session (Console.new .accepting) m₀ (Console.new .accepting) rings m ∧
      ring? rings Console.txQueue = some q ∧
      m.memory.Holds q.availRing (6 + 2 * q.size.toNat) ∧
      m.memory.Holds q.usedRing (6 + 8 * q.size.toNat) ∧
      q.availRing.toNat + (6 + 2 * q.size.toNat) ≤ q.usedRing.toNat ∧
      VirtioDevice.notify (Console.new .accepting) m rings Console.txQueue = .ok served ∧
      ring? served.rings Console.txQueue = some q' ∧ q'.nextAvail = 1 ∧ q'.nextUsed = 0 := by
  let fresh := Console.new .accepting
  let start (m : GuestMemory) : Drained Console := ⟨false, fresh, startRing, ⟨m, #[]⟩⟩
  have ran : ((GuestMemory.new [(0, 0x10000)]).toOption.any fun m₀ =>
      (m₀.writeObject 0x2000 [0, 0, 1, 0, 9, 0]).toOption.any fun m =>
        (Console.transmitService.round (start m)).toOption.any fun r =>
          r.1 = false && m.layout = m₀.layout && m₀.layout = [(0, 0x10000)] &&
            r.2.ring.nextAvail = 1 && r.2.ring.nextUsed = 0) = true := by
    decide +kernel
  obtain ⟨m₀, built, ran⟩ := Checked.ok_of_any ran
  obtain ⟨memory, wrote, ran⟩ := Checked.ok_of_any ran
  obtain ⟨⟨more, d⟩, refused, ran⟩ := Checked.ok_of_any ran
  simp only [Bool.and_eq_true, decide_eq_true_eq] at ran
  obtain ⟨⟨⟨⟨rfl, same⟩, layout⟩, taken⟩, given⟩ := ran
  have session : Session fresh m₀ fresh [none, some startRing] ⟨memory, #[]⟩ :=
    .guest memory (.ready 1 (.start 2 #[]) startRing_activated) same
  have listed : ((0, 0x10000) : GuestAddress × Nat) ∈ memory.layout := by simp [same, layout]
  exact ⟨m₀, _, _, startRing, _, d.ring, built, session, rfl,
    holds_listed listed (by decide) (by decide) (by decide),
    holds_listed listed (by decide) (by decide) (by decide), by decide,
    startRing_notified (drain_last refused), rfl, taken, given⟩

end Virtio

end VmMonitor
