import VmMonitor.Proofs.Virtio.Lanes
import VmMonitor.Proofs.Virtio.Steps

/-!
How the queues of a transport follow what their driver programs. The configurations and the rings
made from them are kept in two tables, and all queues share one set of registers behind a selector;
and yet a ring stands exactly where its configuration says that it is ready, it is the one that the
configuration describes, and every address is put together from the last two words meant for it.
-/

namespace VmMonitor

open SplitQueue Virtio

namespace QueueConfig

variable {c c' : QueueConfig} {q : SplitQueue}

theorem isPowerOfTwo_toNat {n : UInt16} (valid : isPowerOfTwo n = true) :
    n.toNat.isPowerOfTwo := by
  unfold isPowerOfTwo at valid
  obtain ⟨some, bits⟩ := Bool.and_eq_true_iff.mp valid
  have positive : n.toNat ≠ 0 := fun zero => bne_iff_ne.mp some (UInt16.toNat_inj.mp zero)
  have one : (1 : UInt16) ≤ n := UInt16.le_iff_toNat_le.mpr (Nat.pos_of_ne_zero positive)
  have same := congrArg UInt16.toNat (eq_of_beq bits)
  rw [UInt16.toNat_and, UInt16.toNat_sub_of_le _ _ one] at same
  exact (Nat.and_sub_one_eq_zero_iff_isPowerOfTwo positive).mp same

theorem isPowerOfTwo_iff {n : UInt16} : isPowerOfTwo n = true ↔ n.toNat.isPowerOfTwo := by
  refine ⟨isPowerOfTwo_toNat, fun power => ?_⟩
  have positive := Nat.pos_of_isPowerOfTwo power
  have one : (1 : UInt16) ≤ n := UInt16.le_iff_toNat_le.mpr positive
  have bits := (Nat.and_sub_one_eq_zero_iff_isPowerOfTwo (by omega)).mpr power
  refine Bool.and_eq_true_iff.mpr ⟨bne_iff_ne.mpr fun zero => ?_, beq_iff_eq.mpr ?_⟩
  · rw [zero] at positive
    exact absurd positive (by decide)
  · apply UInt16.toNat_inj.mp
    rw [UInt16.toNat_and, UInt16.toNat_sub_of_le _ _ one]
    exact bits

theorem activate_parts (activated : c.activate = .ok (q, c')) :
    c' = { c with ready := true } ∧ SplitQueue.new c = .ok q ∧ isPowerOfTwo c.size = true ∧
      c.size ≤ c.maxSize := by
  unfold activate at activated
  split at activated
  · cases activated
  rename_i valid
  obtain ⟨ring, made, activated⟩ := Checked.bind_eq_ok.mp activated
  cases activated
  simp only [Bool.or_eq_true, decide_eq_true_eq, Bool.not_eq_eq_eq_not, Bool.not_true, not_or,
    Bool.not_eq_false, UInt16.not_lt] at valid
  exact ⟨rfl, made, valid.1.2, valid.2⟩

-- Activation does not look at whether the queue is ready.
theorem activate_again (activated : c.activate = .ok (q, c')) : c'.activate = .ok (q, c') := by
  obtain ⟨rfl, _⟩ := activate_parts activated
  exact activated

end QueueConfig

namespace Transport

-- An address from its two words.
def joined (high low : UInt32) : GuestAddress := (high.toUInt64 <<< 32) ||| low.toUInt64

theorem withLow_joined (high low value : UInt32) :
    withLow (joined high low) value = joined high value := by
  have mask : ∀ (i : Nat) (lt : i < 64), (18446744069414584320#64)[i] = !decide (i < 32) := by
    decide
  refine UInt64.toBitVec_inj.mp (BitVec.eq_of_getLsbD_eq fun i lt => ?_)
  have wide (v : UInt32) (above : ¬ i < 32) : v.toBitVec.getLsbD i = false :=
    BitVec.getLsbD_of_ge _ _ (Nat.le_of_not_lt above)
  by_cases below : i < 32 <;> simp [withLow, joined, mask i lt, below, wide, lt]

theorem withHigh_joined (high low value : UInt32) :
    withHigh (joined high low) value = joined value low := by
  have mask : ∀ (i : Nat) (lt : i < 64), (4294967295#64)[i] = decide (i < 32) := by decide
  refine UInt64.toBitVec_inj.mp (BitVec.eq_of_getLsbD_eq fun i lt => ?_)
  have wide (v : UInt32) (above : ¬ i < 32) : v.toBitVec.getLsbD i = false :=
    BitVec.getLsbD_of_ge _ _ (Nat.le_of_not_lt above)
  by_cases below : i < 32 <;> simp [withHigh, joined, mask i lt, below, wide, lt]

-- The areas of a queue, each with an address in two registers.
inductive Area where
  | descriptors
  | available
  | used
  deriving DecidableEq

namespace Area

def low : Area → Register
  | descriptors => .queueDescLow
  | available => .queueAvailLow
  | used => .queueUsedLow

def high : Area → Register
  | descriptors => .queueDescHigh
  | available => .queueAvailHigh
  | used => .queueUsedHigh

def programmed (c : QueueConfig) : Area → GuestAddress
  | descriptors => c.descTable
  | available => c.availRing
  | used => c.usedRing

def start (q : SplitQueue) : Area → GuestAddress
  | descriptors => q.descTable
  | available => q.availRing
  | used => q.usedRing

def setting (a : GuestAddress) : Area → QueueConfig.Setting
  | descriptors => .descTable a
  | available => .availRing a
  | used => .usedRing a

theorem low_inj {area other : Area} (same : other.low = area.low) : other = area := by
  cases area <;> cases other <;> first | rfl | cases same

theorem high_inj {area other : Area} (same : other.high = area.high) : other = area := by
  cases area <;> cases other <;> first | rfl | cases same

theorem low_ne_high (area other : Area) : area.low ≠ other.high := by
  cases area <;> cases other <;> nofun

theorem low_ne_num (area : Area) : area.low ≠ .queueNum := by cases area <;> nofun

theorem high_ne_num (area : Area) : area.high ≠ .queueNum := by cases area <;> nofun

theorem programmed_set {c : QueueConfig} (idle : c.ready = false) (area other : Area)
    (a : GuestAddress) :
    other.programmed (c.set (area.setting a)) = if other = area then a else other.programmed c := by
  cases area <;> cases other <;> simp [QueueConfig.set, idle, setting, programmed]

theorem set_frame (c : QueueConfig) (area : Area) (a : GuestAddress) :
    (c.set (area.setting a)).ready = c.ready ∧ (c.set (area.setting a)).size = c.size ∧
      (c.set (area.setting a)).maxSize = c.maxSize := by
  cases area <;> unfold QueueConfig.set <;> split <;> exact ⟨rfl, rfl, rfl⟩

end Area

-- What a word written to a register sets in the configuration of the selected queue.
def Register.setting? (r : Register) (c : QueueConfig) (value : UInt32) :
    Option QueueConfig.Setting :=
  match r with
  | .queueNum => some (.size value.toUInt16)
  | .queueDescLow => some (.descTable (withLow c.descTable value))
  | .queueDescHigh => some (.descTable (withHigh c.descTable value))
  | .queueAvailLow => some (.availRing (withLow c.availRing value))
  | .queueAvailHigh => some (.availRing (withHigh c.availRing value))
  | .queueUsedLow => some (.usedRing (withLow c.usedRing value))
  | .queueUsedHigh => some (.usedRing (withHigh c.usedRing value))
  | _ => none

-- The registers that describe a queue.
def Register.programs (r : Register) : Bool := (r.setting? (QueueConfig.new 0) 0).isSome

theorem Register.programs_of {r : Register} {c : QueueConfig} {value : UInt32}
    {s : QueueConfig.Setting} (named : r.setting? c value = some s) : r.programs = true := by
  cases r <;> first | rfl | cases named

theorem Area.programs_low (area : Area) : area.low.programs := by cases area <;> rfl

theorem Area.programs_high (area : Area) : area.high.programs := by cases area <;> rfl

-- The configuration of a queue and its ring, as it was made ready, by the last words written to the
-- registers of the queue.
structure Laid (words : Register → Option UInt32) (c : QueueConfig) (ring : Option SplitQueue) :
    Prop where
  size : c.size = ((words .queueNum).map (·.toUInt16)).getD c.maxSize
  address : ∀ area : Area,
    area.programmed c = joined ((words area.high).getD 0) ((words area.low).getD 0)
  ready : c.ready = ring.isSome
  ring : ∀ q, ring = some q → c.activate = .ok (q, c)

namespace Laid

variable {words words' : Register → Option UInt32} {c c' : QueueConfig} {ring : Option SplitQueue}

theorem fresh (maxSize : UInt16) (none : ∀ r, words r = none) :
    Laid words (QueueConfig.new maxSize) .none where
  size := by
    rw [none]
    rfl
  address area := by
    rw [none, none]
    cases area <;> rfl
  ready := rfl
  ring := nofun

theorem congr (laid : Laid words c ring) (same : ∀ r, r.programs → words' r = words r) :
    Laid words' c ring where
  size := by
    rw [same .queueNum rfl]
    exact laid.size
  address area := by
    rw [same _ area.programs_low, same _ area.programs_high]
    exact laid.address area
  ready := laid.ready
  ring := laid.ring

theorem idle (laid : Laid words c ring) (idle : c.ready = false) : ring = none := by
  have isSome := laid.ready
  rw [idle] at isSome
  exact Option.isNone_iff_eq_none.mp (Option.isSome_eq_false_iff.mp isSome.symm)

theorem activate {q : SplitQueue} (laid : Laid words c none)
    (activated : c.activate = .ok (q, c')) : Laid words c' (some q) := by
  have again := QueueConfig.activate_again activated
  obtain ⟨rfl, _⟩ := QueueConfig.activate_parts activated
  refine ⟨laid.size, fun area => ?_, rfl, fun q' same => ?_⟩
  · have address := laid.address area
    cases area <;> exact address
  · cases same
    exact again

theorem deactivate (laid : Laid words c ring) : Laid words c.deactivate none := by
  refine ⟨laid.size, fun area => ?_, rfl, nofun⟩
  have address := laid.address area
  cases area <;> exact address

-- A word for one half of an address.
theorem half_written {area : Area} {a : GuestAddress} (laid : Laid words c none)
    (here : a = joined ((words' area.high).getD 0) ((words' area.low).getD 0))
    (size : words' .queueNum = words .queueNum)
    (others : ∀ other, other ≠ area →
      words' other.low = words other.low ∧ words' other.high = words other.high) :
    Laid words' (c.set (area.setting a)) none := by
  obtain ⟨ready, frame, maxSize⟩ := area.set_frame c a
  refine ⟨?_, fun other => ?_, ready.trans laid.ready, nofun⟩
  · rw [frame, maxSize, size]
    exact laid.size
  · rw [area.programmed_set laid.ready other a]
    split
    · rename_i same
      rw [same]
      exact here
    · rename_i different
      obtain ⟨low, high⟩ := others other different
      rw [low, high]
      exact laid.address other

theorem low_written {value : UInt32} (laid : Laid words c none) (area : Area)
    (here : words' area.low = some value)
    (others : ∀ r, r.programs → r ≠ area.low → words' r = words r) :
    Laid words' (c.set (area.setting (withLow (area.programmed c) value))) none := by
  have high (other : Area) := others _ other.programs_high (area.low_ne_high other).symm
  have low (other : Area) (different : other ≠ area) :=
    others _ other.programs_low fun same => different (Area.low_inj same)
  refine half_written laid ?_ (others .queueNum rfl area.low_ne_num.symm)
    fun other different => ⟨low other different, high other⟩
  rw [here, high, laid.address area]
  exact withLow_joined ..

theorem high_written {value : UInt32} (laid : Laid words c none) (area : Area)
    (here : words' area.high = some value)
    (others : ∀ r, r.programs → r ≠ area.high → words' r = words r) :
    Laid words' (c.set (area.setting (withHigh (area.programmed c) value))) none := by
  have low (other : Area) := others _ other.programs_low (other.low_ne_high area)
  have high (other : Area) (different : other ≠ area) :=
    others _ other.programs_high fun same => different (Area.high_inj same)
  refine half_written laid ?_ (others .queueNum rfl area.high_ne_num.symm)
    fun other different => ⟨low other, high other different⟩
  rw [here, low, laid.address area]
  exact withHigh_joined ..

theorem size_written {value : UInt32} (laid : Laid words c none)
    (here : words' .queueNum = some value)
    (others : ∀ r, r.programs → r ≠ .queueNum → words' r = words r) :
    Laid words' (c.set (.size value.toUInt16)) none := by
  have idle : c.ready = false := laid.ready
  have set : c.set (.size value.toUInt16) = { c with size := value.toUInt16 } := by
    simp [QueueConfig.set, idle]
  rw [set]
  refine ⟨?_, fun area => ?_, idle, nofun⟩
  · rw [here]
    rfl
  · have address := laid.address area
    rw [others _ area.programs_low area.low_ne_num, others _ area.programs_high area.high_ne_num]
    cases area <;> exact address

theorem written {r : Register} {value : UInt32} {s : QueueConfig.Setting}
    (laid : Laid words c none) (named : r.setting? c value = some s)
    (here : words' r = some value)
    (others : ∀ other, other.programs → other ≠ r → words' other = words other) :
    Laid words' (c.set s) none := by
  unfold Register.setting? at named
  split at named <;> cases named
  · exact laid.size_written here others
  · exact laid.low_written .descriptors here others
  · exact laid.high_written .descriptors here others
  · exact laid.low_written .available here others
  · exact laid.high_written .available here others
  · exact laid.low_written .used here others
  · exact laid.high_written .used here others

end Laid

-- A word access to a register, below the configuration space.
def Register.accessed (r : Register) (a : Access) : Prop :=
  a.offset < configStart ∧ a.width = .word ∧ Register.of a.offset.toNat = r

instance (r : Register) (a : Access) : Decidable (r.accessed a) :=
  inferInstanceAs (Decidable (_ ∧ _ ∧ _))

def isReady {ν : Type} (t : Transport ν) (i : Nat) : Bool := t.queues[i]?.any (·.ready)

-- What the driver did to a transport, and how the transport stood before.
inductive Stroke (ν : Type) where
  | write (before : Transport ν) (a : Access) (value : UInt64)
  | reset

namespace Stroke

variable {ν : Type}

def Resets : Stroke ν → Prop
  | write _ a value => Register.status.accessed a ∧ value.toUInt32 = 0
  | reset => True

instance : DecidablePred (@Resets ν)
  | write .. => inferInstanceAs (Decidable (_ ∧ _))
  | reset => inferInstanceAs (Decidable True)

-- The word stored to a register of queue `i` while the queue was selected and not ready.
def stored? (i : Nat) (r : Register) : Stroke ν → Option UInt32
  | write t a value =>
      if r.accessed a ∧ t.queueSelect.toNat = i ∧ t.isReady i = false then some value.toUInt32
      else none
  | reset => none

-- The last such word since the last reset, the latest stroke first.
def last? (i : Nat) (r : Register) : List (Stroke ν) → Option UInt32
  | [] => none
  | s :: earlier => if s.Resets then none else (s.stored? i r).or (last? i r earlier)

end Stroke

section

variable {ν : Type} {t t' : Transport ν} {log : List (Stroke ν)} {a : Access} {value : UInt64}

-- Every queue as its driver has programmed it.
structure Programmed (t : Transport ν) (log : List (Stroke ν)) : Prop where
  lengths : t.rings.length = t.queues.length
  laid : ∀ i c, t.queues[i]? = some c →
    Laid (Stroke.last? i · log) c ((ring? t.rings i).map atRest)

theorem ring_atRest (rings : Rings) (i : Nat) :
    (ring? rings i).map atRest = ring? (rings.map (·.map atRest)) i := by
  unfold ring?
  rw [List.getElem?_map]
  cases rings[i]? <;> rfl

-- Rings may have moved on, in their places.
theorem Programmed.later {log' : List (Stroke ν)} (programmed : Programmed t log)
    (queues : t'.queues = t.queues)
    (places : t'.rings.map (·.map atRest) = t.rings.map (·.map atRest))
    (words : ∀ i c, t.queues[i]? = some c → ∀ r : Register, r.programs →
      Stroke.last? i r log' = Stroke.last? i r log) : Programmed t' log' where
  lengths := by
    have same := congrArg List.length places
    rw [List.length_map, List.length_map] at same
    rw [same, queues]
    exact programmed.lengths
  laid i c found := by
    rw [queues] at found
    rw [ring_atRest, places, ← ring_atRest]
    exact (programmed.laid i c found).congr (words i c found)

-- Strokes that leave what the driver has programmed as it is.

theorem last_spared {s : Stroke ν} {i : Nat} {r : Register} (kept : ¬ s.Resets)
    (none : s.stored? i r = none) : Stroke.last? i r (s :: log) = Stroke.last? i r log := by
  rw [Stroke.last?, if_neg kept, none]
  rfl

theorem last_unwritten (outside : ¬ (a.offset < configStart ∧ a.width = .word)) (i : Nat)
    (r : Register) : Stroke.last? i r (.write t a value :: log) = Stroke.last? i r log := by
  have unwritten (r : Register) : ¬ r.accessed a := fun written => outside ⟨written.1, written.2.1⟩
  exact last_spared (fun resets => unwritten _ resets.1) (if_neg fun stored => unwritten r stored.1)

theorem last_other {r : Register} (kept : ¬ (Stroke.write t a value).Resets)
    (other : r ≠ Register.of a.offset.toNat) (i : Nat) :
    Stroke.last? i r (.write t a value :: log) = Stroke.last? i r log :=
  last_spared kept (if_neg fun stored => other stored.1.2.2.symm)

theorem last_unselected {r : Register} {i : Nat} (kept : ¬ (Stroke.write t a value).Resets)
    (other : t.queueSelect.toNat ≠ i) :
    Stroke.last? i r (.write t a value :: log) = Stroke.last? i r log :=
  last_spared kept (if_neg fun stored => other stored.2.1)

theorem last_frozen {r : Register} {i : Nat} (kept : ¬ (Stroke.write t a value).Resets)
    (ready : t.isReady i = true) :
    Stroke.last? i r (.write t a value :: log) = Stroke.last? i r log :=
  last_spared kept (if_neg fun stored => Bool.false_ne_true (stored.2.2.symm.trans ready))

theorem last_stored (kept : ¬ (Stroke.write t a value).Resets) (below : a.offset < configStart)
    (word : a.width = .word) (idle : t.isReady t.queueSelect.toNat = false) :
    Stroke.last? t.queueSelect.toNat (Register.of a.offset.toNat) (.write t a value :: log) =
      some value.toUInt32 := by
  rw [Stroke.last?, if_neg kept, Stroke.stored?, if_pos ⟨⟨below, word, rfl⟩, rfl, idle⟩]
  rfl

-- A register that sets nothing in a queue.
theorem Programmed.besides (programmed : Programmed t log)
    (kept : ¬ (Stroke.write t a value).Resets) (plain : ¬ (Register.of a.offset.toNat).programs) :
    Programmed t (.write t a value :: log) :=
  programmed.later rfl rfl fun i _ _ _ programs =>
    last_other kept (fun same => plain (same ▸ programs)) i

-- Another configuration and ring for one queue, where all other queues keep theirs.
theorem Programmed.put {log' : List (Stroke ν)} {i : Nat} {c : QueueConfig} {rings : Rings}
    (programmed : Programmed t log) (ring : Option SplitQueue)
    (length : rings.length = t.rings.length) (here : (ring? rings i).map atRest = ring)
    (elsewhere : ∀ j, i ≠ j → rings[j]? = t.rings[j]?)
    (laid : Laid (Stroke.last? i · log') c ring)
    (words : ∀ j, i ≠ j → ∀ r : Register, r.programs →
      Stroke.last? j r log' = Stroke.last? j r log) :
    Programmed { t with queues := t.queues.set i c, rings := rings } log' where
  lengths := by
    rw [List.length_set, length]
    exact programmed.lengths
  laid j c' found := by
    rw [List.getElem?_set] at found
    split at found
    · rename_i same
      split at found
      · cases found
        rw [← same, here]
        exact laid
      · cases found
    · rename_i other
      unfold ring?
      rw [elsewhere j other]
      exact (programmed.laid j c' found).congr (words j other)

theorem Programmed.isReady (programmed : Programmed t log) (i : Nat) :
    t.isReady i = (ring? t.rings i).isSome := by
  unfold Transport.isReady
  cases found : t.queues[i]? with
  | none =>
      have absent : t.rings[i]? = none := by
        rw [List.getElem?_eq_none_iff, programmed.lengths]
        exact List.getElem?_eq_none_iff.mp found
      unfold ring?
      rw [absent]
      rfl
  | some c =>
      have ready := (programmed.laid i c found).ready
      rw [Option.isSome_map] at ready
      exact ready

theorem Programmed.configured {i : Nat} {q : SplitQueue} (programmed : Programmed t log)
    (found : ring? t.rings i = some q) : t.isReady i = true ∧ ∃ c, t.queues[i]? = some c := by
  have ready : t.isReady i = true := by
    rw [programmed.isReady, found]
    rfl
  refine ⟨ready, ?_⟩
  unfold Transport.isReady at ready
  cases here : t.queues[i]? with
  | none =>
      rw [here] at ready
      cases ready
  | some c => exact ⟨c, rfl⟩

-- A ring goes with the configuration it is made or taken away by.
theorem Programmed.swap {c : QueueConfig} {ring : Option SplitQueue} {i : Nat}
    (programmed : Programmed t log) (inside : i < t.rings.length)
    (laid : Laid (Stroke.last? i · log) c (ring.map atRest)) :
    Programmed { t with queues := t.queues.set i c, rings := t.rings.set i ring } log := by
  have here : (ring? (t.rings.set i ring) i).map atRest = ring.map atRest := by
    have at_ : (t.rings.set i ring)[i]? = some ring := List.getElem?_set_self inside
    unfold ring?
    rw [at_]
    rfl
  exact programmed.put _ (List.length_set ..) here (fun j other => List.getElem?_set_ne other) laid
    fun _ _ _ _ => rfl

theorem programs_kept (programs : (Register.of a.offset.toNat).programs) :
    ¬ (Stroke.write t a value).Resets := by
  rintro ⟨⟨_, _, status⟩, _⟩
  rw [status] at programs
  cases programs

end

section

variable {ν : Type} [VirtioDevice ν]

-- The life of a transport, on whatever board each step finds: the driver reads and writes, the host
-- sends data, interrupts are completed, and the machine may be reset.
inductive History (fresh : ν) (line : Nat) : Transport ν → List (Stroke ν) → Prop
  | start : History fresh line (Transport.new fresh line) []
  | read {t : Transport ν} {log : List (Stroke ν)} {b : Board} {a : Access}
      {r : Answered (Transport ν) UInt64} (earlier : History fresh line t log)
      (done : t.read b a = .ok r) : History fresh line r.device log
  | wrote {t : Transport ν} {log : List (Stroke ν)} {b : Board} {a : Access} {value : UInt64}
      {r : Answered (Transport ν) Unit} (earlier : History fresh line t log)
      (done : t.write b a value = .ok r) : History fresh line r.device (.write t a value :: log)
  | fed {t : Transport ν} {log : List (Stroke ν)} {b : Board} {data : List UInt8}
      {r : Answered (Transport ν) Unit} (earlier : History fresh line t log)
      (done : t.input b data = .ok r) : History fresh line r.device log
  | ended {t : Transport ν} {log : List (Stroke ν)} (b : Board)
      (earlier : History fresh line t log) : History fresh line (t.endOfInterrupt b).1 log
  | reset {t : Transport ν} {log : List (Stroke ν)} (earlier : History fresh line t log) :
      History fresh line t.reset (.reset :: log)

variable {t t' : Transport ν} {log : List (Stroke ν)} {b : Board} {a : Access} {value : UInt64}

theorem new_programmed (fresh : ν) (line : Nat) : Programmed (Transport.new fresh line) [] where
  lengths := List.length_map ..
  laid i c found := by
    have none : ring? (Transport.new fresh line).rings i = .none := ring_cleared _ i
    rw [none]
    change ((VirtioDevice.queueMaxSizes fresh).map QueueConfig.new)[i]? = some c at found
    rw [List.getElem?_map] at found
    obtain ⟨maxSize, _, rfl⟩ := Option.map_eq_some_iff.mp found
    exact Laid.fresh _ fun _ => rfl

theorem Programmed.reset {s : Stroke ν} (programmed : Programmed t log) (resets : s.Resets) :
    Programmed t.reset (s :: log) where
  lengths := by
    change (t.rings.map _).length = (t.queues.map _).length
    rw [List.length_map, List.length_map]
    exact programmed.lengths
  laid i c found := by
    have none : ring? t.reset.rings i = .none := ring_cleared _ i
    rw [none]
    change (t.queues.map QueueConfig.reset)[i]? = some c at found
    rw [List.getElem?_map] at found
    obtain ⟨old, _, rfl⟩ := Option.map_eq_some_iff.mp found
    exact Laid.fresh _ fun r => if_pos resets

theorem configure_programmed {f : QueueConfig → QueueConfig.Setting} (programmed : Programmed t log)
    (below : a.offset < configStart) (word : a.width = .word)
    (named : ∀ c, (Register.of a.offset.toNat).setting? c value.toUInt32 = some (f c)) :
    Programmed (t.configure b f).1 (.write t a value :: log) := by
  have kept : ¬ (Stroke.write t a value).Resets :=
    programs_kept (Register.programs_of (named (QueueConfig.new 0)))
  unfold configure
  split
  · rename_i missing
    refine programmed.later rfl rfl fun i c found r _ => last_unselected kept fun same => ?_
    rw [← same] at found
    unfold selected? at missing
    rw [missing] at found
    cases found
  · rename_i c selected
    unfold selected? at selected
    have laid := programmed.laid _ c selected
    refine programmed.put ((ring? t.rings t.queueSelect.toNat).map atRest) rfl rfl
      (fun _ _ => rfl) ?_ fun j other r _ => last_unselected kept other
    cases ready : c.ready with
    | true =>
        have frozen : t.isReady t.queueSelect.toNat = true := by
          unfold isReady
          rw [selected]
          exact ready
        have same : c.set (f c) = c := if_pos ready
        rw [same]
        exact laid.congr fun r _ => last_frozen kept frozen
    | false =>
        have idle : t.isReady t.queueSelect.toNat = false := by
          unfold isReady
          rw [selected]
          exact ready
        have none := laid.idle ready
        rw [none] at laid ⊢
        exact laid.written (named c) (last_stored kept below word idle)
          fun other _ different => last_other kept different _

theorem setQueueReady_programmed {ready : Bool} {r : Transport ν × Board}
    (programmed : Programmed t log) (done : t.setQueueReady b ready = .ok r) :
    Programmed r.1 log := by
  cases setQueueReady_readied done with
  | still => exact programmed
  | refused text => exact programmed
  | switched selected switch inside =>
      have laid := programmed.laid _ _ selected
      cases switch with
      | down => exact programmed.swap inside laid.deactivate
      | up idle activated =>
          rw [laid.idle idle] at laid
          refine programmed.swap inside ?_
          rw [Option.map_some, activate_atRest activated]
          exact laid.activate activated

theorem read_device {r : Answered (Transport ν) UInt64} (done : t.read b a = .ok r) :
    r.device = t := by
  unfold read at done
  split at done
  · split at done <;> cases done <;> rfl
  split at done <;> cases done <;> rfl

variable [Lanes ν]

theorem called_programmed {served : Served ν} {m : Medium} (programmed : Programmed t log)
    (call : Call) (done : call.perform t.device m t.rings = .ok served) :
    Programmed (t.finish b served).1 log := by
  unfold finish
  dsimp only
  split <;> exact programmed.later rfl (call_places done) fun _ _ _ _ _ => rfl

theorem notifyQueue_programmed {i : Nat} {r : Transport ν × Board} (programmed : Programmed t log)
    (done : t.notifyQueue b i = .ok r) : Programmed r.1 log := by
  cases notifyQueue_notified done with
  | refused text => exact programmed
  | served notified => exact called_programmed programmed (.notify i) notified

theorem writeRegister_programmed {r : Transport ν × Board} (programmed : Programmed t log)
    (below : a.offset < configStart) (word : a.width = .word)
    (done : t.writeRegister b a value.toUInt32 = .ok r) :
    Programmed r.1 (.write t a value :: log) := by
  have other (kept : Register.of a.offset.toNat ≠ .status) : ¬ (Stroke.write t a value).Resets :=
    fun resets => kept resets.1.2.2
  have beside (plain : (Register.of a.offset.toNat).programs = false)
      (kept : ¬ (Stroke.write t a value).Resets) : Programmed t (.write t a value :: log) :=
    programmed.besides kept (by rw [plain]; nofun)
  unfold writeRegister at done
  cases register : Register.of a.offset.toNat with
  | queueNum | queueDescLow | queueDescHigh | queueAvailLow | queueAvailHigh | queueUsedLow
  | queueUsedHigh =>
      rw [register] at done
      cases done
      exact configure_programmed programmed below word fun c => by rw [register]; rfl
  | queueReady =>
      rw [register] at done beside other
      exact setQueueReady_programmed (beside rfl (other nofun)) done
  | queueNotify =>
      rw [register] at done beside other
      exact notifyQueue_programmed (beside rfl (other nofun)) done
  | status =>
      rw [register] at done beside
      cases done
      unfold setStatus
      split
      · rename_i zero
        exact programmed.reset ⟨⟨below, word, register⟩, zero⟩
      · rename_i some
        have kept : ¬ (Stroke.write t a value).Resets := fun resets => some resets.2
        exact (beside rfl kept).later rfl rfl fun _ _ _ _ _ => rfl
  | driverFeatures =>
      rw [register] at done beside other
      cases done
      unfold ackFeatures
      have kept := beside rfl (other nofun)
      split <;> exact kept.later rfl rfl fun _ _ _ _ _ => rfl
  | _ =>
      rw [register] at done beside other
      cases done
      exact (beside rfl (other nofun)).later rfl rfl fun _ _ _ _ _ => rfl

theorem write_programmed {r : Answered (Transport ν) Unit} (programmed : Programmed t log)
    (done : t.write b a value = .ok r) : Programmed r.device (.write t a value :: log) := by
  have outside (out : ¬ (a.offset < configStart ∧ a.width = .word)) (t' : Transport ν)
      (queues : t'.queues = t.queues) (rings : t'.rings = t.rings) :
      Programmed t' (.write t a value :: log) :=
    programmed.later queues (by rw [rings]) fun i _ _ r _ => last_unwritten out i r
  obtain ⟨answer, after, board⟩ := r
  cases write_written done with
  | refused out => exact outside out _ rfl rfl
  | configured out bytes => exact outside out _ rfl rfl
  | stored below word wrote => exact writeRegister_programmed programmed below word wrote

theorem history_programmed {fresh : ν} {line : Nat} (history : History fresh line t log) :
    Programmed t log := by
  induction history with
  | start => exact new_programmed fresh line
  | read _ done ih =>
      rw [read_device done]
      exact ih
  | wrote _ done ih => exact write_programmed ih done
  | fed _ done ih =>
      obtain ⟨served, taken, rfl⟩ := input_parts done
      exact called_programmed ih (.input _) taken
  | ended b _ ih =>
      rw [endOfInterrupt_same]
      exact ih
  | reset _ ih => exact ih.reset trivial

end

section

variable {ν : Type} [VirtioDevice ν] {t : Transport ν} {log : List (Stroke ν)} {b : Board}
  {a : Access} {value : UInt64} {r : Register}

theorem read_register (accessed : r.accessed a) :
    t.read b a = .ok ⟨.ok (t.readRegister b a).1.toUInt64, t, (t.readRegister b a).2⟩ := by
  obtain ⟨below, word, _⟩ := accessed
  rw [read, if_neg (UInt64.not_le.mpr below), if_neg (not_not_intro word)]

theorem write_register (accessed : r.accessed a) :
    t.write b a value =
      (t.writeRegister b a value.toUInt32).map fun after => ⟨.ok (), after.1, after.2⟩ := by
  obtain ⟨below, word, _⟩ := accessed
  rw [write, if_neg (UInt64.not_le.mpr below), if_neg (not_not_intro word)]
  cases t.writeRegister b a value.toUInt32 <;> rfl

theorem writeRegister_setting (accessed : r.accessed a) (programs : r.programs) (value : UInt32) :
    ∃ f, t.writeRegister b a value = .ok (t.configure b f) := by
  unfold writeRegister
  rw [accessed.2.2]
  cases r <;> first | exact ⟨_, rfl⟩ | cases programs

-- No setting reaches a queue that is ready.
theorem configure_frozen {i : Nat} {f : QueueConfig → QueueConfig.Setting}
    (ready : t.isReady i = true) :
    (t.configure b f).1.queues[i]? = t.queues[i]? ∧ (t.configure b f).1.rings = t.rings := by
  unfold configure
  split
  · exact ⟨rfl, rfl⟩
  · rename_i c selected
    refine ⟨?_, rfl⟩
    change (t.queues.set t.queueSelect.toNat (c.set (f c)))[i]? = _
    by_cases here : t.queueSelect.toNat = i
    · unfold selected? at selected
      unfold isReady at ready
      rw [here] at selected ⊢
      rw [selected] at ready
      have same : c.set (f c) = c := if_pos ready
      rw [same, List.getElem?_set_self (List.getElem?_eq_some_iff.mp selected).1, selected]
    · exact List.getElem?_set_ne here

-- The transport once the driver has selected a queue.
def select (t : Transport ν) (i : UInt32) : Transport ν := { t with queueSelect := i }

theorem write_select (accessed : Register.queueSel.accessed a) (b : Board) (i : UInt32) :
    t.write b a i.toUInt64 = .ok ⟨.ok (), t.select i, b⟩ := by
  rw [write_register accessed, writeRegister, accessed.2.2]
  have back : i.toUInt64.toUInt32 = i := by simp
  dsimp only
  rw [back]
  rfl

-- A ring as its configuration describes it.
structure Matches (q : SplitQueue) (c : QueueConfig) : Prop where
  size : q.size = c.size
  start : ∀ area : Area, area.start q = area.programmed c
  power : q.size.toNat.isPowerOfTwo
  fits : q.size ≤ c.maxSize
  below : ∀ area ∈ SplitQueue.areas q.size q.descTable q.availRing q.usedRing,
    area.2.1.toNat + area.2.2 < UInt64.size

-- What the driver reads of a queue and what it has written, with what the device works with.
structure InStep (t : Transport ν) (log : List (Stroke ν)) (i : UInt32) : Prop where
  selects : ∀ b a, Register.queueSel.accessed a →
    t.write b a i.toUInt64 = .ok ⟨.ok (), t.select i, b⟩
  ready : ∀ b a, Register.queueReady.accessed a → (t.select i).read b a =
    .ok ⟨.ok (if (ring? t.rings i.toNat).isSome then 1 else 0), t.select i, b⟩
  ring : ∀ q, ring? t.rings i.toNat = some q → ∃ c, t.queues[i.toNat]? = some c ∧ Matches q c ∧
    ∀ b a, Register.queueNumMax.accessed a → (t.select i).read b a =
      .ok ⟨.ok c.maxSize.toUInt64, t.select i, b⟩
  frozen : ∀ q, ring? t.rings i.toNat = some q → ∀ (r : Register) b a value out, r.programs →
    r.accessed a → t.write b a value = .ok out →
    out.device.queues[i.toNat]? = t.queues[i.toNat]? ∧ ring? out.device.rings i.toNat = some q
  size : ∀ c, t.queues[i.toNat]? = some c →
    c.size = ((Stroke.last? i.toNat .queueNum log).map (·.toUInt16)).getD c.maxSize
  address : ∀ c, t.queues[i.toNat]? = some c → ∀ area : Area,
    area.programmed c = joined ((Stroke.last? i.toNat area.high log).getD 0)
      ((Stroke.last? i.toNat area.low log).getD 0)

theorem Laid.matches_ring {words : Register → Option UInt32} {c : QueueConfig} {q : SplitQueue}
    (laid : Laid words c (some q.atRest)) : Matches q c := by
  obtain ⟨_, made, power, fits⟩ := QueueConfig.activate_parts (laid.ring _ rfl)
  obtain ⟨same, below⟩ := new_parts made
  have size : q.size = c.size := congrArg SplitQueue.size same
  have desc : q.descTable = c.descTable := congrArg SplitQueue.descTable same
  have avail : q.availRing = c.availRing := congrArg SplitQueue.availRing same
  have used : q.usedRing = c.usedRing := congrArg SplitQueue.usedRing same
  refine ⟨size, fun area => ?_, ?_, ?_, ?_⟩
  · cases area
    · exact desc
    · exact avail
    · exact used
  · rw [size]
    exact QueueConfig.isPowerOfTwo_toNat power
  · rw [size]
    exact fits
  · rw [size, desc, avail, used]
    exact below

theorem Programmed.in_step (programmed : Programmed t log) (i : UInt32) : InStep t log i where
  selects b a accessed := write_select accessed b i
  ready b a accessed := by
    have flag : (t.select i).selected?.any (·.ready) = t.isReady i.toNat := rfl
    rw [read_register accessed, readRegister, accessed.2.2, ← programmed.isReady]
    dsimp only
    rw [flag]
    cases t.isReady i.toNat <;> rfl
  ring q found := by
    obtain ⟨_, c, here⟩ := programmed.configured found
    have laid := programmed.laid _ c here
    rw [found] at laid
    refine ⟨c, here, laid.matches_ring, fun b a accessed => ?_⟩
    have selected : (t.select i).selected? = some c := here
    rw [read_register accessed, readRegister, accessed.2.2]
    dsimp only
    rw [selected]
    simp
  frozen q found r b a value out programs accessed done := by
    have ready := (programmed.configured found).1
    obtain ⟨f, wrote⟩ := writeRegister_setting (t := t) (b := b) accessed programs value.toUInt32
    rw [write_register accessed, wrote] at done
    cases done
    obtain ⟨queues, rings⟩ := configure_frozen (b := b) (f := f) ready
    exact ⟨queues, by rw [rings]; exact found⟩
  size c found := (programmed.laid _ c found).size
  address c found := (programmed.laid _ c found).address

end

-- In every history of a console or a link.
theorem history_in_step :
    (∀ (fresh : Console) (line : Nat) (t : Transport Console) (log : List (Stroke Console)),
      History fresh line t log → ∀ i, InStep t log i) ∧
    ∀ (fresh : Net) (line : Nat) (t : Transport Net) (log : List (Stroke Net)),
      History fresh line t log → ∀ i, InStep t log i :=
  ⟨fun _ _ _ _ history i => (history_programmed history).in_step i,
    fun _ _ _ _ history i => (history_programmed history).in_step i⟩

-- A driver that stores words, one after the other.
def stores {ν : Type} [VirtioDevice ν] (t : Transport ν) (b : Board) :
    List (UInt64 × UInt64) → Checked (Transport ν × Board)
  | [] => .ok (t, b)
  | (offset, value) :: rest => do
      let r ← t.write b ⟨offset, offset, .word⟩ value
      stores r.device r.board rest

theorem stores_history {ν : Type} [VirtioDevice ν] {fresh : ν} {line : Nat} {t : Transport ν}
    {b : Board} {log : List (Stroke ν)} {words : List (UInt64 × UInt64)} {r : Transport ν × Board}
    (earlier : History fresh line t log) (done : t.stores b words = .ok r) :
    ∃ log', History fresh line r.1 log' := by
  induction words generalizing t b log with
  | nil =>
      cases done
      exact ⟨log, earlier⟩
  | cons word rest ih =>
      obtain ⟨answered, wrote, done⟩ := Checked.bind_eq_ok.mp done
      exact ih (.wrote earlier wrote) done

-- The descriptors of the second queue of a console at 0x200001000, low word after high word, the
-- high word a second time.
theorem history_in_step_ready :
    ∃ t log q, History (Console.new .accepting) 48 t log ∧ ring? t.rings 1 = some q ∧
      q.descTable = 0x200001000 ∧ InStep t log 1 := by
  let b : Board := ⟨⟨⟨[]⟩, #[]⟩, Gic.initial⟩
  have ran : (((Transport.new (Console.new .accepting) 48).stores b
      [(0x30, 1), (0x84, 3), (0x80, 0x1000), (0x84, 2), (0x44, 1), (0x84, 5)]).toOption.any
        fun r => (ring? r.1.rings 1).any fun q => q.descTable = 0x200001000) = true := by
    decide +kernel
  obtain ⟨r, done, ran⟩ := Checked.ok_of_any ran
  obtain ⟨q, found, desc⟩ := Option.any_eq_true _ _ |>.mp ran
  obtain ⟨log, history⟩ := stores_history .start done
  exact ⟨r.1, log, q, history, found, of_decide_eq_true desc,
    history_in_step.1 _ _ _ _ history 1⟩

end Transport

end VmMonitor
