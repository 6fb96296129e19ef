import Mathlib.Data.List.Nodup
import VmMonitor.Proofs.Machine.Wiring

/-!
What a bus asks of the devices behind it, and what a reset of all of them is worth. The devices of
two buses of one build are of one make, whatever was asked of them since; so after a reset both
buses read alike, but for the registers that outlast it.
-/

namespace VmMonitor

-- What a device can be asked, and what it is afterwards.
inductive Asks {δ : Type} [BusDevice δ] (d : δ) : δ → Prop
  | read {b : Board} {a : Access} {r : Answered δ UInt64} (done : BusDevice.read d b a = .ok r) :
      Asks d r.device
  | write {b : Board} {a : Access} {value : UInt64} {r : Answered δ Unit}
      (done : BusDevice.write d b a value = .ok r) : Asks d r.device
  | completed (b : Board) (n : Nat) : Asks d (BusDevice.endOfInterrupt d b n).1
  | level (b : Board) (n : Nat) (level : Bool) : Asks d (BusDevice.levelChanged d b n level).1
  | input {b : Board} {data : List UInt8} {r : Answered δ Unit}
      (done : BusDevice.input d b data = .ok r) : Asks d r.device
  | reset : Asks d (BusDevice.reset d)

-- What a device answers to a load, apart from what the load does to it.
def BusDevice.answer {δ : Type} [BusDevice δ] (d : δ) (b : Board) (a : Access) :
    Checked (Except BusError UInt64) := (BusDevice.read d b a).map (·.answer)

class PowerOn (δ : Type) where
  -- Built alike: the two may differ only in what has happened to them.
  alike : δ → δ → Prop
  -- The offsets that a reset passes over.
  outlasts : δ → UInt64 → Prop

open PowerOn

class LawfulPowerOn (δ : Type) [BusDevice δ] [PowerOn δ] : Prop where
  asked {d d' e : δ} (same : alike d e) (asks : Asks d d') : alike d' e
  outlasts_iff {d e : δ} (same : alike d e) (offset : UInt64) :
    outlasts d offset ↔ outlasts e offset
  restored {d e : δ} (b b' : Board) {a : Access} (same : alike d e)
    (passing : ¬ outlasts d a.offset) :
    BusDevice.answer (BusDevice.reset d) b a = BusDevice.answer (BusDevice.reset e) b' a
  outlasting {d : δ} {b b' : Board} {a : Access} (lasting : outlasts d a.offset)
    (gic : b'.gic = b.gic) :
    BusDevice.answer (BusDevice.reset d) b' a = BusDevice.answer d b a

-- Devices of two kinds.

instance {δ ε : Type} [PowerOn δ] [PowerOn ε] : PowerOn (δ ⊕ ε) where
  alike
    | .inl d, .inl e => alike d e
    | .inr d, .inr e => alike d e
    | .inl _, .inr _ | .inr _, .inl _ => False
  outlasts
    | .inl d, offset => outlasts d offset
    | .inr d, offset => outlasts d offset

section Sum

variable {δ ε : Type} [BusDevice δ] [BusDevice ε]

theorem mapDevice_parts {δ ε α : Type} {x : Checked (Answered δ α)} {f : δ → ε}
    {r : Answered ε α} (done : (do return (← x).mapDevice f) = .ok r) :
    ∃ s, x = .ok s ∧ r.device = f s.device := by
  obtain ⟨s, answered, done⟩ := Checked.bind_eq_ok.mp done
  cases done
  exact ⟨s, answered, rfl⟩

theorem Asks.inl {d : δ} {s : δ ⊕ ε} (asks : Asks (.inl d : δ ⊕ ε) s) :
    ∃ d', s = .inl d' ∧ Asks d d' := by
  cases asks with
  | read done =>
      obtain ⟨r, answered, same⟩ := mapDevice_parts done
      exact ⟨_, same, .read answered⟩
  | write done =>
      obtain ⟨r, answered, same⟩ := mapDevice_parts done
      exact ⟨_, same, .write answered⟩
  | input done =>
      obtain ⟨r, answered, same⟩ := mapDevice_parts done
      exact ⟨_, same, .input answered⟩
  | completed b n => exact ⟨_, rfl, .completed b n⟩
  | level b n level => exact ⟨_, rfl, .level b n level⟩
  | reset => exact ⟨_, rfl, .reset⟩

theorem Asks.inr {d : ε} {s : δ ⊕ ε} (asks : Asks (.inr d : δ ⊕ ε) s) :
    ∃ d', s = .inr d' ∧ Asks d d' := by
  cases asks with
  | read done =>
      obtain ⟨r, answered, same⟩ := mapDevice_parts done
      exact ⟨_, same, .read answered⟩
  | write done =>
      obtain ⟨r, answered, same⟩ := mapDevice_parts done
      exact ⟨_, same, .write answered⟩
  | input done =>
      obtain ⟨r, answered, same⟩ := mapDevice_parts done
      exact ⟨_, same, .input answered⟩
  | completed b n => exact ⟨_, rfl, .completed b n⟩
  | level b n level => exact ⟨_, rfl, .level b n level⟩
  | reset => exact ⟨_, rfl, .reset⟩

theorem BusDevice.answer_inl (d : δ) (b : Board) (a : Access) :
    BusDevice.answer (.inl d : δ ⊕ ε) b a = BusDevice.answer d b a := by
  change Except.map _ (BusDevice.read d b a >>= _) = _
  unfold BusDevice.answer
  cases BusDevice.read d b a <;> rfl

theorem BusDevice.answer_inr (d : ε) (b : Board) (a : Access) :
    BusDevice.answer (.inr d : δ ⊕ ε) b a = BusDevice.answer d b a := by
  change Except.map _ (BusDevice.read d b a >>= _) = _
  unfold BusDevice.answer
  cases BusDevice.read d b a <;> rfl

instance [PowerOn δ] [PowerOn ε] [LawfulPowerOn δ] [LawfulPowerOn ε] :
    LawfulPowerOn (δ ⊕ ε) where
  asked {d d' e} same asks := by
    cases d with
    | inl d =>
        obtain ⟨d', rfl, own⟩ := asks.inl
        cases e with
        | inl e =>
            have kept := LawfulPowerOn.asked (show alike d e from same) own
            exact kept
        | inr e => exact same.elim
    | inr d =>
        obtain ⟨d', rfl, own⟩ := asks.inr
        cases e with
        | inl e => exact same.elim
        | inr e =>
            have kept := LawfulPowerOn.asked (show alike d e from same) own
            exact kept
  outlasts_iff {d e} same offset := by
    cases d with
    | inl d =>
        cases e with
        | inl e => exact LawfulPowerOn.outlasts_iff (show alike d e from same) offset
        | inr e => exact same.elim
    | inr d =>
        cases e with
        | inl e => exact same.elim
        | inr e => exact LawfulPowerOn.outlasts_iff (show alike d e from same) offset
  restored {d e} b b' a same passing := by
    cases d with
    | inl d =>
        cases e with
        | inl e =>
            have read := LawfulPowerOn.restored b b' (show alike d e from same) passing
            exact (BusDevice.answer_inl ..).trans (read.trans (BusDevice.answer_inl ..).symm)
        | inr e => exact same.elim
    | inr d =>
        cases e with
        | inl e => exact same.elim
        | inr e =>
            have read := LawfulPowerOn.restored b b' (show alike d e from same) passing
            exact (BusDevice.answer_inr ..).trans (read.trans (BusDevice.answer_inr ..).symm)
  outlasting {d b b' a} lasting gic := by
    cases d with
    | inl d =>
        have read := LawfulPowerOn.outlasting (show outlasts d a.offset from lasting) gic
        exact (BusDevice.answer_inl ..).trans (read.trans (BusDevice.answer_inl ..).symm)
    | inr d =>
        have read := LawfulPowerOn.outlasting (show outlasts d a.offset from lasting) gic
        exact (BusDevice.answer_inr ..).trans (read.trans (BusDevice.answer_inr ..).symm)

end Sum

namespace Bus

variable {δ ε : Type} {bus bus' : Bus δ} {b b' : Board} {address : UInt64} {width : Width}

section Asked

variable [BusDevice δ] {P : Bus δ → Prop}

-- A property of buses that no question to a device touches.
structure Kept (P : Bus δ → Prop) : Prop where
  asked : ∀ {bus : Bus δ} {s : Slot δ} {d : δ}, P bus → s ∈ bus.slots → Asks s.device d →
    P (bus.setDevice s.window.base d)
  reset : ∀ {bus : Bus δ}, P bus → P bus.reset

theorem Kept.read (kept : Kept P) (holds : P bus) {r : Answered (Bus δ) UInt64}
    (done : bus.read b address width = .ok r) : P r.device := by
  unfold Bus.read at done
  obtain ⟨routed, found, done⟩ := Checked.bind_eq_ok.mp done
  cases routed with
  | error e => cases done; exact holds
  | ok target =>
      obtain ⟨s, a⟩ := target
      obtain ⟨answered, reached, done⟩ := Checked.bind_eq_ok.mp done
      cases done
      exact kept.asked holds (route_lands found).1 (.read reached)

theorem Kept.write (kept : Kept P) (holds : P bus) {value : UInt64}
    {r : Answered (Bus δ) Unit} (done : bus.write b address width value = .ok r) :
    P r.device := by
  unfold Bus.write at done
  obtain ⟨routed, found, done⟩ := Checked.bind_eq_ok.mp done
  cases routed with
  | error e => cases done; exact holds
  | ok target =>
      obtain ⟨s, a⟩ := target
      obtain ⟨answered, reached, done⟩ := Checked.bind_eq_ok.mp done
      cases done
      exact kept.asked holds (route_lands found).1 (.write reached)

theorem Kept.input (kept : Kept P) (holds : P bus) {base : UInt64} {data : List UInt8}
    {r : Answered (Bus δ) Unit} (done : bus.input b base data = .ok r) : P r.device := by
  unfold Bus.input at done
  split at done
  · cases done; exact holds
  · rename_i s found
    obtain ⟨answered, reached, done⟩ := Checked.bind_eq_ok.mp done
    cases done
    obtain ⟨here, rfl⟩ := at_mem found
    exact kept.asked holds here (.input reached)

theorem Kept.endOfInterrupt (kept : Kept P) (holds : P bus) (b : Board) (base : UInt64)
    (n : Nat) : P (bus.endOfInterrupt b base n).2.1 := by
  unfold Bus.endOfInterrupt
  split
  · exact holds
  · rename_i s found
    obtain ⟨here, rfl⟩ := at_mem found
    exact kept.asked holds here (.completed b n)

theorem Kept.levelChanged (kept : Kept P) (holds : P bus) (b : Board) (base : UInt64) (n : Nat)
    (level : Bool) : P (bus.levelChanged b base n level).2.1 := by
  unfold Bus.levelChanged
  split
  · exact holds
  · rename_i s found
    obtain ⟨here, rfl⟩ := at_mem found
    exact kept.asked holds here (.level b n level)

end Asked

end Bus

-- A bus of the same windows with something else in each.

def Slot.map {δ ε : Type} (f : δ → ε) (s : Slot δ) : Slot ε := ⟨s.window, f s.device⟩

-- Of the pair behind the window at `base`, the front gives way to `d`.
def Slot.renew {δ : Type} (base : UInt64) (d : δ) (s : Slot (δ × δ)) : Slot (δ × δ) :=
  if s.window.base = base then ⟨s.window, (d, s.device.2)⟩ else s

section Renew

variable {δ : Type} (base : UInt64) (d : δ) (s : Slot (δ × δ))

theorem Slot.renew_window : (s.renew base d).window = s.window := by
  unfold renew
  split <;> rfl

theorem Slot.renew_front : (s.renew base d).map Prod.fst =
    if (s.map Prod.fst).window.base = base then ⟨(s.map Prod.fst).window, d⟩
    else s.map Prod.fst := by
  unfold renew
  split
  · rename_i at_
    exact (if_pos at_).symm
  · rename_i other
    exact (if_neg other).symm

theorem Slot.renew_back : (s.renew base d).map Prod.snd = s.map Prod.snd := by
  unfold renew
  split <;> rfl

end Renew

namespace Bus

def map {δ ε : Type} (f : δ → ε) (bus : Bus δ) : Bus ε := ⟨bus.slots.map (Slot.map f)⟩

section Map

variable {δ ε : Type} {bus : Bus δ} {b : Board} {address : UInt64} {width : Width}
  {direction : Direction}

theorem slotFor_map (f : δ → ε) (bus : Bus δ) (address : UInt64) :
    (bus.map f).slotFor? address = (bus.slotFor? address).map (Slot.map f) := by
  unfold slotFor? map
  dsimp only
  rw [List.filter_map, List.getLast?_map]
  change Option.filter _ (((bus.slots.filter fun s => s.window.base ≤ address).getLast?).map _) = _
  cases (bus.slots.filter fun s => s.window.base ≤ address).getLast? with
  | none => rfl
  | some s =>
      simp only [Option.map_some, Option.filter_some]
      change (if s.window.contains address then _ else _) = _
      split <;> rfl

theorem place_map (f : δ → ε) (window : Window) (d : δ) (slots : List (Slot δ)) :
    place window (f d) (slots.map (Slot.map f)) = (place window d slots).map (Slot.map f) := by
  induction slots with
  | nil => rfl
  | cons s rest ih =>
      simp only [List.map_cons, place]
      change (if window.base < s.window.base then _
        else if window.base = s.window.base then _ else _) = _
      split
      · rfl
      split
      · rfl
      · rw [List.map_cons, ← ih]

theorem route_slot {s : Slot δ} {a : Access}
    (done : bus.route address width direction = .ok (.ok (s, a))) :
    bus.slotFor? address = some s ∧ a.offset = address - s.window.base := by
  unfold route at done
  split at done
  · cases done
  split at done
  · cases done
  · rename_i found
    obtain ⟨offset, placed, done⟩ := Checked.bind_eq_ok.mp done
    obtain ⟨reach, _, done⟩ := Checked.bind_eq_ok.mp done
    split at done
    · cases done
    · cases done
      exact ⟨found, (Checked.sub_eq_ok.mp placed).2.symm⟩

theorem route_map (f : δ → ε) (bus : Bus δ) (address : UInt64) (width : Width)
    (direction : Direction) :
    (bus.map f).route address width direction =
      (bus.route address width direction).map (·.map fun (s, a) => (s.map f, a)) := by
  unfold route
  rw [slotFor_map]
  split
  · rfl
  cases bus.slotFor? address with
  | none => rfl
  | some s =>
      dsimp only [Option.map_some, Slot.map]
      cases Checked.sub address s.window.base with
      | error e => rfl
      | ok offset =>
          dsimp only [bind, Except.bind]
          cases Checked.add offset (UInt64.ofNat width.bytes) with
          | error e => rfl
          | ok reach =>
              dsimp only
              split <;> rfl

-- What a load finds, apart from what it does.
def answer [BusDevice δ] (bus : Bus δ) (b : Board) (address : UInt64) (width : Width) :
    Checked (Except BusError UInt64) := (bus.read b address width).map (·.answer)

theorem answer_map [BusDevice ε] (f : δ → ε) (bus : Bus δ) (b : Board) (address : UInt64)
    (width : Width) :
    (bus.map f).answer b address width = (do
      match ← bus.route address width .read with
      | .error e => return .error e
      | .ok (s, a) =>
          return (← BusDevice.answer (f s.device) b a).map (· &&& width.mask)) := by
  unfold answer read
  rw [route_map]
  cases bus.route address width .read with
  | error e => rfl
  | ok routed =>
      cases routed with
      | error e => rfl
      | ok target =>
          obtain ⟨s, a⟩ := target
          dsimp only [Except.map, Slot.map, bind, Except.bind, BusDevice.answer]
          cases BusDevice.read (f s.device) b a <;> rfl

end Map

section Alike

variable {δ : Type} {bus bus' : Bus δ} {b b' : Board} {s t : Slot δ} {slots : List (Slot δ)}
  {address : UInt64} {width : Width}

def Ascending (slots : List (Slot δ)) : Prop :=
  slots.Pairwise fun s t => s.window.base < t.window.base

-- A new window goes to its place, or its device takes over the window that is there.
theorem place_ascending {window : Window} {d : δ} (ordered : Ascending slots) :
    Ascending (place window d slots) := by
  induction slots with
  | nil => exact List.pairwise_singleton ..
  | cons s rest ih =>
      obtain ⟨first, later⟩ := List.pairwise_cons.mp ordered
      unfold place
      split
      · rename_i before
        refine List.pairwise_cons.mpr ⟨fun t present => ?_, ordered⟩
        rcases List.mem_cons.mp present with rfl | old
        · exact before
        · exact UInt64.lt_trans before (first t old)
      split
      · exact List.pairwise_cons.mpr ⟨first, later⟩
      · rename_i notBefore other
        refine List.pairwise_cons.mpr ⟨fun t present => ?_, ih later⟩
        rcases mem_place present with ⟨_, at_⟩ | old
        · rw [at_]
          exact UInt64.lt_of_le_of_ne (UInt64.not_lt.mp notBefore) (Ne.symm other)
        · exact first t old

theorem Ascending.unique (ordered : Ascending slots) (here : s ∈ slots) (there : t ∈ slots)
    (same : s.window.base = t.window.base) : s = t := by
  have distinct : (slots.map (·.window.base)).Nodup :=
    List.pairwise_map.mpr (ordered.imp fun less => UInt64.ne_of_lt less)
  exact List.inj_on_of_nodup_map distinct here there same

theorem map_id (bus : Bus δ) : bus.map id = bus := by
  unfold map
  rw [show Slot.map (id : δ → δ) = id from rfl, List.map_id]

variable [PowerOn δ]

-- The two buses seen as one, with a pair of devices behind each window.
structure Twins (both : Bus (δ × δ)) (bus bus' : Bus δ) : Prop where
  left : both.map Prod.fst = bus
  right : both.map Prod.snd = bus'
  ordered : Ascending both.slots
  alike : ∀ s ∈ both.slots, alike s.device.1 s.device.2

def Alike (bus bus' : Bus δ) : Prop := ∃ both, Twins both bus bus'

-- The address is that of a register that a reset passes over.
def Outlasts (bus : Bus δ) (address : UInt64) : Prop :=
  ∃ s, bus.slotFor? address = some s ∧ outlasts s.device (address - s.window.base)

theorem empty_alike : Alike (empty : Bus δ) empty :=
  ⟨empty, rfl, rfl, .nil, nofun⟩

theorem place_alike {window : Window} {d d' : δ} (same : Alike bus bus') (make : alike d d') :
    Alike ⟨place window d bus.slots⟩ ⟨place window d' bus'.slots⟩ := by
  obtain ⟨both, rfl, rfl, ordered, made⟩ := same
  refine ⟨⟨place window (d, d') both.slots⟩, ?_, ?_, place_ascending ordered, ?_⟩
  · exact congrArg Bus.mk (place_map Prod.fst window (d, d') both.slots).symm
  · exact congrArg Bus.mk (place_map Prod.snd window (d, d') both.slots).symm
  · intro s present
    rcases mem_place present with ⟨new, _⟩ | old
    · rw [new]; exact make
    · exact made s old

variable [BusDevice δ] [LawfulPowerOn δ]

theorem alike_kept (bus' : Bus δ) : Kept fun bus : Bus δ => Alike bus bus' where
  asked {bus s d} same here asks := by
    obtain ⟨both, rfl, rfl, ordered, made⟩ := same
    obtain ⟨t, there, rfl⟩ := List.mem_map.mp here
    refine ⟨⟨both.slots.map (Slot.renew t.window.base d)⟩, ?_, ?_, ?_, ?_⟩
    · simp only [map, setDevice, List.map_map, Bus.mk.injEq]
      exact List.map_congr_left fun u _ => Slot.renew_front ..
    · simp only [map, List.map_map, Bus.mk.injEq]
      exact List.map_congr_left fun u _ => Slot.renew_back ..
    · refine List.pairwise_map.mpr (ordered.imp fun less => ?_)
      rw [Slot.renew_window, Slot.renew_window]
      exact less
    · intro v present
      obtain ⟨u, old, rfl⟩ := List.mem_map.mp present
      unfold Slot.renew
      split
      · rename_i at_
        -- One slot only has this base: the one that was asked.
        have one := ordered.unique old there at_
        subst one
        exact LawfulPowerOn.asked (made u old) asks
      · exact made u old
  reset {bus} same := by
    obtain ⟨both, rfl, rfl, ordered, made⟩ := same
    refine ⟨both.map fun p => (BusDevice.reset p.1, p.2), ?_, ?_, ?_, ?_⟩
    · simp only [map, Bus.reset, List.map_map]
      rfl
    · simp only [map, List.map_map]
      rfl
    · exact List.pairwise_map.mpr ordered
    · intro v present
      obtain ⟨u, old, rfl⟩ := List.mem_map.mp present
      exact LawfulPowerOn.asked (made u old) .reset

theorem Alike.outlasts_iff (same : Alike bus bus') (address : UInt64) :
    bus.Outlasts address ↔ bus'.Outlasts address := by
  obtain ⟨both, rfl, rfl, _, made⟩ := same
  unfold Outlasts
  rw [slotFor_map, slotFor_map]
  cases found : both.slotFor? address with
  | none => exact ⟨nofun, nofun⟩
  | some s =>
      have offsets := LawfulPowerOn.outlasts_iff (made s (slotFor_mem found))
        (address - s.window.base)
      constructor
      · rintro ⟨_, ⟨⟩, lasts⟩
        exact ⟨_, rfl, offsets.mp lasts⟩
      · rintro ⟨_, ⟨⟩, lasts⟩
        exact ⟨_, rfl, offsets.mpr lasts⟩

-- Everything else reads after a reset as on any bus of the same build.
theorem Alike.restored (same : Alike bus bus') (passing : ¬ bus.Outlasts address) (b b' : Board) :
    bus.reset.answer b address width = bus'.reset.answer b' address width := by
  obtain ⟨both, rfl, rfl, ordered, made⟩ := same
  have front : (both.map Prod.fst).reset = both.map fun p => BusDevice.reset p.1 := by
    simp only [map, Bus.reset, List.map_map]
    rfl
  have back : (both.map Prod.snd).reset = both.map fun p => BusDevice.reset p.2 := by
    simp only [map, Bus.reset, List.map_map]
    rfl
  rw [front, back, answer_map, answer_map]
  cases routed : both.route address width .read with
  | error e => rfl
  | ok target =>
      cases target with
      | error e => rfl
      | ok target =>
          obtain ⟨s, a⟩ := target
          obtain ⟨found, offset⟩ := route_slot routed
          have passed : ¬ outlasts s.device.1 a.offset := by
            intro lasting
            refine passing ⟨s.map Prod.fst, ?_, by rw [offset] at lasting; exact lasting⟩
            rw [slotFor_map, found]
            rfl
          have read := LawfulPowerOn.restored b b' (made s (slotFor_mem found)) passed
          dsimp only [bind, Except.bind]
          rw [read]

theorem outlasting (lasting : bus.Outlasts address) (gic : b'.gic = b.gic) :
    bus.reset.answer b' address width = bus.answer b address width := by
  obtain ⟨s, found, lasts⟩ := lasting
  have plain := answer_map id bus b address width
  rw [map_id] at plain
  rw [show bus.reset = bus.map BusDevice.reset from rfl, answer_map, plain]
  cases routed : bus.route address width .read with
  | error e => rfl
  | ok target =>
      cases target with
      | error e => rfl
      | ok target =>
          obtain ⟨t, a⟩ := target
          obtain ⟨found', offset⟩ := route_slot routed
          rw [found] at found'
          cases found'
          rw [← offset] at lasts
          have read := LawfulPowerOn.outlasting lasts gic
          dsimp only [bind, Except.bind, id]
          rw [read]

end Alike

end Bus

end VmMonitor
