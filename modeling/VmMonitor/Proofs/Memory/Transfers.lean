import VmMonitor.Proofs.Memory.Admission

/-!
Accesses to guest memory. Each is told by the bytes between its address and the end of the region
that holds the address: a slice goes no further, an object goes through whole or not at all. Where
nothing is mapped an access fails.
-/

namespace VmMonitor.GuestMemory

open Checked

variable {m m' : GuestMemory} {a x : GuestAddress} {ranges : List Range} {r : Range} {s : Region}

-- Slices are moved as far as they go, or have to be moved whole; objects are their bytes.
inductive Transfer where
  | read (count : Nat)
  | readExact (count : Nat)
  | readObject (count : Nat)
  | write (data : List UInt8)
  | writeAll (data : List UInt8)
  | writeObject (data : List UInt8)
  deriving DecidableEq, Repr

inductive Reply where
  | bytes (data : List UInt8)
  | count (moved : Nat)
  | done
  deriving DecidableEq, Repr

def transfer (m : GuestMemory) (a : GuestAddress) :
    Transfer → Except MemoryError Reply × GuestMemory
  | .read count => ((m.read a count).map .bytes, m)
  | .readExact count => ((m.readExact a count).map .bytes, m)
  | .readObject count => ((m.readObject a count).map .bytes, m)
  | .write data =>
      match m.write a data with
      | .ok (moved, m') => (.ok (.count moved), m')
      | .error e => (.error e, m)
  | .writeAll data =>
      let (answer, m') := m.writeAll a data
      (answer.map fun _ => .done, m')
  | .writeObject data =>
      match m.writeObject a data with
      | .ok m' => (.ok .done, m')
      | .error e => (.error e, m)

-- What is stored by an access that has `room` bytes to the end of its region.
def Transfer.payload (room : Nat) : Transfer → List UInt8
  | .read _ | .readExact _ | .readObject _ => []
  | .write data | .writeAll data => data.take room
  | .writeObject data => if data.length ≤ room then data else []

-- The memory that is left when `data` was stored at `a`.
structure Stored (m : GuestMemory) (a : GuestAddress) (data : List UInt8) (m' : GuestMemory) :
    Prop where
  layout : m'.layout = m.layout
  readBack : m'.read a data.length = .ok data
  kept : ∀ x, x.toNat < a.toNat ∨ a.toNat + data.length ≤ x.toNat → m'.byte? x = m.byte? x

-- What there is to say about the accesses at an address with `room` bytes to the end of its region.
structure Serves (m : GuestMemory) (a : GuestAddress) (room : Nat) : Prop where
  read : ∀ count,
    m.transfer a (.read count) = (.ok (.bytes (m.contents a (min count room))), m)
  readExact : ∀ count, m.transfer a (.readExact count) =
    (if min count room < count then .error (.shortRead count (min count room))
      else .ok (.bytes (m.contents a count)), m)
  write : ∀ data, ∃ m',
    m.transfer a (.write data) = (.ok (.count (min data.length room)), m') ∧
      m.Stored a (data.take (min data.length room)) m'
  writeAll : ∀ data, ∃ m', m.transfer a (.writeAll data) =
      (if min data.length room < data.length
        then .error (.shortWrite data.length (min data.length room)) else .ok .done, m') ∧
    m.Stored a (data.take (min data.length room)) m'
  readObject : ∀ count,
    (count ≤ room → m.transfer a (.readObject count) = (.ok (.bytes (m.contents a count)), m)) ∧
    (room < count → ∃ cause, m.transfer a (.readObject count) = (.error (.access a cause), m))
  writeObject : ∀ data,
    (data.length ≤ room → ∃ m', m.transfer a (.writeObject data) = (.ok .done, m') ∧
      m.Stored a data m') ∧
    (room < data.length → ∃ cause,
      m.transfer a (.writeObject data) = (.error (.access a cause), m))

-- A memory on these ranges, as its users see it.
structure ByteStore (ranges : List Range) (m : GuestMemory) : Prop where
  layout : m.layout = ranges.map fun r => (r.1, r.2.toNat)
  unique : ∀ i j, (hi : i < m.regions.length) → (hj : j < m.regions.length) → ∀ a,
    m.regions[i].contains a = true → m.regions[j].contains a = true → i = j
  mapped : ∀ a, (m.byte? a).isSome = true ↔ ∃ r ∈ ranges, r.Spans a
  unmapped : ∀ a, (∀ r ∈ ranges, ¬ r.Spans a) → ∀ t,
    m.transfer a t = (.error (.invalidAddress a), m)
  serves : ∀ r ∈ ranges, ∀ a, r.Spans a → m.Serves a (r.last - a.toNat)

-- One access.

theorem transfer_unmapped (unmapped : ¬ m.Mapped a) (t : Transfer) :
    m.transfer a t = (.error (.invalidAddress a), m) := by
  have region := region_unmapped unmapped
  have located := locate_unmapped unmapped
  cases t with
  | read count => rw [transfer, GuestMemory.read, region]; rfl
  | readExact count => rw [transfer, readExact_unmapped unmapped]; rfl
  | readObject count => rw [transfer, GuestMemory.readObject, region]; rfl
  | write data => rw [transfer, GuestMemory.write, located]
  | writeAll data => rw [transfer, writeAll_unmapped unmapped]; rfl
  | writeObject data => rw [transfer, GuestMemory.writeObject, located]

theorem checkRange_past {n : Nat} (inside : s.contains a = true) (past : s.last - a.toNat < n) :
    ∃ cause, s.mapping.checkRange (a.toNat - s.base.toNat) n = .error cause := by
  obtain ⟨low, high⟩ := Region.contains_iff.mp inside
  unfold Mapping.checkRange
  split
  · exact ⟨_, rfl⟩
  · rw [Region.last] at past high
    rw [if_pos (by omega)]
    exact ⟨_, rfl⟩

theorem Sound.readObject_past {n : Nat} (sound : m.Sound) (here : s ∈ m.regions)
    (inside : s.contains a = true) (past : s.last - a.toNat < n) :
    ∃ cause, m.readObject a n = .error (.access a cause) := by
  obtain ⟨cause, checked⟩ := checkRange_past inside past
  refine ⟨cause, ?_⟩
  rw [GuestMemory.readObject, sound.region here inside]
  simp only [Mapping.readObject, checked, bind, Except.bind]

theorem Sound.writeObject_past {data : List UInt8} (sound : m.Sound) (here : s ∈ m.regions)
    (inside : s.contains a = true) (past : s.last - a.toNat < data.length) :
    ∃ cause, m.writeObject a data = .error (.access a cause) := by
  obtain ⟨cause, checked⟩ := checkRange_past inside past
  obtain ⟨before, after, found, _⟩ := sound.locate here inside
  refine ⟨cause, ?_⟩
  rw [GuestMemory.writeObject, found]
  simp only [Mapping.writeObject, checked, bind, Except.bind]

theorem Wrote.none (m : GuestMemory) (a : GuestAddress) : m.Wrote a [] m :=
  ⟨rfl, fun _ => (overlaid_outside (by rw [List.length_nil]; omega)).symm⟩

-- Whatever the access, it stores its payload and nothing else.
theorem Sound.transfer_wrote (sound : m.Sound) (here : s ∈ m.regions)
    (inside : s.contains a = true) (t : Transfer) :
    m.Wrote a (t.payload (s.last - a.toNat)) (m.transfer a t).2 := by
  have high := (Region.contains_iff.mp inside).2
  cases t with
  | read count => exact .none m a
  | readExact count => exact .none m a
  | readObject count => exact .none m a
  | write data =>
      obtain ⟨m', written, wrote⟩ := sound.write here inside data
      rw [transfer, written]
      exact wrote
  | writeAll data =>
      obtain ⟨m', written, wrote⟩ := sound.writeAll here inside data
      rw [transfer, written]
      exact wrote
  | writeObject data =>
      by_cases fits : data.length ≤ s.last - a.toNat
      · have holds : m.Holds a data.length := ⟨s, here, inside, by omega⟩
        obtain ⟨m', written, wrote⟩ := writeObject_holds sound holds
        rw [transfer, written, Transfer.payload, if_pos fits]
        exact wrote
      · obtain ⟨cause, refused⟩ := sound.writeObject_past here inside (Nat.not_le.mp fits)
        rw [transfer, refused, Transfer.payload, if_neg fits]
        exact .none m a

theorem Wrote.stored {data : List UInt8} (sound : m.Sound) (here : s ∈ m.regions)
    (inside : s.contains a = true) (fits : data.length ≤ s.last - a.toNat)
    (wrote : m.Wrote a data m') : m.Stored a data m' := by
  have high := (Region.contains_iff.mp inside).2
  have holds : m.Holds a data.length := ⟨s, here, inside, by omega⟩
  obtain ⟨s', there, inside', fits'⟩ := holds.congr wrote.layout
  refine ⟨wrote.layout, ?_, fun x outside => (wrote.byte x).trans (overlaid_outside outside)⟩
  rw [(sound.congr wrote.layout).read there inside', Nat.min_eq_left (by omega),
    wrote.read_back sound holds (Nat.le_refl _), List.take_length]

-- The same of the part of a slice for which there is room.
theorem Wrote.stored_part {data : List UInt8} (sound : m.Sound) (here : s ∈ m.regions)
    (inside : s.contains a = true) (wrote : m.Wrote a (data.take (s.last - a.toNat)) m') :
    m.Stored a (data.take (min data.length (s.last - a.toNat))) m' := by
  rw [Nat.min_comm, ← List.take_eq_take_min]
  exact wrote.stored sound here inside (List.length_take_le ..)

theorem Sound.serves (sound : m.Sound) (here : s ∈ m.regions) (inside : s.contains a = true) :
    m.Serves a (s.last - a.toNat) where
  read count := by
    rw [transfer, sound.read here inside]
    rfl
  readExact count := by
    rw [transfer, sound.readExact here inside]
    by_cases fits : count ≤ s.last - a.toNat
    · rw [if_pos fits, if_neg (by omega)]
      rfl
    · rw [if_neg fits, if_pos (by omega), Nat.min_eq_right (by omega)]
      rfl
  write data := by
    obtain ⟨m', written, wrote⟩ := sound.write here inside data
    exact ⟨m', by rw [transfer, written], wrote.stored_part sound here inside⟩
  writeAll data := by
    obtain ⟨m', written, wrote⟩ := sound.writeAll here inside data
    refine ⟨m', ?_, wrote.stored_part sound here inside⟩
    rw [transfer, written]
    by_cases fits : data.length ≤ s.last - a.toNat
    · rw [if_pos fits, if_neg (by omega)]
      rfl
    · rw [if_neg fits, if_pos (by omega), Nat.min_eq_right (by omega)]
      rfl
  readObject count := by
    have high := (Region.contains_iff.mp inside).2
    constructor
    · intro fits
      rw [transfer, readObject_holds sound ⟨s, here, inside, by omega⟩]
      rfl
    · intro past
      obtain ⟨cause, refused⟩ := sound.readObject_past here inside past
      exact ⟨cause, by rw [transfer, refused]; rfl⟩
  writeObject data := by
    have high := (Region.contains_iff.mp inside).2
    constructor
    · intro fits
      have holds : m.Holds a data.length := ⟨s, here, inside, by omega⟩
      obtain ⟨m', written, wrote⟩ := writeObject_holds sound holds
      exact ⟨m', by rw [transfer, written], wrote.stored sound here inside fits⟩
    · intro past
      obtain ⟨cause, refused⟩ := sound.writeObject_past here inside past
      exact ⟨cause, by rw [transfer, refused]⟩

-- No address is in two regions.
theorem Sound.unique (sound : m.Sound) {i j : Nat} (hi : i < m.regions.length)
    (hj : j < m.regions.length) (first : m.regions[i].contains a = true)
    (second : m.regions[j].contains a = true) : i = j := by
  have ordered {k l : Nat} (hk : k < m.regions.length) (hl : l < m.regions.length)
      (low : m.regions[k].contains a = true) (high : m.regions[l].contains a = true) :
      ¬ k < l := by
    intro less
    have before : m.regions[k].last ≤ m.regions[l].base.toNat :=
      List.pairwise_iff_getElem.mp sound.apart k l hk hl less
    have below := (Region.contains_iff.mp low).2
    exact absurd below (Nat.not_lt.mpr (Nat.le_trans before (Region.contains_iff.mp high).1))
  exact Nat.le_antisymm (Nat.not_lt.mp (ordered hj hi second first))
    (Nat.not_lt.mp (ordered hi hj first second))

theorem Admissible.byteStore [Host] (admissible : Admissible ranges)
    (laid : m.layout = (fresh ranges).layout) : ByteStore ranges m where
  layout := by
    rw [laid, GuestMemory.layout, fresh, List.map_map]
    rfl
  unique _ _ hi hj _ first second := (admissible.sound.congr laid).unique hi hj first second
  mapped a := mapped_spanned laid
  unmapped a outside t := by
    refine transfer_unmapped (fun mapped => ?_) t
    obtain ⟨r, here, spans⟩ := (mapped_spanned laid).mp mapped
    exact outside r here spans
  serves r here a spans := by
    obtain ⟨s, there, inside, last⟩ := region_spanned laid here spans
    rw [← last]
    exact (admissible.sound.congr laid).serves there inside

end VmMonitor.GuestMemory
