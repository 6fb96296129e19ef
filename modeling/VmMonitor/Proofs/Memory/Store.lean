import VmMonitor.Memory.Guest

/-!
Guest memory as a store of bytes. Which addresses are mapped is settled when the memory is made.
Whether a range can be accessed depends on that alone, and a write changes the bytes that it names
and no others.
-/

namespace VmMonitor

theorem GuestAddress.toNat_add {a : GuestAddress} {i : Nat} (fits : a.toNat + i < UInt64.size) :
    (a + UInt64.ofNat i).toNat = a.toNat + i := by
  have small : i < 2 ^ 64 := Nat.lt_of_le_of_lt (Nat.le_add_left i _) fits
  rw [UInt64.toNat_add, UInt64.toNat_ofNat_of_lt' small]
  exact Nat.mod_eq_of_lt fits

namespace Region

variable {r s : Region} {a : GuestAddress}

-- Where the region lies, whatever it holds.
def extent (r : Region) : GuestAddress × Nat := (r.base, r.mapping.size)

theorem contains_iff : r.contains a = true ↔ r.base.toNat ≤ a.toNat ∧ a.toNat < r.last := by
  simp [contains]

theorem last_congr (same : s.extent = r.extent) : s.last = r.last := by
  obtain ⟨base, size⟩ := Prod.mk.inj same
  rw [last, last, base, size]

theorem contains_congr (same : s.extent = r.extent) : s.contains a = r.contains a := by
  rw [contains, contains, last_congr same, (Prod.mk.inj same).1]

-- From an address inside a region there is room up to its end.
theorem room_inside {n : Nat} (inside : r.contains a = true) :
    r.mapping.room (a.toNat - r.base.toNat) n = .ok (min n (r.last - a.toNat)) := by
  obtain ⟨low, high⟩ := contains_iff.mp inside
  have rest : r.mapping.size - (a.toNat - r.base.toNat) = r.last - a.toNat := by
    rw [last]
    omega
  rw [last] at high
  rw [Mapping.room, if_pos (by omega), rest, Nat.min_comm]

end Region

namespace GuestMemory

variable {m m' m'' : GuestMemory} {a x : GuestAddress} {n : Nat} {data : List UInt8}
  {before after : List Region} {r s : Region}

-- Where the regions lie.
def layout (m : GuestMemory) : List (GuestAddress × Nat) := m.regions.map Region.extent

-- One region holds `a` and the `n` bytes from there on.
def Holds (m : GuestMemory) (a : GuestAddress) (n : Nat) : Prop :=
  ∃ r ∈ m.regions, r.contains a = true ∧ a.toNat + n ≤ r.last

theorem Holds.congr (same : m'.layout = m.layout) (holds : m.Holds a n) : m'.Holds a n := by
  obtain ⟨r, here, inside, fits⟩ := holds
  have listed : r.extent ∈ m'.layout := same ▸ List.mem_map_of_mem here
  obtain ⟨s, there, alike⟩ := List.mem_map.mp listed
  exact ⟨s, there, (Region.contains_congr alike).trans inside, (Region.last_congr alike) ▸ fits⟩

theorem Holds.shorter {k : Nat} (holds : m.Holds a n) (le : k ≤ n) : m.Holds a k := by
  obtain ⟨r, here, inside, fits⟩ := holds
  exact ⟨r, here, inside, by omega⟩

theorem Holds.within {b : GuestAddress} {k : Nat} (holds : m.Holds a n)
    (low : a.toNat ≤ b.toNat) (high : b.toNat + k ≤ a.toNat + n) (some : 0 < k) :
    m.Holds b k := by
  obtain ⟨r, here, inside, fits⟩ := holds
  obtain ⟨base, _⟩ := Region.contains_iff.mp inside
  exact ⟨r, here, Region.contains_iff.mpr ⟨by omega, by omega⟩, by omega⟩

theorem holds_listed {extent : GuestAddress × Nat} (listed : extent ∈ m.layout)
    (low : extent.1.toNat ≤ a.toNat) (below : a.toNat < extent.1.toNat + extent.2)
    (fits : a.toNat + n ≤ extent.1.toNat + extent.2) : m.Holds a n := by
  obtain ⟨r, here, rfl⟩ := List.mem_map.mp listed
  exact ⟨r, here, Region.contains_iff.mpr ⟨low, below⟩, fits⟩

-- The regions lie one after the other and end below 2 ^ 64.
structure Sound (m : GuestMemory) : Prop where
  apart : m.regions.Pairwise fun r s => r.last ≤ s.base.toNat
  below : ∀ r ∈ m.regions, r.last < UInt64.size

theorem Sound.congr (sound : m.Sound) (same : m'.layout = m.layout) : m'.Sound := by
  have apart : m.layout.Pairwise fun e f => e.1.toNat + e.2 ≤ f.1.toNat :=
    List.pairwise_map.mpr sound.apart
  have below : ∀ e ∈ m.layout, e.1.toNat + e.2 < UInt64.size := by
    intro e listed
    obtain ⟨r, here, rfl⟩ := List.mem_map.mp listed
    exact sound.below r here
  rw [← same] at apart below
  exact ⟨List.pairwise_map.mp apart, fun s there => below _ (List.mem_map_of_mem there)⟩

theorem Sound.fits (sound : m.Sound) (holds : m.Holds a n) : a.toNat + n < UInt64.size := by
  obtain ⟨r, here, _, fits⟩ := holds
  exact Nat.lt_of_le_of_lt fits (sound.below r here)

-- Which region an access meets.

theorem find_contains {regions : List Region}
    (apart : regions.Pairwise fun r s => r.last ≤ s.base.toNat) (here : r ∈ regions)
    (inside : r.contains a = true) : regions.find? (·.contains a) = some r := by
  induction regions with
  | nil => cases here
  | cons s rest ih =>
      obtain ⟨first, others⟩ := List.pairwise_cons.mp apart
      cases holds : s.contains a with
      | false =>
          rw [List.find?_cons_of_neg (by simp [holds])]
          rcases List.mem_cons.mp here with rfl | later
          · rw [holds] at inside
            cases inside
          · exact ih others later
      | true =>
          rw [List.find?_cons_of_pos (by simp [holds])]
          rcases List.mem_cons.mp here with rfl | later
          · rfl
          · -- An address in `s` lies before every region that follows it.
            have low := (Region.contains_iff.mp holds).2
            have high := (Region.contains_iff.mp inside).1
            have := first r later
            omega

theorem Sound.region (sound : m.Sound) (here : r ∈ m.regions) (inside : r.contains a = true) :
    m.region? a = some r :=
  find_contains sound.apart here inside

-- What begins in a region is held if it ends there, as no other region will do.
theorem Sound.holds_iff (sound : m.Sound) (here : r ∈ m.regions) (inside : r.contains a = true) :
    m.Holds a n ↔ a.toNat + n ≤ r.last := by
  refine ⟨fun ⟨s, there, met, fits⟩ => ?_, fun fits => ⟨r, here, inside, fits⟩⟩
  have found := sound.region there met
  rw [sound.region here inside] at found
  cases found
  exact fits

theorem region_mem (found : m.region? a = some r) : r ∈ m.regions ∧ r.contains a = true :=
  ⟨List.mem_of_find?_eq_some found, by simpa using List.find?_some found⟩

theorem locate_parts {regions : List Region} (found : locate a regions = some (before, r, after)) :
    regions = before ++ r :: after ∧ r.contains a = true := by
  induction regions generalizing before with
  | nil => cases found
  | cons s rest ih =>
      unfold locate at found
      split at found
      · cases found
        exact ⟨rfl, ‹_›⟩
      · obtain ⟨⟨before', r', after'⟩, later, same⟩ := Option.map_eq_some_iff.mp found
        cases same
        obtain ⟨rfl, inside⟩ := ih later
        exact ⟨rfl, inside⟩

theorem locate_none {regions : List Region} (absent : ∀ r ∈ regions, r.contains a ≠ true) :
    locate a regions = none := by
  induction regions with
  | nil => rfl
  | cons s rest ih =>
      rw [locate, if_neg (absent s List.mem_cons_self),
        ih fun r here => absent r (List.mem_cons_of_mem _ here)]
      rfl

theorem locate_some {regions : List Region} (here : r ∈ regions) (inside : r.contains a = true) :
    ∃ parts, locate a regions = some parts := by
  induction regions with
  | nil => cases here
  | cons s rest ih =>
      unfold locate
      split
      · exact ⟨_, rfl⟩
      · rename_i outside
        rcases List.mem_cons.mp here with rfl | later
        · exact absurd inside outside
        · obtain ⟨parts, found⟩ := ih later
          rw [found]
          exact ⟨_, rfl⟩

theorem Sound.locate (sound : m.Sound) (here : r ∈ m.regions) (inside : r.contains a = true) :
    ∃ before after, GuestMemory.locate a m.regions = some (before, r, after) ∧
      m.regions = before ++ r :: after := by
  obtain ⟨⟨before, s, after⟩, found⟩ := locate_some here inside
  obtain ⟨split, met⟩ := locate_parts found
  have again := sound.region (r := s) (by simp [split]) met
  rw [sound.region here inside] at again
  cases again
  exact ⟨before, after, found, split⟩

-- The view of memory as bytes at addresses.

def Mapped (m : GuestMemory) (a : GuestAddress) : Prop := (m.byte? a).isSome = true

theorem mapped_iff : m.Mapped a ↔ ∃ r ∈ m.regions, r.contains a = true := by
  unfold Mapped byte?
  rw [Option.isSome_map]
  exact List.find?_isSome

theorem Holds.mapped (holds : m.Holds a n) : m.Mapped a := by
  obtain ⟨r, here, inside, _⟩ := holds
  exact mapped_iff.mpr ⟨r, here, inside⟩

theorem holds_none : m.Holds a 0 ↔ m.Mapped a := by
  refine ⟨Holds.mapped, fun mapped => ?_⟩
  obtain ⟨r, here, inside⟩ := mapped_iff.mp mapped
  exact ⟨r, here, inside, Nat.le_of_lt (Region.contains_iff.mp inside).2⟩

theorem Mapped.congr (same : m'.layout = m.layout) : m'.Mapped a ↔ m.Mapped a :=
  ⟨fun mapped => holds_none.mp ((holds_none.mpr mapped).congr same.symm),
    fun mapped => holds_none.mp ((holds_none.mpr mapped).congr same)⟩

theorem Sound.byte (sound : m.Sound) (here : r ∈ m.regions) (inside : r.contains a = true) :
    m.byte? a = some (r.mapping.byte (a.toNat - r.base.toNat)) := by
  rw [byte?, sound.region here inside]
  rfl

-- The `n` bytes from `a` on.
def contents (m : GuestMemory) (a : GuestAddress) (n : Nat) : List UInt8 :=
  (List.range n).map fun i => (m.byte? (a + UInt64.ofNat i)).getD 0

@[simp] theorem length_contents (m : GuestMemory) (a : GuestAddress) (n : Nat) :
    (m.contents a n).length = n := by simp [contents]

theorem contents_add (m : GuestMemory) (a : GuestAddress) (k n : Nat) :
    m.contents a (k + n) = m.contents a k ++ m.contents (a + UInt64.ofNat k) n := by
  have shift (i : Nat) : a + UInt64.ofNat (k + i) = a + UInt64.ofNat k + UInt64.ofNat i := by
    rw [UInt64.ofNat_add, UInt64.add_assoc]
  simp only [contents, List.range_add, List.map_append, List.map_map, Function.comp_def, shift]

-- A part of a range.
theorem slice_contents {k i : Nat} (m : GuestMemory) (a : GuestAddress) (le : i + k ≤ n) :
    ((m.contents a n).drop i).take k = m.contents (a + UInt64.ofNat i) k := by
  obtain ⟨rest, rfl⟩ := Nat.exists_eq_add_of_le le
  rw [Nat.add_assoc, contents_add, List.drop_left' (length_contents ..), contents_add,
    List.take_left' (length_contents ..)]

theorem take_contents {k : Nat} (m : GuestMemory) (a : GuestAddress) (le : k ≤ n) :
    (m.contents a n).take k = m.contents a k := by
  obtain ⟨rest, rfl⟩ := Nat.exists_eq_add_of_le le
  rw [contents_add, List.take_left' (length_contents ..)]

theorem contents_congr
    (same : ∀ x : GuestAddress, a.toNat ≤ x.toNat → x.toNat < a.toNat + n →
      m'.byte? x = m.byte? x) (fits : a.toNat + n < UInt64.size) :
    m'.contents a n = m.contents a n := by
  refine List.map_congr_left fun i lt => ?_
  have lt := List.mem_range.mp lt
  have place := GuestAddress.toNat_add (a := a) (i := i) (by omega)
  rw [same _ (by omega) (by omega)]

theorem Sound.bytes (sound : m.Sound) (here : r ∈ m.regions) (inside : r.contains a = true)
    (fits : a.toNat + n ≤ r.last) :
    r.mapping.bytes (a.toNat - r.base.toNat) n = m.contents a n := by
  refine List.map_congr_left fun i lt => ?_
  have lt := List.mem_range.mp lt
  have low := (Region.contains_iff.mp inside).1
  have place := GuestAddress.toNat_add (a := a) (i := i)
    (Nat.lt_trans (by omega) (sound.below r here))
  rw [sound.byte here (Region.contains_iff.mpr (by omega)), place,
    Nat.sub_add_comm low]
  rfl

-- What a write of `data` at `a` makes of the byte at `x`.
def overlaid (m : GuestMemory) (a : GuestAddress) (data : List UInt8) (x : GuestAddress) :
    Option UInt8 :=
  if a.toNat ≤ x.toNat then (data[x.toNat - a.toNat]?).or (m.byte? x) else m.byte? x

theorem overlaid_outside (outside : x.toNat < a.toNat ∨ a.toNat + data.length ≤ x.toNat) :
    m.overlaid a data x = m.byte? x := by
  unfold overlaid
  split
  · rw [List.getElem?_eq_none (by omega), Option.none_or]
  · rfl

theorem overlaid_inside {i : Nat} {b : UInt8} (stored : data[i]? = some b)
    (place : x.toNat = a.toNat + i) : m.overlaid a data x = some b := by
  have back : x.toNat - a.toNat = i := by omega
  rw [overlaid, if_pos (by omega), back, stored, Option.some_or]

-- The memory that a write of `data` at `a` leaves behind.
structure Wrote (m : GuestMemory) (a : GuestAddress) (data : List UInt8) (m' : GuestMemory) :
    Prop where
  layout : m'.layout = m.layout
  byte : ∀ x, m'.byte? x = m.overlaid a data x

theorem replace_wrote (sound : m.Sound) (split : m.regions = before ++ r :: after)
    (inside : r.contains a = true) (fits : a.toNat + data.length ≤ r.last)
    (base : s.base = r.base)
    (stored : s.mapping = r.mapping.store (a.toNat - r.base.toNat) data) :
    m.Wrote a data ⟨before ++ s :: after⟩ := by
  have extent : s.extent = r.extent := by
    rw [Region.extent, Region.extent, base, stored, Mapping.size_store]
  have same : layout ⟨before ++ s :: after⟩ = m.layout := by
    simp only [layout, split, List.map_append, List.map_cons, extent]
  have here : r ∈ m.regions := by simp [split]
  have there : s ∈ (GuestMemory.mk (before ++ s :: after)).regions := by simp
  refine ⟨same, fun x => ?_⟩
  obtain ⟨low, high⟩ := Region.contains_iff.mp inside
  cases within : r.contains x with
  | true =>
      obtain ⟨below, above⟩ := Region.contains_iff.mp within
      rw [(sound.congr same).byte there ((Region.contains_congr extent).trans within), overlaid,
        sound.byte here within, base, stored, Mapping.byte_store]
      by_cases le : a.toNat ≤ x.toNat
      · have back : x.toNat - r.base.toNat - (a.toNat - r.base.toNat) = x.toNat - a.toNat := by
          omega
        rw [if_pos le, if_pos (by omega), back]
        cases data[x.toNat - a.toNat]? <;> rfl
      · rw [if_neg le, if_neg (by omega)]
  | false =>
      -- The write stays inside its region, so that it does not reach `x`.
      have outside : ¬ (r.base.toNat ≤ x.toNat ∧ x.toNat < r.last) := by
        rw [← Region.contains_iff, within]
        exact Bool.false_ne_true
      have past : s.contains x = false := (Region.contains_congr extent).trans within
      rw [overlaid_outside (by omega), byte?, byte?, region?, region?, split,
        List.find?_append, List.find?_append, List.find?_cons_of_neg (by simp [past]),
        List.find?_cons_of_neg (by simp [within])]

-- An access that begins where nothing is mapped finds no region.

theorem region_unmapped (unmapped : ¬ m.Mapped a) : m.region? a = none := by
  rw [region?, List.find?_eq_none]
  exact fun r here inside => unmapped (mapped_iff.mpr ⟨r, here, inside⟩)

theorem locate_unmapped (unmapped : ¬ m.Mapped a) : locate a m.regions = none :=
  locate_none fun r here inside => unmapped (mapped_iff.mpr ⟨r, here, inside⟩)

-- Slice accesses that begin in a region. They go no further than its end.

theorem Sound.read (sound : m.Sound) (here : r ∈ m.regions) (inside : r.contains a = true)
    (n : Nat) : m.read a n = .ok (m.contents a (min n (r.last - a.toNat))) := by
  have high := (Region.contains_iff.mp inside).2
  rw [GuestMemory.read, sound.region here inside]
  simp only [Mapping.readSlice, Region.room_inside inside, bind, Except.bind, pure, Except.pure,
    sound.bytes here inside (n := min n (r.last - a.toNat)) (by omega)]

theorem Sound.readExact (sound : m.Sound) (here : r ∈ m.regions) (inside : r.contains a = true)
    (n : Nat) :
    m.readExact a n =
      if n ≤ r.last - a.toNat then .ok (m.contents a n)
      else .error (.shortRead n (r.last - a.toNat)) := by
  rw [GuestMemory.readExact, sound.read here inside]
  by_cases fits : n ≤ r.last - a.toNat
  · simp [bind, Except.bind, pure, Except.pure, fits]
  · have short : min n (r.last - a.toNat) = r.last - a.toNat := Nat.min_eq_right (by omega)
    have less : ¬ r.last - a.toNat = n := by omega
    simp [bind, Except.bind, throw, throwThe, MonadExceptOf.throw, fits, short, less]

theorem Sound.write (sound : m.Sound) (here : r ∈ m.regions) (inside : r.contains a = true)
    (data : List UInt8) :
    ∃ m', m.write a data = .ok (min data.length (r.last - a.toNat), m') ∧
      m.Wrote a (data.take (r.last - a.toNat)) m' := by
  obtain ⟨before, after, found, split⟩ := sound.locate here inside
  have high := (Region.contains_iff.mp inside).2
  have cut : data.take (min data.length (r.last - a.toNat)) = data.take (r.last - a.toNat) := by
    rw [Nat.min_comm, ← List.take_eq_take_min]
  have fits : (data.take (r.last - a.toNat)).length ≤ r.last - a.toNat := by
    rw [List.length_take]
    omega
  refine ⟨⟨before ++ ⟨r.base, r.mapping.store (a.toNat - r.base.toNat)
    (data.take (r.last - a.toNat))⟩ :: after⟩, ?_,
    replace_wrote sound split inside (by omega) rfl rfl⟩
  simp only [GuestMemory.write, found, Mapping.writeSlice, Region.room_inside inside, cut, bind,
    Except.bind, pure, Except.pure]

theorem Sound.writeAll (sound : m.Sound) (here : r ∈ m.regions) (inside : r.contains a = true)
    (data : List UInt8) :
    ∃ m', m.writeAll a data =
        (if data.length ≤ r.last - a.toNat then .ok ()
          else .error (.shortWrite data.length (r.last - a.toNat)), m') ∧
      m.Wrote a (data.take (r.last - a.toNat)) m' := by
  obtain ⟨m', written, wrote⟩ := sound.write here inside data
  refine ⟨m', ?_, wrote⟩
  rw [GuestMemory.writeAll, written]
  by_cases fits : data.length ≤ r.last - a.toNat
  · simp [fits]
  · have short : min data.length (r.last - a.toNat) = r.last - a.toNat :=
      Nat.min_eq_right (by omega)
    have less : ¬ r.last - a.toNat = data.length := by omega
    simp [fits, short, less]

-- Accesses to bytes that one region holds.

theorem readExact_holds (sound : m.Sound) (holds : m.Holds a n) :
    m.readExact a n = .ok (m.contents a n) := by
  obtain ⟨r, here, inside, fits⟩ := holds
  rw [sound.readExact here inside, if_pos (by omega)]

theorem readExact_unmapped (unmapped : ¬ m.Mapped a) :
    m.readExact a n = .error (.invalidAddress a) := by
  rw [readExact, read, region_unmapped unmapped]
  rfl

theorem readObject_holds (sound : m.Sound) (holds : m.Holds a n) :
    m.readObject a n = .ok (m.contents a n) := by
  have below := sound.fits holds
  obtain ⟨r, here, inside, fits⟩ := holds
  obtain ⟨low, high⟩ := Region.contains_iff.mp inside
  have checked : r.mapping.checkRange (a.toNat - r.base.toNat) n = .ok () := by
    rw [Region.last] at fits
    rw [Mapping.checkRange, if_neg (by omega), if_neg (by omega)]
  rw [readObject, sound.region here inside]
  simp only [Mapping.readObject, checked, bind, Except.bind, pure, Except.pure,
    sound.bytes here inside fits]

theorem readNat_holds (sound : m.Sound) (holds : m.Holds a n) :
    m.readNat a n = .ok (Bytes.toNat (m.contents a n)) := by
  rw [readNat, readObject_holds sound holds]
  rfl

theorem readObject_ok (sound : m.Sound) (done : m.readObject a n = .ok data) :
    m.Holds a n ∧ data = m.contents a n := by
  have holds : m.Holds a n := by
    unfold readObject at done
    split at done
    · cases done
    rename_i r found
    split at done
    · rename_i read
      obtain ⟨_, checked, _⟩ := Checked.bind_eq_ok.mp read
      obtain ⟨here, inside⟩ := region_mem found
      refine ⟨r, here, inside, ?_⟩
      have low := (Region.contains_iff.mp inside).1
      unfold Mapping.checkRange at checked
      split at checked
      · cases checked
      split at checked
      · cases checked
      · rw [Region.last]
        omega
    · cases done
  rw [readObject_holds sound holds] at done
  exact ⟨holds, (Except.ok.inj done).symm⟩

-- A range that can be read reads the same in memory that holds the same bytes there.
theorem readObject_congr (sound : m.Sound) (layout : m'.layout = m.layout)
    (same : ∀ x : GuestAddress, a.toNat ≤ x.toNat → x.toNat < a.toNat + n →
      m'.byte? x = m.byte? x) (done : m.readObject a n = .ok data) :
    m'.readObject a n = .ok data := by
  obtain ⟨holds, rfl⟩ := readObject_ok sound done
  rw [readObject_holds (sound.congr layout) (holds.congr layout),
    contents_congr same (sound.fits holds)]

-- Where an access goes is settled by the layout.
theorem region_extent (m : GuestMemory) (a : GuestAddress) :
    (m.region? a).map Region.extent =
      m.layout.find? fun e => e.1.toNat ≤ a.toNat && a.toNat < e.1.toNat + e.2 := by
  rw [layout, List.find?_map]
  rfl

-- A read, successful or not, depends on the bytes that it names.
theorem readObject_local (sound : m.Sound) (layout : m'.layout = m.layout)
    (same : ∀ x : GuestAddress, a.toNat ≤ x.toNat → x.toNat < a.toNat + n →
      m'.byte? x = m.byte? x) : m'.readObject a n = m.readObject a n := by
  cases read : m.readObject a n with
  | ok data => exact readObject_congr sound layout same read
  | error e =>
      have met : (m'.region? a).map Region.extent = (m.region? a).map Region.extent := by
        rw [region_extent, region_extent, layout]
      unfold readObject at read ⊢
      cases found : m.region? a with
      | none =>
          rw [found, Option.map_none, Option.map_eq_none_iff] at met
          rw [found] at read
          rw [met]
          exact read
      | some r =>
          rw [found, Option.map_some] at met
          obtain ⟨r', found', extent⟩ := Option.map_eq_some_iff.mp met
          obtain ⟨base, size⟩ := Prod.mk.inj extent
          have checked : r'.mapping.checkRange (a.toNat - r'.base.toNat) n =
              r.mapping.checkRange (a.toNat - r.base.toNat) n := by
            unfold Mapping.checkRange
            rw [base, size]
          rw [found] at read
          rw [found']
          simp only [Mapping.readObject] at read ⊢
          rw [checked]
          cases fits : r.mapping.checkRange (a.toNat - r.base.toNat) n with
          | ok u =>
              rw [fits] at read
              cases read
          | error cause =>
              rw [fits] at read
              exact read

theorem validRange_layout {len : UInt64} (layout : m'.layout = m.layout) :
    m'.validRange a len = m.validRange a len := by
  have any (final : GuestAddress) (m : GuestMemory) :
      (m.regions.any fun r => r.contains a && r.contains final) = m.layout.any fun e =>
        (e.1.toNat ≤ a.toNat && a.toNat < e.1.toNat + e.2) &&
          (e.1.toNat ≤ final.toNat && final.toNat < e.1.toNat + e.2) := by
    rw [GuestMemory.layout, List.any_map]
    rfl
  unfold validRange
  split
  · rfl
  · split
    · rfl
    · rw [any, any, layout]

theorem writeAll_holds (sound : m.Sound) (holds : m.Holds a data.length) :
    ∃ m', m.writeAll a data = (.ok (), m') ∧ m.Wrote a data m' := by
  obtain ⟨r, here, inside, fits⟩ := holds
  obtain ⟨m', written, wrote⟩ := sound.writeAll here inside data
  rw [if_pos (by omega)] at written
  rw [List.take_of_length_le (by omega)] at wrote
  exact ⟨m', written, wrote⟩

theorem writeAll_layout (m : GuestMemory) (a : GuestAddress) (data : List UInt8) :
    (m.writeAll a data).2.layout = m.layout := by
  unfold writeAll write
  cases found : locate a m.regions with
  | none => rfl
  | some parts =>
      obtain ⟨before, r, after⟩ := parts
      have split := (locate_parts found).1
      dsimp only
      cases stored : r.mapping.writeSlice (a.toNat - r.base.toNat) data with
      | error cause => rfl
      | ok result =>
          obtain ⟨count, room, stored⟩ := Checked.bind_eq_ok.mp stored
          cases stored
          dsimp only
          split <;> simp [layout, split, Region.extent]

theorem writeAll_unmapped (unmapped : ¬ m.Mapped a) :
    m.writeAll a data = (.error (.invalidAddress a), m) := by
  rw [writeAll, write, locate_unmapped unmapped]

theorem writeObject_wrote (sound : m.Sound) (done : m.writeObject a data = .ok m') :
    m.Holds a data.length ∧ m.Wrote a data m' := by
  unfold writeObject at done
  split at done
  · cases done
  rename_i before r after found
  obtain ⟨split, inside⟩ := locate_parts found
  split at done
  · rename_i mapping stored
    cases done
    obtain ⟨_, checked, stored⟩ := Checked.bind_eq_ok.mp stored
    cases stored
    have fits : a.toNat + data.length ≤ r.last := by
      have low := (Region.contains_iff.mp inside).1
      unfold Mapping.checkRange at checked
      split at checked
      · cases checked
      split at checked
      · cases checked
      · rw [Region.last]
        omega
    exact ⟨⟨r, by simp [split], inside, fits⟩, replace_wrote sound split inside fits rfl rfl⟩
  · cases done

theorem writeObject_holds (sound : m.Sound) (holds : m.Holds a data.length) :
    ∃ m', m.writeObject a data = .ok m' ∧ m.Wrote a data m' := by
  have below := sound.fits holds
  obtain ⟨r, here, inside, fits⟩ := holds
  obtain ⟨before, after, found, split⟩ := sound.locate here inside
  have low := (Region.contains_iff.mp inside).1
  have checked : r.mapping.checkRange (a.toNat - r.base.toNat) data.length = .ok () := by
    rw [Region.last] at fits
    rw [Mapping.checkRange, if_neg (by omega), if_neg (by omega)]
  refine ⟨⟨before ++ ⟨r.base, r.mapping.store (a.toNat - r.base.toNat) data⟩ :: after⟩, ?_,
    replace_wrote sound split inside fits rfl rfl⟩
  simp only [writeObject, found, Mapping.writeObject, checked, bind, Except.bind, pure,
    Except.pure]

-- What was written reads back, and what lies apart from it reads as before.
theorem Wrote.read_back (sound : m.Sound) (wrote : m.Wrote a data m')
    (holds : m.Holds a data.length) {k : Nat} (le : k ≤ data.length) :
    m'.contents a k = data.take k := by
  have below := sound.fits holds
  refine List.ext_getElem (by simp [le]) fun i h₁ h₂ => ?_
  have lt : i < data.length := by simp at h₂; omega
  have place := GuestAddress.toNat_add (a := a) (i := i) (by omega)
  have byte := wrote.byte (a + UInt64.ofNat i)
  rw [overlaid_inside (List.getElem?_eq_getElem lt) place] at byte
  simp only [contents, List.getElem_map, List.getElem_range, byte, Option.getD_some,
    List.getElem_take]

theorem Wrote.read_apart {b : GuestAddress} (wrote : m.Wrote a data m')
    (apart : b.toNat + n ≤ a.toNat ∨ a.toNat + data.length ≤ b.toNat)
    (fits : b.toNat + n < UInt64.size) : m'.contents b n = m.contents b n := by
  refine contents_congr (fun x low high => ?_) fits
  rw [wrote.byte x, overlaid_outside (by omega)]

-- The check of a range is that one region holds it, unless it is empty.
theorem validRange_holds {len : UInt64} (valid : m.validRange a len = true) (some : len ≠ 0) :
    m.Holds a len.toNat := by
  unfold validRange at valid
  rw [if_neg some] at valid
  split at valid
  · cases valid
  rename_i final sum
  obtain ⟨below, rfl⟩ := GuestAddress.checkedAdd_eq_some.mp sum
  obtain ⟨r, here, both⟩ := List.any_eq_true.mp valid
  obtain ⟨inside, last⟩ := Bool.and_eq_true_iff.mp both
  refine ⟨r, here, inside, ?_⟩
  have end_ := (Region.contains_iff.mp last).2
  have positive : 0 < len.toNat :=
    Nat.pos_of_ne_zero fun zero => some (UInt64.toNat_inj.mp zero)
  have one : (1 : UInt64) ≤ len := UInt64.le_iff_toNat_le.mpr positive
  rw [UInt64.toNat_sub_of_le _ _ one] at below
  rw [UInt64.toNat_add, UInt64.toNat_sub_of_le _ _ one, Nat.mod_eq_of_lt below] at end_
  change a.toNat + (len.toNat - 1) < r.last at end_
  omega

end GuestMemory

end VmMonitor
