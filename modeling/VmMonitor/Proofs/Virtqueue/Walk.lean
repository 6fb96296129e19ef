import VmMonitor.Proofs.Strict.Chain

/-!
Which chains are taken. The table says what follows what, whoever reads it; a walk accepts exactly
the entries that it visits up to the first without a successor, if they are few enough and fit for
use. What is visited depends on the index alone, so that a table that leads back never comes to an
end.
-/

namespace VmMonitor

open GuestMemory

namespace TableEntry

variable {m : GuestMemory} {table : GuestAddress} {i : UInt16} {e e' : TableEntry}

-- Where an entry lies. Tables wrap around the end of the address space.
def place (table : GuestAddress) (i : UInt16) : GuestAddress :=
  UInt64.ofNat ((table.toNat + 16 * i.toNat) % 2 ^ 64)

-- One region holds the entry, and its bytes spell the fields, each least significant byte first.
structure Stored (m : GuestMemory) (table : GuestAddress) (i : UInt16) (e : TableEntry) : Prop where
  held : m.Holds (place table i) 16
  address : e.address.toNat = Bytes.toNat (m.contents (place table i) 8)
  len : e.len.toNat = Bytes.toNat (m.contents (place table i + 8) 4)
  flags : e.flags.toNat = Bytes.toNat (m.contents (place table i + 12) 2)
  next : e.next.toNat = Bytes.toNat (m.contents (place table i + 14) 2)

theorem place_add (table : GuestAddress) (i : UInt16) :
    place table i = table.wrappingAdd (UInt64.ofNat (DescriptorChain.entrySize * i.toNat)) := by
  apply UInt64.toNat_inj.mp
  change _ = (table + UInt64.ofNat (16 * i.toNat)).toNat
  rw [place, UInt64.toNat_add, UInt64.toNat_ofNat', UInt64.toNat_ofNat', Nat.mod_mod,
    Nat.add_mod_mod]

theorem contents_lt (m : GuestMemory) (a : GuestAddress) (n : Nat) :
    Bytes.toNat (m.contents a n) < 2 ^ (8 * n) := by
  have below := Bytes.toNat_lt (m.contents a n)
  rw [length_contents] at below
  rw [Nat.pow_mul]
  exact below

theorem Stored.unique (one : Stored m table i e) (two : Stored m table i e') : e = e' := by
  have address := UInt64.toNat_inj.mp (one.address.trans two.address.symm)
  have len := UInt32.toNat_inj.mp (one.len.trans two.len.symm)
  have flags := UInt16.toNat_inj.mp (one.flags.trans two.flags.symm)
  have next := UInt16.toNat_inj.mp (one.next.trans two.next.symm)
  cases e
  cases e'
  cases address
  cases len
  cases flags
  cases next
  rfl

theorem decode_stored (held : m.Holds (place table i) 16) :
    Stored m table i (decode (m.contents (place table i) 16)) := by
  refine ⟨held, ?_, ?_, ?_, ?_⟩
  · change (UInt64.ofNat (Bytes.toNat ((m.contents (place table i) 16).take 8))).toNat = _
    rw [take_contents m _ (by decide), UInt64.toNat_ofNat']
    exact Nat.mod_eq_of_lt (contents_lt m _ 8)
  · change (UInt32.ofNat (Bytes.toNat (((m.contents (place table i) 16).drop 8).take 4))).toNat = _
    rw [slice_contents m _ (by decide), UInt32.toNat_ofNat']
    exact Nat.mod_eq_of_lt (contents_lt m _ 4)
  · change (UInt16.ofNat (Bytes.toNat (((m.contents (place table i) 16).drop 12).take 2))).toNat = _
    rw [slice_contents m _ (by decide), UInt16.toNat_ofNat']
    exact Nat.mod_eq_of_lt (contents_lt m _ 2)
  · change (UInt16.ofNat (Bytes.toNat (((m.contents (place table i) 16).drop 14).take 2))).toNat = _
    rw [slice_contents m _ (by decide), UInt16.toNat_ofNat']
    exact Nat.mod_eq_of_lt (contents_lt m _ 2)

-- What is read is what is there.
theorem read_iff (sound : m.Sound) : read m table i = .ok e ↔ Stored m table i e := by
  unfold read
  rw [← place_add]
  constructor
  · intro done
    obtain ⟨bytes, object, done⟩ := Checked.bind_eq_ok.mp done
    obtain ⟨held, rfl⟩ := readObject_ok sound object
    rw [← Except.ok.inj done]
    exact decode_stored held
  · intro stored
    have object : m.readObject (place table i) DescriptorChain.entrySize =
        .ok (m.contents (place table i) 16) := readObject_holds sound stored.held
    rw [stored.unique (decode_stored stored.held)]
    exact Checked.bind_eq_ok.mpr ⟨_, object, rfl⟩

end TableEntry

namespace DescriptorChain

open Descriptor

variable {m m₀ : GuestMemory} {table : GuestAddress} {queueSize head i : UInt16}
  {visits : List (UInt16 × TableEntry)} {t : Tally}

-- The entries one after the other from entry `i` on, up to the first without a successor.
inductive Trail (m : GuestMemory) (table : GuestAddress) :
    UInt16 → List (UInt16 × TableEntry) → Prop
  | last {i : UInt16} {e : TableEntry} (stored : e.Stored m table i) (final : e.next? = none) :
      Trail m table i [(i, e)]
  | next {i j : UInt16} {e : TableEntry} {rest : List (UInt16 × TableEntry)}
      (stored : e.Stored m table i) (follows : e.next? = some j) (trail : Trail m table j rest) :
      Trail m table i ((i, e) :: rest)

theorem Trail.unique {visits' : List (UInt16 × TableEntry)} (one : Trail m table i visits)
    (two : Trail m table i visits') : visits = visits' := by
  induction one generalizing visits' with
  | last stored final =>
      cases two with
      | last stored' _ => rw [stored.unique stored']
      | next stored' follows _ =>
          rw [stored.unique stored', follows] at final
          cases final
  | next stored follows _ ih =>
      cases two with
      | last stored' final =>
          rw [stored.unique stored', final] at follows
          cases follows
      | next stored' follows' trail =>
          cases stored.unique stored'
          rw [follows] at follows'
          cases follows'
          rw [ih trail]

-- From everywhere on the way it goes on to the same end.
theorem Trail.onward (trail : Trail m table i visits) {v : UInt16 × TableEntry}
    (visited : v ∈ visits) :
    ∃ rest, Trail m table v.1 rest ∧ rest.length ≤ visits.length := by
  induction trail with
  | last stored final =>
      rw [List.mem_singleton.mp visited]
      exact ⟨_, .last stored final, Nat.le_refl _⟩
  | next stored follows trail ih =>
      rcases List.mem_cons.mp visited with rfl | later
      · exact ⟨_, .next stored follows trail, Nat.le_refl _⟩
      · obtain ⟨rest, onward, le⟩ := ih later
        exact ⟨rest, onward, Nat.le_succ_of_le le⟩

-- Where it came by an entry again, it would be longer than itself.
theorem Trail.nodup (trail : Trail m table i visits) : (visits.map Prod.fst).Nodup := by
  induction trail with
  | last => exact List.pairwise_singleton _ _
  | @next i j e rest stored follows trail ih =>
      refine List.nodup_cons.mpr ⟨fun again => ?_, ih⟩
      obtain ⟨v, visited, same⟩ := List.mem_map.mp again
      obtain ⟨onward, trail', le⟩ := trail.onward visited
      rw [same] at trail'
      rw [trail'.unique (.next stored follows trail), List.length_cons] at le
      exact Nat.not_succ_le_self _ le

theorem Trail.ne_nil (trail : Trail m table i visits) : visits ≠ [] := by
  cases trail <;> exact nofun

def descriptorsOf (visits : List (UInt16 × TableEntry)) : List Descriptor :=
  visits.map fun v => v.2.descriptor

-- What makes the entries of a trail fit for use behind those that were counted already: `room` of
-- them at most, all in the table, with buffers in memory, readable ones first, and of no more bytes
-- than a used ring entry can tell.
structure Fit (m : GuestMemory) (queueSize : UInt16) (room : Nat) (t : Tally)
    (visits : List (UInt16 × TableEntry)) : Prop where
  short : visits.length ≤ room
  inside : ∀ v ∈ visits, v.1 < queueSize
  placed : ∀ v ∈ visits, v.2.descriptor.Placed m
  behind : t.writableSeen = true → ∀ v ∈ visits, v.2.access = .writable
  ordered : visits.Pairwise fun v w => v.2.access = .writable → w.2.access = .writable
  readable : t.readable + lenOf .readable (descriptorsOf visits) ≤ maxBytes
  writable : t.writable + lenOf .writable (descriptorsOf visits) ≤ maxBytes

theorem placed_valid (sound : m.Sound) {d : Descriptor} (placed : d.Placed m) :
    m.validRange d.address d.len.toUInt64 = true := by
  unfold validRange
  split
  · rfl
  rename_i wide
  have some : d.len ≠ 0 := by
    intro zero
    rw [zero] at wide
    exact wide rfl
  have positive : 0 < d.len.toNat :=
    Nat.pos_of_ne_zero fun zero => some (UInt32.toNat_inj.mp zero)
  have one : (1 : UInt64) ≤ d.len.toUInt64 := UInt64.le_iff_toNat_le.mpr
    (by rw [UInt32.toNat_toUInt64]; exact positive)
  have reach : (d.len.toUInt64 - 1).toNat = d.len.toNat - 1 := by
    rw [UInt64.toNat_sub_of_le _ _ one, UInt32.toNat_toUInt64]
    rfl
  have below : d.address.toNat + d.len.toNat < 2 ^ 64 := sound.fits (placed some)
  obtain ⟨r, here, contains, fits⟩ := placed some
  obtain ⟨low, _⟩ := Region.contains_iff.mp contains
  have sum : d.address.checkedAdd (d.len.toUInt64 - 1) =
      .some (d.address + (d.len.toUInt64 - 1)) :=
    GuestAddress.checkedAdd_eq_some.mpr ⟨by change _ < 2 ^ 64; omega, rfl⟩
  have final : (d.address + (d.len.toUInt64 - 1)).toNat = d.address.toNat + (d.len.toNat - 1) := by
    rw [UInt64.toNat_add, reach]
    exact Nat.mod_eq_of_lt (by omega)
  rw [sum]
  refine List.any_eq_true.mpr ⟨r, here, Bool.and_eq_true_iff.mpr ⟨contains, ?_⟩⟩
  exact Region.contains_iff.mpr (by omega)

-- The checks of one entry.
theorem accept_iff (sound : m.Sound) {d : Descriptor} {t' : Tally} :
    accept m head i t d = .ok t' ↔
      (t.writableSeen = true → d.access = .writable) ∧ d.Placed m ∧ (t.add d).fits = true ∧
        t' = t.add d := by
  constructor
  · intro done
    obtain ⟨same, fits⟩ := accept_fits done
    refine ⟨fun seen => ?_, accept_placed done, same ▸ fits, same⟩
    unfold accept at done
    split at done
    · cases done
    rename_i follows
    cases access : d.access with
    | writable => rfl
    | readable => exact absurd ⟨access, seen⟩ follows
  · rintro ⟨follows, placed, fits, rfl⟩
    have first : ¬ (d.access = .readable ∧ t.writableSeen = true) := by
      rintro ⟨readable, seen⟩
      rw [follows seen] at readable
      cases readable
    rw [accept, if_neg first, placed_valid sound placed, fits]
    rfl

theorem Tally.add_seen (t : Tally) (d : Descriptor) :
    (t.add d).writableSeen = true ↔ t.writableSeen = true ∨ d.access = .writable := by
  unfold add
  cases access : d.access with
  | readable => simp
  | writable => simp

theorem Tally.add_lenOf (t : Tally) (d : Descriptor) (ds : List Descriptor) :
    t.readable + lenOf .readable (d :: ds) = (t.add d).readable + lenOf .readable ds ∧
      t.writable + lenOf .writable (d :: ds) = (t.add d).writable + lenOf .writable ds := by
  unfold add lenOf
  cases access : d.access with
  | readable => simp [access, Nat.add_assoc]
  | writable => simp [access, Nat.add_assoc]

-- The first entry is checked, and then the others are behind it.
theorem fit_cons (sound : m.Sound) (head : UInt16) {room : Nat} {e : TableEntry} :
    Fit m queueSize (room + 1) t ((i, e) :: visits) ↔
      i < queueSize ∧ accept m head i t e.descriptor = .ok (t.add e.descriptor) ∧
        Fit m queueSize room (t.add e.descriptor) visits := by
  have seen := t.add_seen e.descriptor
  obtain ⟨readable, writable⟩ := t.add_lenOf e.descriptor (descriptorsOf visits)
  rw [accept_iff sound, Tally.fits_iff]
  constructor
  · intro fit
    have reads := fit.readable
    have writes := fit.writable
    rw [show descriptorsOf ((i, e) :: visits) = e.descriptor :: descriptorsOf visits from rfl]
      at reads writes
    obtain ⟨first, others⟩ := List.pairwise_cons.mp fit.ordered
    refine ⟨fit.inside _ List.mem_cons_self,
      ⟨fun behind => fit.behind behind _ List.mem_cons_self, fit.placed _ List.mem_cons_self,
        ⟨by omega, by omega⟩, rfl⟩, ?_⟩
    refine ⟨Nat.le_of_succ_le_succ fit.short, fun v later => fit.inside v (.tail _ later),
      fun v later => fit.placed v (.tail _ later), fun behind v later => ?_, others,
      by omega, by omega⟩
    rcases seen.mp behind with before | here
    · exact fit.behind before v (.tail _ later)
    · exact first v later here
  · rintro ⟨inside, ⟨follows, placed, _, _⟩, fit⟩
    have reads := fit.readable
    have writes := fit.writable
    refine ⟨Nat.succ_le_succ fit.short, ?_, ?_, ?_, ?_, ?_, ?_⟩
    · intro v visited
      rcases List.mem_cons.mp visited with rfl | later
      · exact inside
      · exact fit.inside v later
    · intro v visited
      rcases List.mem_cons.mp visited with rfl | later
      · exact placed
      · exact fit.placed v later
    · intro behind v visited
      rcases List.mem_cons.mp visited with rfl | later
      · exact follows behind
      · exact fit.behind (seen.mpr (.inl behind)) v later
    · exact List.pairwise_cons.mpr
        ⟨fun v later here => fit.behind (seen.mpr (.inr here)) v later, fit.ordered⟩
    · change t.readable + lenOf .readable (e.descriptor :: descriptorsOf visits) ≤ maxBytes
      omega
    · change t.writable + lenOf .writable (e.descriptor :: descriptorsOf visits) ≤ maxBytes
      omega

theorem fit_nil {room : Nat} (fits : t.fits = true) : Fit m queueSize room t [] := by
  obtain ⟨readable, writable⟩ := Tally.fits_iff.mp fits
  exact ⟨Nat.zero_le _, nofun, nofun, fun _ => nofun, .nil, readable, writable⟩

theorem walk_iff (sound : m.Sound) {room : Nat} {ds : List Descriptor} :
    walk m table queueSize head room i t = .ok ds ↔
      ∃ visits, Trail m table i visits ∧ Fit m queueSize room t visits ∧
        ds = descriptorsOf visits := by
  induction room generalizing i t ds with
  | zero =>
      constructor
      · intro done
        unfold walk at done
        split at done <;> cases done
      · rintro ⟨visits, trail, fit, _⟩
        exact absurd (List.eq_nil_of_length_eq_zero (Nat.le_zero.mp fit.short)) trail.ne_nil
  | succ room ih =>
      constructor
      · intro done
        unfold walk at done
        split at done
        · cases done
        rename_i inside
        have inside : i < queueSize := UInt16.not_le.mp inside
        dsimp only at done
        split at done
        · cases done
        rename_i e read
        have stored := (TableEntry.read_iff sound).mp read
        split at done
        · cases done
        rename_i t' accepted
        obtain ⟨rfl, fits⟩ := accept_fits accepted
        split at done
        · rename_i final
          cases done
          exact ⟨_, .last stored final, (fit_cons sound head).mpr ⟨inside, accepted, fit_nil fits⟩, rfl⟩
        · rename_i j follows
          obtain ⟨rest, walked, rfl⟩ := Checked.map_eq_ok.mp done
          obtain ⟨visits, trail, fit, rfl⟩ := ih.mp walked
          exact ⟨_, .next stored follows trail, (fit_cons sound head).mpr ⟨inside, accepted, fit⟩, rfl⟩
      · rintro ⟨visits, trail, fit, rfl⟩
        cases trail with
        | @last _ e stored final =>
            obtain ⟨inside, accepted, _⟩ := (fit_cons sound head).mp fit
            rw [walk, if_neg (UInt16.not_le.mpr inside)]
            simp only [(TableEntry.read_iff sound).mpr stored, accepted, final]
            rfl
        | @next _ j e rest stored follows trail =>
            obtain ⟨inside, accepted, fit⟩ := (fit_cons sound head).mp fit
            rw [walk, if_neg (UInt16.not_le.mpr inside)]
            simp only [(TableEntry.read_iff sound).mpr stored, accepted, follows,
              ih.mpr ⟨rest, trail, fit, rfl⟩]
            rfl

-- The same for all that a walk visits, nothing having been counted before.
structure Admissible (m : GuestMemory) (queueSize : UInt16) (visits : List (UInt16 × TableEntry)) :
    Prop where
  short : visits.length ≤ queueSize.toNat
  inside : ∀ v ∈ visits, v.1 < queueSize
  placed : ∀ v ∈ visits, v.2.len ≠ 0 → m.Holds v.2.address v.2.len.toNat
  ordered : visits.Pairwise fun v w => v.2.access = .writable → w.2.access = .writable
  readable : lenOf .readable (descriptorsOf visits) ≤ UInt32.size - 1
  writable : lenOf .writable (descriptorsOf visits) ≤ UInt32.size - 1

theorem fit_none :
    Fit m queueSize queueSize.toNat .none visits ↔ Admissible m queueSize visits := by
  have readable : Tally.none.readable + lenOf .readable (descriptorsOf visits) =
      lenOf .readable (descriptorsOf visits) := Nat.zero_add _
  have writable : Tally.none.writable + lenOf .writable (descriptorsOf visits) =
      lenOf .writable (descriptorsOf visits) := Nat.zero_add _
  constructor
  · intro fit
    exact ⟨fit.short, fit.inside, fit.placed, fit.ordered, readable ▸ fit.readable,
      writable ▸ fit.writable⟩
  · intro admissible
    exact ⟨admissible.short, admissible.inside, admissible.placed, nofun, admissible.ordered,
      readable.symm ▸ admissible.readable, writable.symm ▸ admissible.writable⟩

-- A walk comes to an answer, and it is a chain exactly if the table leads from the head to an entry
-- without a successor through entries that are all fit for use; the chain is what they describe.
-- There is no more than one such way, and it comes by no entry twice.
theorem new_follows [Host] {ranges : List (GuestAddress × UInt64)}
    (built : GuestMemory.new ranges = .ok m₀) (layout : m.layout = m₀.layout)
    (table : GuestAddress) (queueSize head : UInt16) :
    strictNew m table queueSize head = .ok (new m table queueSize head) ∧
    (∀ c, new m table queueSize head = .ok c ↔
      ∃ visits, Trail m table head visits ∧ Admissible m queueSize visits ∧
        c = ⟨head, descriptorsOf visits⟩) ∧
    ∀ visits, Trail m table head visits →
      (visits.map Prod.fst).Nodup ∧ ∀ others, Trail m table head others → others = visits := by
  have sound := (new_sound built).congr layout
  refine ⟨strictNew_ok .., fun c => ⟨fun accepted => ?_, ?_⟩,
    fun visits trail => ⟨trail.nodup, fun others other => other.unique trail⟩⟩
  · obtain ⟨ds, walked, accepted⟩ := Checked.bind_eq_ok.mp accepted
    cases accepted
    obtain ⟨visits, trail, fit, rfl⟩ := (walk_iff sound).mp walked
    exact ⟨visits, trail, fit_none.mp fit, rfl⟩
  · rintro ⟨visits, trail, admissible, rfl⟩
    have walked : walk m table queueSize head queueSize.toNat head .none =
        .ok (descriptorsOf visits) :=
      (walk_iff sound).mpr ⟨visits, trail, fit_none.mpr admissible, rfl⟩
    exact Checked.bind_eq_ok.mpr ⟨_, walked, rfl⟩

-- A table of two entries, of which the second comes first.
theorem new_follows_backwards :
    ∃ m₀ m visits, GuestMemory.new [(0, 0x1000)] = .ok m₀ ∧ m.layout = m₀.layout ∧
      m₀.writeObject 0x100 (Bytes.ofNat 0x300 8 ++ Bytes.ofNat 8 4 ++ Bytes.ofNat 2 4 ++
        Bytes.ofNat 0x200 8 ++ Bytes.ofNat 5 4 ++ Bytes.ofNat 1 4) = .ok m ∧
      new m 0x100 2 1 = .ok ⟨1, [⟨0x200, 5, .readable⟩, ⟨0x300, 8, .writable⟩]⟩ ∧
      Trail m 0x100 1 visits ∧ Admissible m 2 visits ∧ (visits.map Prod.fst).Nodup := by
  have ran : ((GuestMemory.new [(0, 0x1000)]).toOption.any fun m₀ =>
      (m₀.writeObject 0x100 (Bytes.ofNat 0x300 8 ++ Bytes.ofNat 8 4 ++ Bytes.ofNat 2 4 ++
        Bytes.ofNat 0x200 8 ++ Bytes.ofNat 5 4 ++ Bytes.ofNat 1 4)).toOption.any fun m =>
        (new m 0x100 2 1).toOption.any fun c =>
          c = ⟨1, [⟨0x200, 5, .readable⟩, ⟨0x300, 8, .writable⟩]⟩) = true := by
    decide +kernel
  obtain ⟨m₀, built, ran⟩ := Checked.ok_of_any ran
  obtain ⟨m, wrote, ran⟩ := Checked.ok_of_any ran
  obtain ⟨c, accepted, same⟩ := Checked.ok_of_any ran
  cases of_decide_eq_true same
  have layout := (writeObject_wrote (new_sound built) wrote).2.layout
  obtain ⟨_, follows, unique⟩ := new_follows built layout 0x100 2 1
  obtain ⟨visits, trail, admissible, _⟩ := (follows _).mp accepted
  exact ⟨m₀, m, visits, built, layout, wrote, accepted, trail, admissible, (unique visits trail).1⟩

end DescriptorChain

end VmMonitor
