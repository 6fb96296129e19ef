import VmMonitor.Proofs.Bus.Asked
import VmMonitor.Proofs.Bus.Owner

/-!
The top of the address space. A window may end at the last address or reach beyond it, and the bus
takes it. Its end is then cut off one address short: nobody ever owns the last address, whoever asks
for it, and everywhere below it the windows that were taken are apart and found. One access ends the
machine, the last one of the address space on a bus with a window that holds all of it but the end.
-/

namespace VmMonitor

namespace Window

variable {w v : Window} {address : UInt64}

-- The last address of all.
def top : UInt64 := 0xffffffffffffffff

theorem top_toNat : top.toNat = UInt64.size - 1 := rfl

theorem below_top : address.toNat < UInt64.size - 1 ↔ address ≠ top := by
  have bound := address.toNat_lt
  rw [ne_eq, ← UInt64.toNat_inj, top_toNat]
  unfold UInt64.size
  omega

-- Below the last address a window contains what it covers. The last address is in no window.
theorem contains_below : w.contains address = true ↔ w.Covers address.toNat ∧ address ≠ top := by
  simp only [contains, last, Covers, Bool.and_eq_true, decide_eq_true_eq, UInt64.le_iff_toNat_le,
    ← below_top, Nat.lt_min, and_assoc]

theorem overlaps_last : w.overlaps v = false ↔ v.last ≤ w.base.toNat ∨ w.last ≤ v.base.toNat := by
  simp only [overlaps, Bool.and_eq_false_iff, decide_eq_false_iff_not]
  omega

theorem last_le (w : Window) : w.last ≤ top.toNat := Nat.min_le_right ..

-- A window has its first address below its end, unless it begins at the last address.
theorem base_last (some : w.len ≠ 0) : w.base.toNat < w.last ∨ w.base = top := by
  have positive : w.len.toNat ≠ 0 := fun zero => some (UInt64.toNat_inj.mp zero)
  by_cases here : w.base = top
  · exact .inr here
  · have below := below_top.mpr here
    unfold last
    omega

-- Of two windows that do not meet, the one that begins first ends before the other begins.
theorem ends_before (free : w.overlaps v = false) (some : v.len ≠ 0) (before : w.base < v.base) :
    w.last ≤ v.base.toNat := by
  have less := UInt64.lt_iff_toNat_lt.mp before
  have bound := last_le w
  rcases overlaps_last.mp free with ends | ends
  · rcases base_last some with inside | atTop
    · omega
    · rw [atTop]
      exact bound
  · exact ends

-- Two windows meet where they share an address below the last one.
theorem overlaps_covers (some : w.len ≠ 0) (some' : v.len ≠ 0) : w.overlaps v = false ↔
    ∀ a : UInt64, w.Covers a.toNat → v.Covers a.toNat → a = top := by
  constructor
  · intro free a one two
    refine Classical.not_not.mp fun below => ?_
    have here := contains_below.mpr ⟨one, below⟩
    have there := contains_below.mpr ⟨two, below⟩
    simp only [contains, Bool.and_eq_true, decide_eq_true_eq, UInt64.le_iff_toNat_le] at here there
    rcases overlaps_last.mp free with ends | ends <;> omega
  · intro apart
    -- If they met, they would meet where the later one begins.
    have first := apart w.base
    have second := apart v.base
    unfold Covers at first second
    rw [overlaps_last]
    have positive : w.len.toNat ≠ 0 := fun zero => some (UInt64.toNat_inj.mp zero)
    have positive' : v.len.toNat ≠ 0 := fun zero => some' (UInt64.toNat_inj.mp zero)
    by_cases order : w.base.toNat ≤ v.base.toNat
    · by_cases ends : w.last ≤ v.base.toNat
      · exact .inr ends
      · have bound := last_le w
        have atTop := second ⟨order, by unfold last at ends; omega⟩ ⟨Nat.le_refl _, by omega⟩
        rw [atTop] at ends
        exact absurd bound ends
    · by_cases ends : v.last ≤ w.base.toNat
      · exact .inl ends
      · have bound := last_le v
        have atTop := first ⟨Nat.le_refl _, by omega⟩ ⟨by omega, by unfold last at ends; omega⟩
        rw [atTop] at ends
        exact absurd bound ends

end Window

namespace Bus

open Window

variable {δ : Type} {bus bus' : Bus δ} {owners slots : List (Slot δ)} {s t : Slot δ}
  {address : UInt64} {width : Width} {direction : Direction}

-- A device comes to a place of its own, or it takes the place of one with the same base.
theorem place_split (window : Window) (d : δ) (slots : List (Slot δ)) :
    (∃ before after, slots = before ++ after ∧
      place window d slots = before ++ ⟨window, d⟩ :: after) ∨
    ∃ before u after, slots = before ++ u :: after ∧ u.window.base = window.base ∧
      place window d slots = before ++ ⟨u.window, d⟩ :: after := by
  induction slots with
  | nil => exact .inl ⟨[], [], rfl, rfl⟩
  | cons s rest ih =>
      unfold place
      split
      · exact .inl ⟨[], s :: rest, rfl, rfl⟩
      split
      · rename_i same
        exact .inr ⟨[], s, rest, rfl, same.symm, rfl⟩
      · rcases ih with ⟨before, after, rfl, placed⟩ | ⟨before, u, after, rfl, same, placed⟩
        · exact .inl ⟨s :: before, after, rfl, congrArg (s :: ·) placed⟩
        · exact .inr ⟨s :: before, u, after, rfl, same, congrArg (s :: ·) placed⟩

-- In order, none of them empty, and no two meet.
structure Stacked (slots : List (Slot δ)) : Prop where
  ordered : Ascending slots
  free : (slots.map (·.window)).Pairwise fun w v => w.overlaps v = false
  real : ∀ s ∈ slots, s.window.len ≠ 0

-- What a window needs to be taken.
def Room (slots : List (Slot δ)) (w : Window) : Prop :=
  w.len ≠ 0 ∧ ∀ t ∈ slots, t.window.overlaps w = false

theorem insert_room {d : δ} {w : Window} :
    bus.insert d w = .ok bus' ↔ Room bus.slots w ∧ bus' = ⟨place w d bus.slots⟩ := by
  unfold insert Room
  split
  · rename_i empty
    exact ⟨nofun, fun ⟨room, _⟩ => absurd empty room.1⟩
  rename_i some
  cases met : bus.slots.find? (·.window.overlaps w) with
  | none =>
      have free := List.find?_eq_none.mp met
      have room : Room bus.slots w := ⟨some, fun t here => by simpa using free t here⟩
      refine ⟨fun done => ⟨room, ?_⟩, fun ⟨_, same⟩ => ?_⟩
      · cases done
        rfl
      · rw [same]
  | some t =>
      have meets : t.window.overlaps w = true := by simpa using List.find?_some met
      refine ⟨nofun, fun ⟨room, _⟩ => ?_⟩
      rw [room.2 t (List.mem_of_find?_eq_some met)] at meets
      cases meets

-- Nobody gives way to a device that is let in, unless it asks for the last address.
theorem place_stacked (stacked : Stacked slots) (room : Room slots s.window) :
    Stacked (place s.window s.device slots) ∧ ∀ t : Slot δ, t.window.base ≠ top →
      (t ∈ place s.window s.device slots ↔ t ∈ slots ∨ t = s) := by
  have ordered : Ascending (place s.window s.device slots) := place_ascending stacked.ordered
  have free := stacked.free
  have real := stacked.real
  rcases place_split s.window s.device slots with
    ⟨before, after, rfl, placed⟩ | ⟨before, u, after, rfl, same, placed⟩
  · rw [placed] at ordered ⊢
    have perm : (before ++ s :: after).Perm (s :: (before ++ after)) := List.perm_middle
    refine ⟨⟨ordered, ?_, fun t present => ?_⟩, fun t _ => ?_⟩
    · refine ((perm.map (·.window)).pairwise_iff fun {w v} free => ?_).mpr
        (List.pairwise_cons.mpr ⟨fun w present => ?_, free⟩)
      · exact overlaps_last.mpr (overlaps_last.mp free).symm
      · obtain ⟨t, old, rfl⟩ := List.mem_map.mp present
        exact overlaps_last.mpr (overlaps_last.mp (room.2 t old)).symm
    · rcases List.mem_cons.mp (perm.mem_iff.mp present) with rfl | old
      · exact room.1
      · exact real t old
    · exact perm.mem_iff.trans (List.mem_cons.trans or_comm)
  · -- Two windows with one base that do not meet are both at the last address.
    have here : u ∈ before ++ u :: after := List.mem_append_right _ List.mem_cons_self
    have atTop : u.window.base = top := by
      rcases base_last (real u here) with inside | atTop
      · rcases base_last room.1 with inside' | atTop'
        · have ends := overlaps_last.mp (room.2 u here)
          rw [same] at inside ends
          omega
        · exact same.trans atTop'
      · exact atTop
    rw [placed] at ordered ⊢
    refine ⟨⟨ordered, by simpa using free, fun t present => ?_⟩, fun t below => ?_⟩
    · rcases List.mem_append.mp present with old | there
      · exact real t (List.mem_append_left _ old)
      · rcases List.mem_cons.mp there with rfl | old
        · exact real u here
        · exact real t (List.mem_append_right _ (List.mem_cons_of_mem _ old))
    · have notNew : t ≠ s := by
        rintro rfl
        exact below (same.symm.trans atTop)
      have notOld (d : δ) : t ≠ ⟨u.window, d⟩ := by
        rintro rfl
        exact below atTop
      simp only [List.mem_append, List.mem_cons, notNew, notOld u.device, notOld s.device,
        false_or, or_false]

-- Those of the offers that a bus takes, by its own answers.
def taken (bus : Bus δ) : List (Slot δ) → List (Slot δ)
  | [] => []
  | s :: rest =>
      if (bus.insert s.device s.window).isOk then s :: taken (bus.offer s) rest
      else taken (bus.offer s) rest

-- How a bus stands to the devices that it took.
structure Serves (bus : Bus δ) (owners : List (Slot δ)) : Prop where
  stacked : Stacked bus.slots
  kept : ∀ s : Slot δ, s.window.base ≠ top → (s ∈ bus.slots ↔ s ∈ owners)
  real : ∀ s ∈ owners, s.window.len ≠ 0
  apart : owners.Pairwise fun s t =>
    ∀ a : UInt64, s.window.Covers a.toNat → t.window.Covers a.toNat → a = top

theorem empty_serves : Serves (empty : Bus δ) [] :=
  ⟨⟨.nil, .nil, nofun⟩, fun _ _ => ⟨nofun, nofun⟩, nofun, .nil⟩

theorem covers_base {w : Window} (inside : w.Covers address.toNat) (below : address ≠ top) :
    w.base ≠ top := by
  intro atTop
  have first := inside.1
  rw [atTop] at first
  exact absurd (below_top.mpr below) (Nat.not_lt.mpr first)

-- There is room exactly for what shares no address below the last one with an owner.
theorem Serves.room (serves : Serves bus owners) (w : Window) : Room bus.slots w ↔
    w.len ≠ 0 ∧ ∀ t ∈ owners, ∀ a : UInt64,
      t.window.Covers a.toNat → w.Covers a.toNat → a = top := by
  refine and_congr_right fun some => ⟨fun free t taken a one two => ?_, fun apart t here => ?_⟩
  · refine Classical.not_not.mp fun below => ?_
    have here := (serves.kept t (covers_base one below)).mpr taken
    exact below ((overlaps_covers (serves.real t taken) some).mp (free t here) a one two)
  · refine (overlaps_covers (serves.stacked.real t here) some).mpr fun a one two => ?_
    refine Classical.not_not.mp fun below => ?_
    have taken := (serves.kept t (covers_base one below)).mp here
    exact below (apart t taken a one two)

theorem Serves.offer (serves : Serves bus owners) (s : Slot δ) : Serves (bus.offer s)
    (owners ++ if (bus.insert s.device s.window).isOk then [s] else []) := by
  unfold Bus.offer
  cases done : bus.insert s.device s.window with
  | error e => simpa [Except.isOk, Except.toBool] using serves
  | ok bus' =>
      obtain ⟨room, rfl⟩ := insert_room.mp done
      obtain ⟨stacked, members⟩ := place_stacked serves.stacked room
      obtain ⟨some, apart⟩ := (serves.room s.window).mp room
      refine ⟨stacked, fun t below => ?_, fun t present => ?_, ?_⟩
      · rw [members t below, serves.kept t below]
        simp [Except.isOk, Except.toBool]
      · rcases List.mem_append.mp present with old | new
        · exact serves.real t old
        · cases List.mem_singleton.mp new
          exact some
      · refine List.pairwise_append.mpr ⟨serves.apart, List.pairwise_singleton .., ?_⟩
        intro t old u new
        cases List.mem_singleton.mp new
        exact apart t old

theorem Serves.offers (serves : Serves bus owners) (offers : List (Slot δ)) :
    Serves (offers.foldl Bus.offer bus) (owners ++ taken bus offers) := by
  induction offers generalizing bus owners with
  | nil => simpa [taken] using serves
  | cons s rest ih =>
      have next := ih (serves.offer s)
      unfold taken
      split at next <;> rename_i answer
      · rw [if_pos answer]
        simpa using next
      · rw [if_neg answer]
        simpa using next

theorem build_serves (offers : List (Slot δ)) : Serves (build offers) (taken empty offers) :=
  empty_serves.offers offers

theorem Stacked.slotFor (stacked : Stacked bus.slots) (here : s ∈ bus.slots)
    (inside : s.window.contains address = true) : bus.slotFor? address = some s := by
  obtain ⟨before, after, split⟩ := List.append_of_mem here
  have ordered := stacked.ordered
  have free := stacked.free
  rw [split] at ordered free
  refine slotFor_last split (fun t later => ?_) inside
  have above := List.rel_of_pairwise_cons (List.pairwise_append.mp ordered).2.1 later
  rw [List.map_append, List.map_cons] at free
  have apart : s.window.overlaps t.window = false :=
    List.rel_of_pairwise_cons (List.pairwise_append.mp free).2.1 (List.mem_map_of_mem later)
  have real := stacked.real t (by rw [split]; simp [later])
  have ends := ends_before apart real above
  have below : address.toNat < s.window.last := of_decide_eq_true (Bool.and_eq_true_iff.mp inside).2
  exact UInt64.lt_iff_toNat_lt.mpr (by omega)

theorem slotFor_contains (found : bus.slotFor? address = some s) :
    s ∈ bus.slots ∧ s.window.contains address = true := by
  obtain ⟨last, inside⟩ := Option.filter_eq_some_iff.mp found
  exact ⟨(List.mem_filter.mp (List.mem_of_getLast? last)).1, inside⟩

-- The access that ends the machine: it ends at the last address, and all but its end is in a window
-- that begins at the first one.
def Overrun (owners : List (Slot δ)) (address : UInt64) (width : Width) : Prop :=
  address ≠ top ∧ address.toNat + width.bytes = UInt64.size ∧
    ∃ s ∈ owners, s.window.base = 0 ∧ s.window.Covers address.toNat

theorem Serves.overrun (serves : Serves bus owners) (fault : Fault) :
    bus.route address width direction = .error fault ↔
      Overrun owners address width ∧ fault = .overflow := by
  have small := width.bytes_le
  by_cases aligned : address.toNat % width.bytes = 0
  · have reach : address.toNat + width.bytes ≤ UInt64.size := by
      have bound := address.toNat_lt
      unfold UInt64.size
      cases width <;> simp only [Width.bytes] at aligned ⊢ <;> omega
    constructor
    · intro ended
      cases found : bus.slotFor? address with
      | none =>
          simp only [route, aligned, found, ne_eq, not_true_eq_false, if_false] at ended
          cases ended
      | some s =>
          obtain ⟨here, inside⟩ := slotFor_contains found
          obtain ⟨covers, below⟩ := contains_below.mp inside
          rw [route_sum aligned found (UInt64.le_iff_toNat_le.mpr covers.1)] at ended
          split at ended
          · cases ended
          · rename_i full
            cases ended
            have first := covers.1
            have base : s.window.base.toNat = 0 := by omega
            exact ⟨⟨below, by omega, s, (serves.kept s (covers_base covers below)).mp here,
              UInt64.toNat_inj.mp base, covers⟩, rfl⟩
    · rintro ⟨⟨below, whole, s, taken, first, covers⟩, rfl⟩
      have here := (serves.kept s (covers_base covers below)).mpr taken
      have found := serves.stacked.slotFor here (contains_below.mpr ⟨covers, below⟩)
      rw [route_sum aligned found (UInt64.le_iff_toNat_le.mpr covers.1), if_neg]
      rw [first, UInt64.toNat_zero]
      omega
  · rw [route_misaligned aligned]
    constructor
    · intro ended
      cases ended
    · rintro ⟨⟨_, whole, _⟩, _⟩
      refine absurd ?_ aligned
      unfold UInt64.size at whole
      cases width <;> simp only [Width.bytes] at whole ⊢ <;> omega

section Access

variable [BusDevice δ] {board : Board} {value : UInt64} {fault : Fault}

-- An access ends the machine on its way to the device or in the device that it reaches.

theorem read_faults : bus.read board address width = .error fault ↔
    bus.route address width .read = .error fault ∨ ∃ s access,
      bus.route address width .read = .ok (.ok (s, access)) ∧
      BusDevice.read s.device board access = .error fault := by
  unfold read
  cases bus.route address width .read with
  | error f => simp [bind, Except.bind]
  | ok routed =>
      cases routed with
      | error e => simp [bind, Except.bind, pure, Except.pure]
      | ok target =>
          obtain ⟨s, access⟩ := target
          dsimp only [bind, Except.bind]
          cases answered : BusDevice.read s.device board access <;>
            simp [pure, Except.pure, answered]

theorem write_faults : bus.write board address width value = .error fault ↔
    bus.route address width .write = .error fault ∨ ∃ s access,
      bus.route address width .write = .ok (.ok (s, access)) ∧
      BusDevice.write s.device board access (value &&& width.mask) = .error fault := by
  unfold write
  cases bus.route address width .write with
  | error f => simp [bind, Except.bind]
  | ok routed =>
      cases routed with
      | error e => simp [bind, Except.bind, pure, Except.pure]
      | ok target =>
          obtain ⟨s, access⟩ := target
          dsimp only [bind, Except.bind]
          cases answered : BusDevice.write s.device board access (value &&& width.mask) <;>
            simp [pure, Except.pure, answered]

-- Whatever is offered, wherever it lies: the bus refuses what is empty or shares an address below
-- the last one with what it took before. Those it took share none, and each is found at all its
-- addresses, the last one of all aside, where nobody is ever found. An access that no device ends
-- is ended by the bus in one case only.
theorem build_edge (offers : List (Slot δ)) :
    (∀ s : Slot δ, (∃ bus', (build offers).insert s.device s.window = .ok bus') ↔
      s.window.len ≠ 0 ∧ ∀ t ∈ taken empty offers, ∀ a : UInt64,
        t.window.Covers a.toNat → s.window.Covers a.toNat → a = top) ∧
    ((taken empty offers).Pairwise fun s t => ∀ a : UInt64,
      s.window.Covers a.toNat → t.window.Covers a.toNat → a = top) ∧
    (∀ s ∈ taken empty offers, ∀ a : UInt64, s.window.Covers a.toNat →
      (build offers).slotFor? a = if a = top then none else some s) ∧
    ∀ (board : Board) (address : UInt64) (width : Width) (value : UInt64) (fault : Fault),
      ((build offers).read board address width = .error fault ↔
        (Overrun (taken empty offers) address width ∧ fault = .overflow) ∨ ∃ s access,
          (build offers).route address width .read = .ok (.ok (s, access)) ∧
          BusDevice.read s.device board access = .error fault) ∧
      ((build offers).write board address width value = .error fault ↔
        (Overrun (taken empty offers) address width ∧ fault = .overflow) ∨ ∃ s access,
          (build offers).route address width .write = .ok (.ok (s, access)) ∧
          BusDevice.write s.device board access (value &&& width.mask) = .error fault) := by
  have serves := build_serves offers
  refine ⟨fun s => ?_, serves.apart, fun s owner a inside => ?_,
    fun board address width value fault => ⟨?_, ?_⟩⟩
  · rw [← serves.room s.window]
    exact ⟨fun ⟨_, done⟩ => (insert_room.mp done).1, fun room => ⟨_, insert_room.mpr ⟨room, rfl⟩⟩⟩
  · split
    · rename_i atTop
      refine Option.eq_none_iff_forall_ne_some.mpr fun t found => ?_
      exact (contains_below.mp (slotFor_contains found).2).2 atTop
    · rename_i below
      have here := (serves.kept s (covers_base inside below)).mpr owner
      exact serves.stacked.slotFor here (contains_below.mpr ⟨inside, below⟩)
  · rw [read_faults, serves.overrun]
  · rw [write_faults, serves.overrun]

-- Two neighbours of which the second reaches past the end, and one that is refused between them.
def uppermost : List (Slot Bench.Echo) :=
  [⟨⟨0xffffffffffffffe0, 0x10⟩, ⟨false, []⟩⟩, ⟨⟨0xffffffffffffffe8, 0x10⟩, ⟨false, []⟩⟩,
    ⟨⟨0xfffffffffffffff0, 0x100⟩, ⟨true, []⟩⟩]

theorem build_edge_uppermost :
    (¬ ∃ bus', (build uppermost).insert ⟨false, []⟩ ⟨0xffffffffffffffef, 1⟩ = .ok bus') ∧
    (build uppermost).slotFor? 0xfffffffffffffffe =
      some ⟨⟨0xfffffffffffffff0, 0x100⟩, ⟨true, []⟩⟩ ∧
    (build uppermost).slotFor? top = none ∧
    ∀ (board : Board) (fault : Fault),
      (build uppermost).read board 0xfffffffffffffff8 .double ≠ .error fault := by
  have owners : taken empty uppermost =
      [⟨⟨0xffffffffffffffe0, 0x10⟩, ⟨false, []⟩⟩, ⟨⟨0xfffffffffffffff0, 0x100⟩, ⟨true, []⟩⟩] := rfl
  obtain ⟨inserts, _, found, accesses⟩ := build_edge uppermost
  rw [owners] at inserts found accesses
  have second := found ⟨⟨0xfffffffffffffff0, 0x100⟩, ⟨true, []⟩⟩ (List.mem_pair.mpr (.inr rfl))
  refine ⟨fun inserted => ?_, second 0xfffffffffffffffe ⟨by decide, by decide⟩,
    second top ⟨by decide, by decide⟩, fun board fault ended => ?_⟩
  · have free := ((inserts ⟨⟨0xffffffffffffffef, 1⟩, ⟨false, []⟩⟩).mp inserted).2
    exact absurd (free _ List.mem_cons_self 0xffffffffffffffef ⟨by decide, by decide⟩
      ⟨by decide, by decide⟩) (by decide)
  · rcases (accesses board 0xfffffffffffffff8 .double 0 fault).1.mp ended with
      ⟨⟨_, _, s, owner, first, _⟩, _⟩ | ⟨s, access, _, asked⟩
    · rcases List.mem_pair.mp owner with rfl | rfl <;> exact absurd first (by decide)
    · cases asked

-- A window up to the end of the address space does not own its last address, two devices are both
-- given the last address, and one that reaches almost everywhere ends the machine.
theorem edge_unowned :
    let upper : Slot Bench.Echo := ⟨⟨0xfffffffffffffff8, 8⟩, ⟨false, []⟩⟩
    let one : Slot Bench.Echo := ⟨⟨top, 1⟩, ⟨false, []⟩⟩
    let whole : Slot Bench.Echo := ⟨⟨0, top⟩, ⟨false, []⟩⟩
    (taken empty [upper] = [upper] ∧ upper.window.Covers top.toNat ∧
      (build [upper]).find? top = none) ∧
    (taken empty [one, one] = [one, one] ∧ one.window.Covers top.toNat) ∧
    taken empty [whole] = [whole] ∧ ∀ board : Board,
      (build [whole]).read board 0xfffffffffffffff8 .double = .error .overflow :=
  ⟨⟨rfl, ⟨by decide, by decide⟩, rfl⟩, ⟨rfl, by decide, by decide⟩, rfl, fun _ => rfl⟩

end Access

end Bus

end VmMonitor
