import Mathlib.Data.List.Perm.Basic
import Mathlib.Data.Nat.Bitwise
import VmMonitor.Bench.Devices
import VmMonitor.Bus.Basic

/-!
Who owns an address. Devices are offered to a bus one after the other. The bus takes those whose
window touches none of the windows it has, and keeps what it took in order and apart. So the last
window that begins at or below an address is the only one that can hold it, and an access reaches
the device behind that window or nobody.
-/

namespace VmMonitor

-- What is left of a value that travels at this width.
def Width.truncate (w : Width) (value : UInt64) : UInt64 :=
  UInt64.ofNat (value.toNat % 2 ^ (8 * w.bytes))

theorem Width.and_mask (w : Width) (value : UInt64) : value &&& w.mask = w.truncate value := by
  have mask : w.mask.toNat = 2 ^ (8 * w.bytes) - 1 := by cases w <;> rfl
  have below : 2 ^ (8 * w.bytes) ≤ UInt64.size := by cases w <;> decide
  have inside := Nat.mod_lt value.toNat (Nat.two_pow_pos (8 * w.bytes))
  apply UInt64.toNat_inj.mp
  rw [UInt64.toNat_and, mask, Nat.and_two_pow_sub_one_eq_mod, truncate,
    UInt64.toNat_ofNat_of_lt' (by omega)]

theorem Width.truncate_toNat (w : Width) (value : UInt64) :
    (w.truncate value).toNat = value.toNat % 2 ^ (8 * w.bytes) := by
  have mask : w.mask.toNat = 2 ^ (8 * w.bytes) - 1 := by cases w <;> rfl
  rw [← and_mask, UInt64.toNat_and, mask, Nat.and_two_pow_sub_one_eq_mod]

theorem Width.truncate_truncate (w : Width) (value : UInt64) :
    w.truncate (w.truncate value) = w.truncate value := by
  rw [← and_mask, ← and_mask, UInt64.and_assoc, UInt64.and_self]

theorem Width.bytes_pos (w : Width) : 0 < w.bytes := by cases w <;> decide

theorem Width.bytes_le (w : Width) : w.bytes ≤ 8 := by cases w <;> decide

namespace Window

variable {w v : Window} {address : UInt64} {width : Width}

-- A window is the set of the addresses inside it.
def Covers (w : Window) (x : Nat) : Prop :=
  w.base.toNat ≤ x ∧ x < w.base.toNat + w.len.toNat

def Apart (w v : Window) : Prop := ∀ x, w.Covers x → ¬ v.Covers x

-- All bytes of an access are inside.
def Holds (w : Window) (address : UInt64) (width : Width) : Prop :=
  ∀ x, address.toNat ≤ x → x < address.toNat + width.bytes → w.Covers x

-- The end of the window is an address, and 32 bits hold its length.
def Fits (w : Window) : Prop := w.base.toNat + w.len.toNat < UInt64.size ∧ w.len.toNat < 2 ^ 32

instance : Decidable w.Fits := inferInstanceAs (Decidable (_ ∧ _))

theorem apart_iff : w.Apart v ↔ w.len = 0 ∨ v.len = 0 ∨
    w.base.toNat + w.len.toNat ≤ v.base.toNat ∨ v.base.toNat + v.len.toNat ≤ w.base.toNat := by
  simp only [← UInt64.toNat_inj, UInt64.toNat_zero]
  constructor
  · intro apart
    -- If they met, they would meet where the later one begins.
    have meet := apart (max w.base.toNat v.base.toNat)
    unfold Covers at meet
    omega
  · intro order x one two
    unfold Covers at one two
    omega

theorem Apart.symm (apart : w.Apart v) : v.Apart w := fun x one two => apart x two one

instance : Decidable (w.Apart v) := decidable_of_iff _ apart_iff.symm

theorem holds_iff : w.Holds address width ↔ w.base.toNat ≤ address.toNat ∧
    address.toNat + width.bytes ≤ w.base.toNat + w.len.toNat := by
  have some := width.bytes_pos
  constructor
  · intro holds
    have first := holds address.toNat (by omega) (by omega)
    have final := holds (address.toNat + width.bytes - 1) (by omega) (by omega)
    unfold Covers at first final
    omega
  · intro inside x above below
    unfold Covers
    omega

theorem last_fits (fits : w.Fits) : w.last = w.base.toNat + w.len.toNat := by
  unfold last
  have room := fits.1
  omega

theorem contains_iff (fits : w.Fits) : w.contains address = true ↔ w.Covers address.toNat := by
  simp [contains, Covers, last_fits fits, UInt64.le_iff_toNat_le]

theorem overlaps_iff (fits : w.Fits) (fits' : v.Fits) (some : w.len ≠ 0) (some' : v.len ≠ 0) :
    w.overlaps v = false ↔ w.Apart v := by
  rw [apart_iff]
  simp only [overlaps, last_fits fits, last_fits fits', Bool.and_eq_false_iff,
    decide_eq_false_iff_not, some, some', false_or]
  omega

end Window

namespace Bus

variable {δ : Type} {bus : Bus δ} {slots : List (Slot δ)} {s t : Slot δ} {address : UInt64}
  {width : Width} {direction : Direction}

-- The windows are real, in order and apart.
structure Tiled (slots : List (Slot δ)) : Prop where
  ordered : slots.Pairwise fun s t =>
    s.window.base.toNat + s.window.len.toNat ≤ t.window.base.toNat
  proper : ∀ s ∈ slots, s.window.len ≠ 0 ∧ s.window.Fits

-- There is room for a device beside these.
def Admits (owners : List (Slot δ)) (s : Slot δ) : Prop :=
  s.window.len ≠ 0 ∧ ∀ t ∈ owners, s.window.Apart t.window

instance : Decidable (Admits slots s) := by unfold Admits; infer_instance

theorem empty_tiled : Tiled (empty : Bus δ).slots := ⟨.nil, nofun⟩

-- A window that is apart from all others gets a slot of its own, in its place.
theorem place_tiled (tiled : Tiled slots) (fits : s.window.Fits) (room : Admits slots s) :
    (place s.window s.device slots).Perm (s :: slots) ∧
      Tiled (place s.window s.device slots) := by
  obtain ⟨real, free⟩ := room
  induction slots with
  | nil => exact ⟨.refl _, List.pairwise_singleton .., by simpa [place] using ⟨real, fits⟩⟩
  | cons t rest ih =>
      have here := tiled.proper t (List.mem_cons_self ..)
      have apart := Window.apart_iff.mp (free t (List.mem_cons_self ..))
      have first := (List.pairwise_cons.mp tiled.ordered).1
      have positive : s.window.len.toNat ≠ 0 := fun zero => real (UInt64.toNat_inj.mp zero)
      have positive' : t.window.len.toNat ≠ 0 := fun zero => here.1 (UInt64.toNat_inj.mp zero)
      simp only [real, here.1, false_or] at apart
      unfold place
      by_cases before : s.window.base < t.window.base
      · rw [if_pos before]
        have below := UInt64.lt_iff_toNat_lt.mp before
        refine ⟨.refl _, List.pairwise_cons.mpr ⟨fun u later => ?_, tiled.ordered⟩, ?_⟩
        · rcases List.mem_cons.mp later with rfl | later
          · dsimp only; omega
          · have next := first u later
            dsimp only
            omega
        · intro u present
          rcases List.mem_cons.mp present with rfl | old
          · exact ⟨real, fits⟩
          · exact tiled.proper u old
      · have above := Nat.not_lt.mp fun less => before (UInt64.lt_iff_toNat_lt.mpr less)
        have other : s.window.base ≠ t.window.base := by
          intro equal
          rw [equal] at apart
          omega
        rw [if_neg before, if_neg other]
        obtain ⟨perm, rest'⟩ := ih ⟨tiled.ordered.of_cons, fun u later =>
          tiled.proper u (List.mem_cons_of_mem _ later)⟩ fun u later =>
            free u (List.mem_cons_of_mem _ later)
        refine ⟨(perm.cons t).trans (.swap ..), List.pairwise_cons.mpr ⟨?_, rest'.ordered⟩, ?_⟩
        · intro u later
          rcases List.mem_cons.mp (perm.mem_iff.mp later) with rfl | old
          · omega
          · exact first u old
        · intro u present
          rcases List.mem_cons.mp present with rfl | later
          · exact here
          · exact rest'.proper u later

theorem insert_parts (tiled : Tiled bus.slots) (fits : s.window.Fits) :
    (Admits bus.slots s ∧
      bus.insert s.device s.window = .ok ⟨place s.window s.device bus.slots⟩) ∨
    (¬ Admits bus.slots s ∧ ∃ e, bus.insert s.device s.window = .error e) := by
  unfold insert
  by_cases real : s.window.len = 0
  · rw [if_pos real]
    exact .inr ⟨fun room => room.1 real, _, rfl⟩
  rw [if_neg real]
  cases met : bus.slots.find? (·.window.overlaps s.window) with
  | none =>
      refine .inl ⟨⟨real, fun t here => ?_⟩, rfl⟩
      have free := List.find?_eq_none.mp met t here
      obtain ⟨real', fits'⟩ := tiled.proper t here
      exact ((Window.overlaps_iff fits' fits real' real).mp (by simpa using free)).symm
  | some t =>
      have here := List.mem_of_find?_eq_some met
      have meets : t.window.overlaps s.window = true := by simpa using List.find?_some met
      obtain ⟨real', fits'⟩ := tiled.proper t here
      refine .inr ⟨fun room => ?_, _, rfl⟩
      rw [(Window.overlaps_iff fits' fits real' real).mpr (room.2 t here).symm] at meets
      cases meets

-- Devices with the windows they ask for, one after the other. A refused one leaves no trace.
def offer (bus : Bus δ) (s : Slot δ) : Bus δ :=
  match bus.insert s.device s.window with
  | .ok bus' => bus'
  | .error _ => bus

def build (offers : List (Slot δ)) : Bus δ := offers.foldl offer empty

-- Who is taken, without a look at the bus.
def accept (owners : List (Slot δ)) (s : Slot δ) : List (Slot δ) :=
  if Admits owners s then owners ++ [s] else owners

def accepted (offers : List (Slot δ)) : List (Slot δ) := offers.foldl accept []

theorem admits_perm {owners : List (Slot δ)} (same : slots.Perm owners) :
    Admits slots s ↔ Admits owners s := by
  simp only [Admits, same.mem_iff]

theorem offer_tiled {owners : List (Slot δ)} (tiled : Tiled bus.slots)
    (same : bus.slots.Perm owners) (fits : s.window.Fits) :
    Tiled (bus.offer s).slots ∧ (bus.offer s).slots.Perm (accept owners s) := by
  unfold offer accept
  rcases insert_parts tiled fits with ⟨room, done⟩ | ⟨full, e, done⟩
  · rw [done, if_pos ((admits_perm same).mp room)]
    obtain ⟨perm, tiled'⟩ := place_tiled tiled fits room
    exact ⟨tiled', perm.trans ((same.cons s).trans (List.perm_append_singleton s owners).symm)⟩
  · rw [done, if_neg fun room => full ((admits_perm same).mpr room)]
    exact ⟨tiled, same⟩

theorem offers_tiled {offers owners : List (Slot δ)} (tiled : Tiled bus.slots)
    (same : bus.slots.Perm owners) (fits : ∀ s ∈ offers, s.window.Fits) :
    Tiled (offers.foldl offer bus).slots ∧
      (offers.foldl offer bus).slots.Perm (offers.foldl accept owners) := by
  induction offers generalizing bus owners with
  | nil => exact ⟨tiled, same⟩
  | cons s rest ih =>
      obtain ⟨tiled', same'⟩ := offer_tiled tiled same (fits s (List.mem_cons_self ..))
      exact ih tiled' same' fun t later => fits t (List.mem_cons_of_mem _ later)

theorem build_tiled {offers : List (Slot δ)} (fits : ∀ s ∈ offers, s.window.Fits) :
    Tiled (build offers).slots ∧ (build offers).slots.Perm (accepted offers) :=
  offers_tiled empty_tiled (.refl _) fits

-- The owner is the last of those that begin at or below the address.
theorem slotFor_last {before after : List (Slot δ)} (split : bus.slots = before ++ s :: after)
    (past : ∀ t ∈ after, address < t.window.base) (inside : s.window.contains address = true) :
    bus.slotFor? address = some s := by
  have none : after.filter (·.window.base ≤ address) = [] :=
    List.filter_eq_nil_iff.mpr fun t later below =>
      absurd (past t later) (UInt64.not_lt.mpr (of_decide_eq_true below))
  have own : s.window.base ≤ address :=
    of_decide_eq_true (Bool.and_eq_true_iff.mp inside).1
  unfold slotFor?
  rw [split, List.filter_append, List.filter_cons_of_pos (by simpa using own), none,
    List.getLast?_concat]
  exact Option.filter_eq_some_iff.mpr ⟨rfl, inside⟩

-- Of the windows that begin at or below an address inside one of them, that one is the last.
theorem slotFor_covers (tiled : Tiled bus.slots) (here : s ∈ bus.slots)
    (inside : s.window.Covers address.toNat) : bus.slotFor? address = some s := by
  obtain ⟨before, after, split⟩ := List.append_of_mem here
  have ordered := tiled.ordered
  rw [split] at ordered
  refine slotFor_last split (fun t later => ?_)
    ((Window.contains_iff (tiled.proper s here).2).mpr inside)
  have next := List.rel_of_pairwise_cons (List.pairwise_append.mp ordered).2.1 later
  have bound := inside.2
  exact UInt64.lt_iff_toNat_lt.mpr (by omega)

theorem slotFor_parts (tiled : Tiled bus.slots) (found : bus.slotFor? address = some s) :
    s ∈ bus.slots ∧ s.window.Covers address.toNat := by
  obtain ⟨last, inside⟩ := Option.filter_eq_some_iff.mp found
  have here := (List.mem_filter.mp (List.mem_of_getLast? last)).1
  exact ⟨here, (Window.contains_iff (tiled.proper s here).2).mp inside⟩

theorem route_misaligned (odd : address.toNat % width.bytes ≠ 0) :
    bus.route address width direction = .ok (.error (.misaligned address width direction)) := by
  simp only [route, if_pos odd]
  rfl

-- The sum of the offset and the width is the one that may leave 64 bits.
theorem route_sum (aligned : address.toNat % width.bytes = 0)
    (found : bus.slotFor? address = some s) (above : s.window.base ≤ address) :
    bus.route address width direction =
      if address.toNat - s.window.base.toNat + width.bytes < UInt64.size then
        .ok (if s.window.len.toNat < address.toNat - s.window.base.toNat + width.bytes
          then .error (.unsupported address width direction)
          else .ok (s, ⟨address - s.window.base, address, width⟩))
      else .error .overflow := by
  have offset := UInt64.toNat_sub_of_le _ _ above
  have bytes : (UInt64.ofNat width.bytes).toNat = width.bytes := by cases width <;> rfl
  simp only [route, aligned, found, Checked.sub, if_pos above, Checked.add, offset, bytes,
    ne_eq, not_true_eq_false, if_false, bind, Except.bind]
  by_cases room : address.toNat - s.window.base.toNat + width.bytes < UInt64.size
  · have reach : (address - s.window.base + UInt64.ofNat width.bytes).toNat =
        address.toNat - s.window.base.toNat + width.bytes := by
      rw [UInt64.toNat_add, offset, bytes, Nat.mod_eq_of_lt room]
    simp only [if_pos room, UInt64.lt_iff_toNat_lt, reach]
    split <;> rfl
  · simp only [if_neg room]

-- No sum on the way leaves 64 bits, because no window is longer than 32 bits can say.
theorem route_found (aligned : address.toNat % width.bytes = 0) (tiled : Tiled bus.slots)
    (found : bus.slotFor? address = some s) :
    bus.route address width direction = .ok
      (if s.window.len.toNat < address.toNat - s.window.base.toNat + width.bytes
        then .error (.unsupported address width direction)
        else .ok (s, ⟨address - s.window.base, address, width⟩)) := by
  obtain ⟨here, inside⟩ := slotFor_parts tiled found
  have short := (tiled.proper s here).2.2
  have small := width.bytes_le
  have below := inside.2
  rw [route_sum aligned found (UInt64.le_iff_toNat_le.mpr inside.1), if_pos]
  unfold UInt64.size
  omega

theorem route_owner (aligned : address.toNat % width.bytes = 0) (tiled : Tiled bus.slots)
    (here : s ∈ bus.slots) (holds : s.window.Holds address width) :
    bus.route address width direction =
      .ok (.ok (s, ⟨address - s.window.base, address, width⟩)) := by
  have inside := Window.holds_iff.mp holds
  have some := width.bytes_pos
  rw [route_found aligned tiled (slotFor_covers tiled here (holds _ (by omega) (by omega))),
    if_neg (by omega)]

theorem route_ownerless (aligned : address.toNat % width.bytes = 0) (tiled : Tiled bus.slots)
    (nobody : ∀ s ∈ bus.slots, ¬ s.window.Holds address width) :
    bus.route address width direction = .ok (.error (.unsupported address width direction)) := by
  cases found : bus.slotFor? address with
  | none =>
      simp only [route, aligned, found, ne_eq, not_true_eq_false, if_false]
      rfl
  | some s =>
      obtain ⟨here, inside⟩ := slotFor_parts tiled found
      have short := mt Window.holds_iff.mpr (nobody s here)
      have first := inside.1
      rw [route_found aligned tiled found, if_pos (by omega)]

theorem map_others {base : UInt64} (d : δ) (other : ∀ t ∈ slots, t.window.base ≠ base) :
    slots.map (fun t => if t.window.base = base then { t with device := d } else t) = slots := by
  refine (List.map_congr_left fun t present => ?_).trans (List.map_id slots)
  rw [if_neg (other t present), id]

-- No two slots begin at the same address, so a new device goes to one slot only.
theorem Tiled.setDevice (tiled : Tiled bus.slots) (here : s ∈ bus.slots) :
    ∃ before after, bus.slots = before ++ s :: after ∧
      ∀ d, bus.setDevice s.window.base d = ⟨before ++ ⟨s.window, d⟩ :: after⟩ := by
  obtain ⟨before, after, split⟩ := List.append_of_mem here
  have ordered := tiled.ordered
  rw [split] at ordered
  obtain ⟨_, later, apart⟩ := List.pairwise_append.mp ordered
  have positive : ∀ {t : Slot δ}, t ∈ bus.slots → t.window.len.toNat ≠ 0 :=
    fun present zero => (tiled.proper _ present).1 (UInt64.toNat_inj.mp zero)
  refine ⟨before, after, split, fun d => ?_⟩
  unfold Bus.setDevice
  rw [split, List.map_append, List.map_cons, if_pos rfl, map_others d, map_others d]
  · intro t present equal
    have order := List.rel_of_pairwise_cons later present
    have real := positive here
    rw [equal] at order
    omega
  · intro t present equal
    have order := apart t present s (List.mem_cons_self ..)
    have real := positive (t := t) (by rw [split]; exact List.mem_append_left _ present)
    rw [equal] at order
    omega

section Access

variable [BusDevice δ] {board : Board} {value : UInt64} {e : BusError}

-- An access that is not routed asks no device anything.

theorem read_unrouted (refused : bus.route address width .read = .ok (.error e)) :
    bus.read board address width = .ok ⟨.error e, bus, board⟩ := by
  simp only [read, refused]
  rfl

theorem write_unrouted (refused : bus.route address width .write = .ok (.error e)) :
    bus.write board address width value = .ok ⟨.error e, bus, board⟩ := by
  simp only [write, refused]
  rfl

-- One that is routed is one question to one device, whose answer it is. The devices before and
-- after that one are neither asked nor changed.

structure ReadsAt (bus : Bus δ) (board : Board) (address : UInt64) (width : Width) (s : Slot δ)
    (before after : List (Slot δ)) : Prop where
  place : bus.slots = before ++ s :: after
  asked : bus.read board address width =
    (BusDevice.read s.device board ⟨address - s.window.base, address, width⟩).map fun r =>
      ⟨r.answer.map width.truncate, ⟨before ++ ⟨s.window, r.device⟩ :: after⟩, r.board⟩

structure WritesAt (bus : Bus δ) (board : Board) (address : UInt64) (width : Width)
    (value : UInt64) (s : Slot δ) (before after : List (Slot δ)) : Prop where
  place : bus.slots = before ++ s :: after
  asked : bus.write board address width value =
    (BusDevice.write s.device board ⟨address - s.window.base, address, width⟩
      (width.truncate value)).map fun r =>
        ⟨r.answer, ⟨before ++ ⟨s.window, r.device⟩ :: after⟩, r.board⟩

theorem access_owner (aligned : address.toNat % width.bytes = 0) (tiled : Tiled bus.slots)
    (here : s ∈ bus.slots) (holds : s.window.Holds address width) (board : Board)
    (value : UInt64) : ∃ before after, bus.ReadsAt board address width s before after ∧
      bus.WritesAt board address width value s before after := by
  obtain ⟨before, after, split, replaced⟩ := tiled.setDevice here
  refine ⟨before, after, ⟨split, ?_⟩, ⟨split, ?_⟩⟩
  · simp only [read, route_owner aligned tiled here holds, replaced, bind, Except.bind]
    cases BusDevice.read s.device board ⟨address - s.window.base, address, width⟩ with
    | error fault => rfl
    | ok r => simp only [Except.map, Width.and_mask]; rfl
  · simp only [write, route_owner aligned tiled here holds, replaced, bind, Except.bind,
      Width.and_mask]
    cases BusDevice.write s.device board ⟨address - s.window.base, address, width⟩
      (width.truncate value) with
    | error fault => rfl
    | ok r => rfl

-- The whole contract of a bus to which devices were offered one after the other.
theorem build_owned {offers : List (Slot δ)} (fits : ∀ s ∈ offers, s.window.Fits) :
    (∀ s : Slot δ, s.window.Fits →
      ((∃ bus, (build offers).insert s.device s.window = .ok bus) ↔
        s.window.len ≠ 0 ∧ ∀ t ∈ accepted offers, s.window.Apart t.window) ∧
      ∀ e, (build offers).insert s.device s.window = .error e →
        build (offers ++ [s]) = build offers) ∧
    ∀ (board : Board) (address : UInt64) (width : Width) (value : UInt64),
      (address.toNat % width.bytes ≠ 0 →
        (build offers).read board address width =
          .ok ⟨.error (.misaligned address width .read), build offers, board⟩ ∧
        (build offers).write board address width value =
          .ok ⟨.error (.misaligned address width .write), build offers, board⟩) ∧
      (address.toNat % width.bytes = 0 →
        (∀ s ∈ accepted offers, s.window.Holds address width →
          ∃ before after, (build offers).ReadsAt board address width s before after ∧
            (build offers).WritesAt board address width value s before after) ∧
        ((∀ s ∈ accepted offers, ¬ s.window.Holds address width) →
          (build offers).read board address width =
            .ok ⟨.error (.unsupported address width .read), build offers, board⟩ ∧
          (build offers).write board address width value =
            .ok ⟨.error (.unsupported address width .write), build offers, board⟩)) := by
  obtain ⟨tiled, same⟩ := build_tiled fits
  refine ⟨fun s fits' => ⟨?_, fun e refused => ?_⟩, fun board address width value =>
    ⟨fun odd => ?_, fun aligned => ⟨fun s taken holds => ?_, fun nobody => ?_⟩⟩⟩
  · change _ ↔ Admits (accepted offers) s
    rw [← admits_perm same]
    rcases insert_parts tiled fits' with ⟨room, done⟩ | ⟨full, e, refused⟩
    · exact ⟨fun _ => room, fun _ => ⟨_, done⟩⟩
    · rw [refused]
      exact ⟨nofun, fun room => absurd room full⟩
  · rw [build, List.foldl_append, List.foldl_cons, List.foldl_nil, ← build]
    simp only [offer, refused]
  · exact ⟨read_unrouted (route_misaligned odd), write_unrouted (route_misaligned odd)⟩
  · exact access_owner aligned tiled (same.mem_iff.mpr taken) holds board value
  · have nobody' : ∀ s ∈ (build offers).slots, ¬ s.window.Holds address width :=
      fun s here => nobody s (same.mem_iff.mp here)
    exact ⟨read_unrouted (route_ownerless aligned tiled nobody'),
      write_unrouted (route_ownerless aligned tiled nobody')⟩

-- Two neighbours. The device offered between them reaches into the first one and is refused.
def neighbours : List (Slot Bench.Echo) :=
  [⟨⟨0x1000, 0x100⟩, ⟨false, []⟩⟩, ⟨⟨0x10ff, 0x10⟩, ⟨true, []⟩⟩, ⟨⟨0x1100, 0x8⟩, ⟨false, []⟩⟩]

theorem build_owned_neighbours :
    (∀ s ∈ neighbours, s.window.Fits) ∧
    (∃ bus, (build neighbours).insert ⟨false, []⟩ ⟨0x1108, 0x8⟩ = .ok bus) ∧
    ∀ board : Board,
      (∃ before after, (build neighbours).WritesAt board 0x1100 .double 7
        ⟨⟨0x1100, 0x8⟩, ⟨false, []⟩⟩ before after) ∧
      (build neighbours).read board 0x1108 .byte =
        .ok ⟨.error (.unsupported 0x1108 .byte .read), build neighbours, board⟩ ∧
      (build neighbours).read board 0x10fc .double =
        .ok ⟨.error (.misaligned 0x10fc .double .read), build neighbours, board⟩ := by
  have fits : ∀ s ∈ neighbours, s.window.Fits := by decide
  have taken : accepted neighbours =
      [⟨⟨0x1000, 0x100⟩, ⟨false, []⟩⟩, ⟨⟨0x1100, 0x8⟩, ⟨false, []⟩⟩] := rfl
  obtain ⟨inserts, accesses⟩ := build_owned fits
  refine ⟨fits, (inserts ⟨⟨0x1108, 0x8⟩, ⟨false, []⟩⟩ (by decide)).1.mpr ?_, fun board => ?_⟩
  · rw [taken]
    decide
  · have whole := (accesses board 0x1100 .double 7).2 (by decide)
    have free := (accesses board 0x1108 .byte 0).2 (by decide)
    have odd := (accesses board 0x10fc .double 0).1 (by decide)
    rw [taken] at whole free
    refine ⟨?_, (free.2 ?_).1, odd.1⟩
    · obtain ⟨before, after, _, writes⟩ := whole.1 ⟨⟨0x1100, 0x8⟩, ⟨false, []⟩⟩
        (List.mem_pair.mpr (.inr rfl)) (Window.holds_iff.mpr (by decide))
      exact ⟨before, after, writes⟩
    · intro s member holds
      have inside := Window.holds_iff.mp holds
      rcases List.mem_pair.mp member with rfl | rfl <;> exact absurd inside (by decide)

end Access

end Bus

end VmMonitor
