import Mathlib.Data.List.Chain
import VmMonitor.Proofs.Memory.Store

/-!
Which ranges a memory can be made of. They have to come in order and apart, fill whole pages and end
below 2 ^ 64. Beyond that only the host can refuse, for want of room. A memory that is made holds a
zero at every address of its ranges.
-/

namespace VmMonitor.GuestMemory

open Checked

-- Where a region is to begin, and how many bytes it is to hold.
abbrev Range := GuestAddress × UInt64

namespace Range

def last (r : Range) : Nat := r.1.toNat + r.2.toNat

def Spans (r : Range) (a : GuestAddress) : Prop := r.1.toNat ≤ a.toNat ∧ a.toNat < r.last

instance (r : Range) (a : GuestAddress) : Decidable (r.Spans a) := inferInstanceAs (Decidable (_ ∧ _))

def Before (r s : Range) : Prop := r.last ≤ s.1.toNat

instance (r s : Range) : Decidable (r.Before s) := inferInstanceAs (Decidable (_ ≤ _))

theorem Before.trans {r s t : Range} (first : r.Before s) (second : s.Before t) : r.Before t :=
  Nat.le_trans first (Nat.le_trans (Nat.le_add_right ..) second)

instance : Trans Before Before Before := ⟨Before.trans⟩

-- Whole pages, at least one, that end below 2 ^ 64.
structure Whole [Host] (r : Range) : Prop where
  some : r.2.toNat ≠ 0
  paged : r.2.toNat % Host.pageSize = 0
  below : r.last < UInt64.size

-- The region that a range becomes. Nothing is stored in it yet.
def region (r : Range) : Region := ⟨r.1, r.2.toNat, {}⟩

theorem region_last (r : Range) : r.region.last = r.last := rfl

theorem region_contains {r : Range} {a : GuestAddress} : r.region.contains a = true ↔ r.Spans a :=
  Region.contains_iff

theorem region_byte (r : Range) (offset : Nat) : r.region.mapping.byte offset = 0 := by
  simp [region, Mapping.byte]

end Range

variable {m : GuestMemory} {a : GuestAddress} {ranges : List Range} {r : Range}

-- What can be asked for. Whether the host has the room is another matter.
structure Admissible [Host] (ranges : List Range) : Prop where
  apart : ranges.Pairwise Range.Before
  whole : ∀ r ∈ ranges, r.Whole

def fresh (ranges : List Range) : GuestMemory := ⟨ranges.map Range.region⟩

-- Memory as it is made.

theorem region_new_iff [Host] {made : Region} :
    Region.new r.1 r.2 = .ok made ↔
      r.Whole ∧ Host.refusal r.2.toNat = none ∧ made = r.region := by
  constructor
  · intro done
    unfold Region.new at done
    split at done
    · cases done
    rename_i paged
    split at done
    · cases done
    rename_i fits
    split at done
    · rename_i mapping mapped
      cases done
      unfold Mapping.new at mapped
      split at mapped
      · cases mapped
      rename_i sized
      split at mapped
      · cases mapped
      · rename_i room
        cases mapped
        obtain ⟨final, sum⟩ := Option.ne_none_iff_exists'.mp (by simpa using fits)
        exact ⟨⟨fun none => sized (.inl none), by simpa using paged,
          (GuestAddress.checkedAdd_eq_some.mp sum).1⟩, room, rfl⟩
    · cases done
  · rintro ⟨whole, room, rfl⟩
    have fits : (r.1.checkedAdd r.2).isNone = false := by
      rw [GuestAddress.checkedAdd_eq_some.mpr ⟨whole.below, rfl⟩]
      rfl
    have mapped : Mapping.new r.2.toNat = .ok ⟨r.2.toNat, {}⟩ := by
      have sized : ¬ (r.2.toNat = 0 ∨ r.2.toNat % Host.pageSize ≠ 0) := by
        simp [whole.some, whole.paged]
      rw [Mapping.new, if_neg sized, room]
    rw [Region.new, if_neg (by simp [whole.paged]), if_neg (by simp [fits]), mapped]
    rfl

theorem extend_iff [Host] {made : List Region} :
    extend (ranges.map Range.region) r = .ok made ↔
      (∀ before ∈ ranges.getLast?, before.Before r) ∧ r.Whole ∧ Host.refusal r.2.toNat = none ∧
        made = (ranges ++ [r]).map Range.region := by
  have overlap : ((ranges.map Range.region).getLast?.any fun s => r.1.toNat < s.last) = false ↔
      ∀ before ∈ ranges.getLast?, before.Before r := by
    rw [List.getLast?_map]
    cases ranges.getLast? with
    | none => simp
    | some before =>
        constructor
        · intro clear _ same
          cases same
          exact Nat.not_lt.mp (of_decide_eq_false clear)
        · intro apart
          exact decide_eq_false (Nat.not_lt.mpr (apart before rfl))
  unfold extend
  cases reached : (ranges.map Range.region).getLast?.any fun s => r.1.toNat < s.last with
  | true =>
      rw [reached] at overlap
      exact ⟨nofun, fun ⟨apart, _⟩ => absurd (overlap.mpr apart) (by decide)⟩
  | false =>
      rw [reached] at overlap
      have apart := overlap.mp rfl
      rw [if_neg (by decide), bind_eq_ok]
      constructor
      · rintro ⟨region, done, same⟩
        obtain ⟨whole, room, rfl⟩ := region_new_iff.mp done
        cases same
        exact ⟨apart, whole, room, by simp⟩
      · rintro ⟨_, whole, room, rfl⟩
        exact ⟨_, region_new_iff.mpr ⟨whole, room, rfl⟩, by simp [pure, Except.pure]⟩

-- The ranges that were accepted lie one after the other, so that the last one stands for them all.
theorem grown_iff [Host] {rest : List Range} {made : List Region}
    (chain : ranges.IsChain Range.Before) :
    rest.foldlM extend (ranges.map Range.region) = .ok made ↔
      (ranges ++ rest).IsChain Range.Before ∧
        (∀ r ∈ rest, r.Whole ∧ Host.refusal r.2.toNat = none) ∧
        made = (ranges ++ rest).map Range.region := by
  induction rest generalizing ranges with
  | nil =>
      simp only [List.foldlM_nil, List.append_nil, List.not_mem_nil, false_implies, implies_true,
        true_and, pure, Except.pure, Except.ok.injEq, chain]
      exact eq_comm
  | cons r rest ih =>
      have longer : (ranges ++ [r]).IsChain Range.Before ↔
          ∀ before ∈ ranges.getLast?, before.Before r := by
        rw [List.isChain_append]
        simp [chain]
      have joined : ranges ++ r :: rest = (ranges ++ [r]) ++ rest := by simp
      rw [List.foldlM_cons, bind_eq_ok, joined, List.forall_mem_cons]
      constructor
      · rintro ⟨regions, extended, done⟩
        obtain ⟨apart, whole, room, rfl⟩ := extend_iff.mp extended
        obtain ⟨ordered, others, same⟩ := (ih (longer.mpr apart)).mp done
        exact ⟨ordered, ⟨⟨whole, room⟩, others⟩, same⟩
      · rintro ⟨ordered, ⟨⟨whole, room⟩, others⟩, same⟩
        have chained := (List.isChain_append.mp ordered).1
        exact ⟨_, extend_iff.mpr ⟨longer.mp chained, whole, room, rfl⟩,
          (ih chained).mpr ⟨ordered, others, same⟩⟩

theorem new_iff [Host] :
    new ranges = .ok m ↔
      Admissible ranges ∧ (∀ r ∈ ranges, Host.refusal r.2.toNat = none) ∧ m = fresh ranges := by
  have grown (made : List Region) : ranges.foldlM extend [] = .ok made ↔
      ranges.IsChain Range.Before ∧ (∀ r ∈ ranges, r.Whole ∧ Host.refusal r.2.toNat = none) ∧
        made = ranges.map Range.region :=
    grown_iff .nil
  unfold new
  rw [bind_eq_ok]
  constructor
  · rintro ⟨made, done, same⟩
    obtain ⟨chain, each, rfl⟩ := (grown made).mp done
    cases same
    exact ⟨⟨List.isChain_iff_pairwise.mp chain, fun r here => (each r here).1⟩,
      fun r here => (each r here).2, rfl⟩
  · rintro ⟨⟨apart, whole⟩, room, rfl⟩
    exact ⟨_, (grown _).mpr ⟨List.isChain_iff_pairwise.mpr apart,
      fun r here => ⟨whole r here, room r here⟩, rfl⟩, rfl⟩

theorem Admissible.sound [Host] (admissible : Admissible ranges) : (fresh ranges).Sound where
  apart := List.pairwise_map.mpr admissible.apart
  below r here := by
    obtain ⟨range, listed, rfl⟩ := List.mem_map.mp here
    exact (admissible.whole range listed).below

theorem new_sound [Host] (built : new ranges = .ok m) : m.Sound := by
  obtain ⟨admissible, _, rfl⟩ := new_iff.mp built
  exact admissible.sound

-- What is so of every memory with the layout of one that was made.

theorem region_spanned (laid : m.layout = (fresh ranges).layout) (here : r ∈ ranges)
    (spans : r.Spans a) : ∃ s ∈ m.regions, s.contains a = true ∧ s.last = r.last := by
  have listed : r.region.extent ∈ m.layout := by
    rw [laid]
    exact List.mem_map_of_mem (List.mem_map_of_mem here)
  obtain ⟨s, there, same⟩ := List.mem_map.mp listed
  exact ⟨s, there, (Region.contains_congr same).trans (Range.region_contains.mpr spans),
    Region.last_congr same⟩

theorem mapped_spanned (laid : m.layout = (fresh ranges).layout) :
    m.Mapped a ↔ ∃ r ∈ ranges, r.Spans a := by
  rw [Mapped.congr laid, mapped_iff]
  simp only [fresh, List.mem_map, exists_exists_and_eq_and, Range.region_contains]

theorem Admissible.zeroed [Host] (admissible : Admissible ranges) (here : r ∈ ranges)
    (spans : r.Spans a) : (fresh ranges).byte? a = some 0 := by
  rw [admissible.sound.byte (List.mem_map_of_mem here) (Range.region_contains.mpr spans),
    Range.region_byte]

end VmMonitor.GuestMemory
