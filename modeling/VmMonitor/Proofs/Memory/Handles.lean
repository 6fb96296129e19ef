import VmMonitor.Proofs.Memory.Transfers

/-!
Guest memory in the hands of many. Clones are names for one memory, so that an access through any of
them is an access for all. What memory holds after a run of uses is, at each address, the byte that
was stored there last.
-/

namespace VmMonitor.GuestMemory

variable {m : GuestMemory} {ranges : List Range}

-- What is left in memory. Each use adds what it stores to what was there.

inductive Use where
  | clone (handle : Nat)
  | transfer (handle : Nat) (a : GuestAddress) (t : Transfer)
  deriving DecidableEq, Repr

def Use.effect : Use → GuestMemory → GuestMemory
  | .clone _, m => m
  | .transfer _ a t, m => (m.transfer a t).2

-- From `a` to the end of the range that holds it, if one does.
def room (ranges : List Range) (a : GuestAddress) : Nat :=
  match ranges.find? (·.Spans a) with
  | some r => r.last - a.toNat
  | none => 0

def Use.byte? (ranges : List Range) (x : GuestAddress) : Use → Option UInt8
  | .clone _ => none
  | .transfer _ a t =>
      if a.toNat ≤ x.toNat then (t.payload (room ranges a))[x.toNat - a.toNat]? else none

def Use.over (ranges : List Range) (cell : GuestAddress → UInt8) (u : Use) (x : GuestAddress) :
    UInt8 := (u.byte? ranges x).getD (cell x)

-- What was stored last at each address, zero where nothing was.
def held (ranges : List Range) (uses : List Use) : GuestAddress → UInt8 :=
  uses.foldl (Use.over ranges) fun _ => 0

-- A memory that holds these bytes at the addresses of its ranges.
structure Filled (ranges : List Range) (m : GuestMemory) (cell : GuestAddress → UInt8) : Prop where
  laid : m.layout = (fresh ranges).layout
  byte : ∀ r ∈ ranges, ∀ x, r.Spans x → m.byte? x = some (cell x)

theorem payload_none (t : Transfer) : t.payload 0 = [] := by
  cases t with
  | read count | readExact count | readObject count => rfl
  | write data | writeAll data => simp [Transfer.payload]
  | writeObject data =>
      change (if data.length ≤ 0 then data else []) = []
      split
      · exact List.eq_nil_of_length_eq_zero (Nat.le_zero.mp ‹_›)
      · rfl

theorem Admissible.transfer_wrote [Host] (admissible : Admissible ranges)
    (laid : m.layout = (fresh ranges).layout) (a : GuestAddress) (t : Transfer) :
    m.Wrote a (t.payload (room ranges a)) (m.transfer a t).2 := by
  unfold room
  cases found : ranges.find? (·.Spans a) with
  | none =>
      have unmapped : ¬ m.Mapped a := fun mapped => by
        obtain ⟨r, here, spans⟩ := (mapped_spanned laid).mp mapped
        exact List.find?_eq_none.mp found r here (decide_eq_true spans)
      rw [transfer_unmapped unmapped]
      change m.Wrote a (t.payload 0) m
      rw [payload_none]
      exact .none m a
  | some r =>
      have spans : r.Spans a := by simpa using List.find?_some found
      obtain ⟨s, there, inside, last⟩ :=
        region_spanned laid (List.mem_of_find?_eq_some found) spans
      change m.Wrote a (t.payload (r.last - a.toNat)) _
      rw [← last]
      exact (admissible.sound.congr laid).transfer_wrote there inside t

theorem Filled.use [Host] {cell : GuestAddress → UInt8} (filled : Filled ranges m cell)
    (admissible : Admissible ranges) (u : Use) :
    Filled ranges (u.effect m) (Use.over ranges cell u) := by
  cases u with
  | clone handle => exact filled
  | transfer handle a t =>
      have wrote := admissible.transfer_wrote filled.laid a t
      refine ⟨wrote.layout.trans filled.laid, fun r here x spans => ?_⟩
      rw [Use.effect, wrote.byte, overlaid, filled.byte r here x spans, Use.over, Use.byte?]
      split
      · cases (t.payload (room ranges a))[x.toNat - a.toNat]? <;> rfl
      · rfl

theorem Admissible.filled [Host] (admissible : Admissible ranges) :
    Filled ranges (fresh ranges) fun _ => 0 :=
  ⟨rfl, fun _ here _ spans => admissible.zeroed here spans⟩

-- A handle is a name for a memory, and a clone is one more name for the memory of its original.
structure Handles where
  memories : List GuestMemory
  named : List Nat

namespace Handles

variable {h h' : Handles} {u : Use}

def of (m : GuestMemory) : Handles := ⟨[m], [0]⟩

def memory? (h : Handles) (handle : Nat) : Option GuestMemory :=
  h.named[handle]?.bind (h.memories[·]?)

-- There is no use of a handle that was never made.
def use (h : Handles) : Use → Option Handles
  | .clone handle => h.named[handle]?.map fun place => { h with named := h.named ++ [place] }
  | .transfer handle a t => h.named[handle]?.bind fun place =>
      h.memories[place]?.map fun m => { h with memories := h.memories.set place (m.transfer a t).2 }

def run (h : Handles) (uses : List Use) : Option Handles := uses.foldlM use h

-- All that there is goes by the name of `m`.
structure Sole (h : Handles) (m : GuestMemory) : Prop where
  memories : h.memories = [m]
  named : ∀ place ∈ h.named, place = 0

theorem of_sole (m : GuestMemory) : (of m).Sole m :=
  ⟨rfl, fun _ listed => List.mem_singleton.mp listed⟩

theorem Sole.place {i : Nat} (sole : h.Sole m) (made : i < h.named.length) :
    h.named[i]? = some 0 := by
  rw [List.getElem?_eq_getElem made, sole.named _ (List.getElem_mem made)]

theorem Sole.memory {i : Nat} (sole : h.Sole m) (made : i < h.named.length) :
    h.memory? i = some m := by
  rw [memory?, sole.place made, sole.memories]
  rfl

theorem Sole.clone {i : Nat} (sole : h.Sole m) (made : i < h.named.length) :
    h.use (.clone i) = some { h with named := h.named ++ [0] } := by
  rw [use, sole.place made]
  rfl

theorem Sole.transfer {i : Nat} (sole : h.Sole m) (made : i < h.named.length) (a : GuestAddress)
    (t : Transfer) :
    h.use (.transfer i a t) = some { h with memories := [(m.transfer a t).2] } := by
  rw [use, sole.place made, Option.bind_some, sole.memories]
  rfl

theorem Sole.cloned (sole : h.Sole m) : Sole { h with named := h.named ++ [0] } m := by
  refine ⟨sole.memories, fun place listed => ?_⟩
  rcases List.mem_append.mp listed with old | new
  · exact sole.named place old
  · exact List.mem_singleton.mp new

theorem Sole.use (sole : h.Sole m) (done : h.use u = some h') : h'.Sole (u.effect m) := by
  cases u with
  | clone handle =>
      obtain ⟨place, listed, _⟩ := Option.map_eq_some_iff.mp done
      rw [sole.clone (List.getElem?_eq_some_iff.mp listed).1] at done
      cases done
      exact sole.cloned
  | transfer handle a t =>
      obtain ⟨place, listed, _⟩ := Option.bind_eq_some_iff.mp done
      rw [sole.transfer (List.getElem?_eq_some_iff.mp listed).1] at done
      cases done
      exact ⟨rfl, sole.named⟩

-- Whatever is done through any of the handles, they go on naming one memory.
theorem run_sole [Host] {cell : GuestAddress → UInt8} {uses : List Use}
    (admissible : Admissible ranges) (sole : h.Sole m) (filled : Filled ranges m cell)
    (done : h.run uses = some h') :
    ∃ m', h'.Sole m' ∧ Filled ranges m' (uses.foldl (Use.over ranges) cell) := by
  induction uses generalizing h m cell with
  | nil =>
      cases done
      exact ⟨m, sole, filled⟩
  | cons u rest ih =>
      unfold run at done
      rw [List.foldlM_cons] at done
      obtain ⟨middle, used, done⟩ := Option.bind_eq_some_iff.mp done
      exact ih (sole.use used) (filled.use admissible u) done

-- What every handle there is gives, and what becomes of it by one more use of any of them.
structure Shares (h : Handles) (m : GuestMemory) : Prop where
  names : ∀ i < h.named.length, h.memory? i = some m
  clone : ∀ i < h.named.length, ∃ h', h.use (.clone i) = some h' ∧
    h'.named.length = h.named.length + 1 ∧ ∀ j < h'.named.length, h'.memory? j = some m
  transfer : ∀ i < h.named.length, ∀ a t, ∃ h', h.use (.transfer i a t) = some h' ∧
    h'.named.length = h.named.length ∧
      ∀ j < h'.named.length, h'.memory? j = some (m.transfer a t).2

theorem Sole.shares (sole : h.Sole m) : h.Shares m where
  names _ made := sole.memory made
  clone _ made := ⟨_, sole.clone made, by simp, fun _ => sole.cloned.memory⟩
  transfer _ made a t := by
    refine ⟨_, sole.transfer made a t, rfl, fun _ => ?_⟩
    exact Sole.memory ⟨rfl, sole.named⟩

theorem run_laid [Host] {uses : List Use} {i : Nat} (admissible : Admissible ranges)
    (done : (of (fresh ranges)).run uses = some h) (named : h.memory? i = some m) :
    m.layout = (fresh ranges).layout := by
  obtain ⟨m', sole, filled⟩ := run_sole admissible (of_sole _) admissible.filled done
  obtain ⟨place, listed, _⟩ := Option.bind_eq_some_iff.mp named
  rw [sole.memory (List.getElem?_eq_some_iff.mp listed).1] at named
  cases named
  exact filled.laid

end Handles

-- Memory is made of whatever ranges are in order, and from then on it is a store of bytes for all
-- who have a handle on it.
theorem handles_byteStore [Host] (ranges : List Range) :
    (∀ m, new ranges = .ok m ↔
      Admissible ranges ∧ (∀ r ∈ ranges, Host.refusal r.2.toNat = none) ∧ m = fresh ranges) ∧
    (Admissible ranges → ∀ uses h, (Handles.of (fresh ranges)).run uses = some h →
      ∃ m, h.Shares m ∧ ByteStore ranges m ∧
        ∀ r ∈ ranges, ∀ x, r.Spans x → m.byte? x = some (held ranges uses x)) := by
  refine ⟨fun m => new_iff, fun admissible uses h done => ?_⟩
  obtain ⟨m, sole, filled⟩ :=
    Handles.run_sole admissible (Handles.of_sole _) admissible.filled done
  exact ⟨m, sole.shares, admissible.byteStore filled.laid, filled.byte⟩

-- Two regions that touch.
def touching : List Range := [(0x1000, 0x1000), (0x2000, 0x1000)]

theorem touching_admissible : Admissible touching where
  apart := by decide
  whole := by
    intro r here
    rcases List.mem_pair.mp here with rfl | rfl
    · exact ⟨by decide, by decide, by decide⟩
    · exact ⟨by decide, by decide, by decide⟩

-- A slice that begins in the first of them and is longer than what is left there, and an object that
-- would lie in both.
def crossing : List Use :=
  [.clone 0, .transfer 1 0x1ffe (.write [1, 2, 3, 4]), .transfer 0 0x1fff (.writeObject [5, 6])]

theorem handles_byteStore_touching :
    Admissible touching ∧ new touching = .ok (fresh touching) ∧
    ∃ h m, (Handles.of (fresh touching)).run crossing = some h ∧
      h.memory? 0 = some m ∧ h.memory? 1 = some m ∧ ByteStore touching m ∧
      m.byte? 0x1ffe = some 1 ∧ m.byte? 0x1fff = some 2 ∧ m.byte? 0x2000 = some 0 := by
  obtain ⟨made, stores⟩ := handles_byteStore touching
  have granted : ∀ r ∈ touching, Host.refusal r.2.toNat = none := by
    intro r here
    rcases List.mem_pair.mp here with rfl | rfl <;> decide
  refine ⟨touching_admissible, (made _).mpr ⟨touching_admissible, granted, rfl⟩, ?_⟩
  obtain ⟨m, shares, store, holds⟩ := stores touching_admissible crossing _ rfl
  have first : (0x1000, 0x1000) ∈ touching := by decide
  have second : (0x2000, 0x1000) ∈ touching := by decide
  exact ⟨_, m, rfl, shares.names 0 (by decide), shares.names 1 (by decide), store,
    holds _ first 0x1ffe (by decide), holds _ first 0x1fff (by decide),
    holds _ second 0x2000 (by decide)⟩

end VmMonitor.GuestMemory
