import VmMonitor.Proofs.Memory.Admission
import VmMonitor.Virtqueue.Chain

/-!
What an accepted chain is good for. The walk sees to it that every buffer that is not empty lies in
memory, so that piecewise reads always succeed; reads and writes of whole chains also look up the
addresses of empty buffers, which the walk lets pass unseen.
-/

namespace VmMonitor

open GuestMemory

namespace Descriptor

variable {m m' : GuestMemory} {d : Descriptor}

-- What the walk asks of a buffer.
def Placed (m : GuestMemory) (d : Descriptor) : Prop :=
  d.len ≠ 0 → m.Holds d.address d.len.toNat

-- The addresses of a buffer.
def Covers (d : Descriptor) (x : GuestAddress) : Prop :=
  d.address.toNat ≤ x.toNat ∧ x.toNat < d.address.toNat + d.len.toNat

theorem Placed.congr (same : m'.layout = m.layout) (placed : d.Placed m) : d.Placed m' :=
  fun some => (placed some).congr same

-- A buffer that cannot be accessed is empty and has an address of its own that is not mapped.
theorem Placed.cases (placed : d.Placed m) :
    m.Holds d.address d.len.toNat ∨ d.len = 0 ∧ ¬ m.Mapped d.address := by
  by_cases empty : d.len = 0
  · by_cases mapped : m.Mapped d.address
    · left
      rw [empty]
      exact holds_none.mpr mapped
    · exact .inr ⟨empty, mapped⟩
  · exact .inl (placed empty)

-- A write of no more than a buffer holds changes nothing outside the buffer.
theorem kept_outside {data : List UInt8} {x : GuestAddress}
    (wrote : m.Wrote d.address (data.take d.len.toNat) m') (outside : ¬ d.Covers x) :
    m'.byte? x = m.byte? x := by
  have le : (data.take d.len.toNat).length ≤ d.len.toNat := List.length_take_le ..
  unfold Covers at outside
  rw [wrote.byte x, overlaid_outside (by omega)]

end Descriptor

namespace DescriptorChain

open Descriptor

variable {m m' m₀ : GuestMemory} {c : DescriptorChain} {ds : List Descriptor} {data : List UInt8}
  {table : GuestAddress} {queueSize head : UInt16}

theorem accept_placed {i : UInt16} {t t' : Tally} {d : Descriptor}
    (done : accept m head i t d = .ok t') : d.Placed m := by
  unfold accept at done
  split at done
  · cases done
  split at done
  · cases done
  rename_i valid
  intro some
  have wide : d.len.toUInt64 ≠ 0 := by
    intro zero
    have := congrArg UInt64.toNat zero
    rw [UInt32.toNat_toUInt64] at this
    exact some (UInt32.toNat_inj.mp this)
  have holds := validRange_holds (by simpa using valid) wide
  rwa [UInt32.toNat_toUInt64] at holds

theorem walk_placed {room : Nat} {i : UInt16} {t : Tally}
    (done : walk m table queueSize head room i t = .ok ds) : ∀ d ∈ ds, d.Placed m := by
  induction room generalizing i t ds with
  | zero =>
      unfold walk at done
      split at done <;> cases done
  | succ room ih =>
      unfold walk at done
      split at done
      · cases done
      dsimp only at done
      split at done
      · cases done
      rename_i entry _
      split at done
      · cases done
      rename_i accepted
      have first := accept_placed accepted
      split at done
      · cases done
        intro d here
        rw [List.mem_singleton.mp here]
        exact first
      · rename_i j _
        cases walked : walk m table queueSize head room j _ with
        | error e =>
            rw [walked] at done
            cases done
        | ok rest =>
            rw [walked] at done
            cases done
            intro d here
            rcases List.mem_cons.mp here with rfl | later
            · exact first
            · exact ih walked d later

theorem new_placed (accepted : new m table queueSize head = .ok c) :
    ∀ d ∈ c.descriptors, d.Placed m := by
  unfold new at accepted
  obtain ⟨ds, walked, accepted⟩ := Checked.bind_eq_ok.mp accepted
  cases accepted
  exact walk_placed walked

-- Bytes in all buffers of a list.
def total (ds : List Descriptor) : Nat := ds.foldr (fun d sum => d.len.toNat + sum) 0

theorem writableLen_total (c : DescriptorChain) : c.writableLen = total c.writable := rfl

-- Reading whole buffers.

theorem readBuffers_held (sound : m.Sound) (held : ∀ d ∈ ds, m.Holds d.address d.len.toNat) :
    readBuffers m ds = .ok (ds.flatMap fun d => m.contents d.address d.len.toNat) := by
  induction ds with
  | nil => rfl
  | cons d rest ih =>
      rw [readBuffers, readExact_holds sound (held d List.mem_cons_self),
        ih fun e later => held e (List.mem_cons_of_mem _ later)]
      rfl

theorem readBuffers_unmapped {d : Descriptor} (here : d ∈ ds) (unmapped : ¬ m.Mapped d.address) :
    ∃ e, readBuffers m ds = .error e := by
  induction ds with
  | nil => cases here
  | cons first rest ih =>
      unfold readBuffers
      split
      · exact ⟨_, rfl⟩
      · rename_i read
        rcases List.mem_cons.mp here with rfl | later
        · rw [readExact_unmapped unmapped] at read
          cases read
        · obtain ⟨e, failed⟩ := ih later
          exact ⟨e, by rw [failed]; rfl⟩

theorem length_readBuffers (done : readBuffers m ds = .ok data) : data.length = total ds := by
  induction ds generalizing data with
  | nil =>
      cases done
      rfl
  | cons d rest ih =>
      unfold readBuffers at done
      split at done
      · cases done
      rename_i part read
      obtain ⟨later, others, done⟩ := Checked.bind_eq_ok.mp done
      cases done
      have whole : part.length = d.len.toNat := by
        unfold readExact at read
        obtain ⟨got, _, read⟩ := Checked.bind_eq_ok.mp read
        split at read
        · cases read
          assumption
        · cases read
      rw [List.length_append, whole, ih others]
      rfl

-- Reading in pieces.

theorem piece_held {d : Descriptor} {piece : GuestAddress × Nat} (sound : m.Sound)
    (placed : d.Placed m) (here : piece ∈ piecesOf d) : m.Holds piece.1 piece.2 := by
  obtain ⟨k, listed, rfl⟩ := List.mem_map.mp here
  have count := List.mem_range.mp listed
  rw [pieceSize] at count
  have inside : pieceSize * k < d.len.toNat := by
    rw [pieceSize]
    omega
  have some : d.len ≠ 0 := by
    intro zero
    rw [zero] at inside
    exact Nat.not_lt_zero _ inside
  have below := sound.fits (placed some)
  obtain ⟨r, region, contains, fits⟩ := placed some
  have low := (Region.contains_iff.mp contains).1
  have place := GuestAddress.toNat_add (a := d.address) (i := pieceSize * k) (by omega)
  have start : (d.address.wrappingAdd (UInt64.ofNat (pieceSize * k))).toNat =
      d.address.toNat + pieceSize * k := place
  refine ⟨r, region, Region.contains_iff.mpr ?_, ?_⟩
  · dsimp only
    omega
  · dsimp only
    have le := Nat.min_le_right pieceSize (d.len.toNat - pieceSize * k)
    omega

theorem pieces_held (sound : m.Sound) (placed : ∀ d ∈ c.readable, d.Placed m) :
    ∀ p ∈ c.pieces, m.Holds p.1 p.2 := by
  intro p here
  obtain ⟨d, listed, piece⟩ := List.mem_flatMap.mp here
  exact piece_held sound (placed d listed) piece

theorem feed_held {σ : Type} {take : σ → List UInt8 → Except String Unit × σ}
    {pieces : List (GuestAddress × Nat)} (sound : m.Sound)
    (held : ∀ p ∈ pieces, m.Holds p.1 p.2) (takes : ∀ s data, (take s data).1 = .ok ()) (s : σ) :
    (feed m take pieces s).1 = .ok () := by
  induction pieces generalizing s with
  | nil => rfl
  | cons p rest ih =>
      obtain ⟨address, count⟩ := p
      have taken := takes s (m.contents address count)
      simp only [feed, readExact_holds sound (held _ List.mem_cons_self)]
      cases answer : take s (m.contents address count) with
      | mk result s' =>
          rw [answer] at taken
          cases taken
          exact ih (fun p later => held p (List.mem_cons_of_mem _ later)) s'

-- Filling buffers.

-- A buffer that is held takes its part of the data, and what is left goes to those after it.
theorem fill_cons {d : Descriptor} (sound : m.Sound) (held : m.Holds d.address d.len.toNat)
    {written : Nat} (more : written ≠ data.length) (rest : List Descriptor) :
    ∃ m', m.Wrote d.address ((data.drop written).take d.len.toNat) m' ∧
      fill data (d :: rest) written m =
        fill data rest (written + min d.len.toNat (data.length - written)) m' := by
  have size : ((data.drop written).take d.len.toNat).length =
      min d.len.toNat (data.length - written) := by simp
  obtain ⟨m', done, wrote⟩ := writeAll_holds sound (held.shorter (size ▸ Nat.min_le_left _ _))
  refine ⟨m', wrote, ?_⟩
  rw [fill, if_neg more]
  dsimp only
  rw [done, size]

theorem fill_held (sound : m.Sound) (held : ∀ d ∈ ds, m.Holds d.address d.len.toNat)
    {written : Nat} (le : written ≤ data.length) :
    (fill data ds written m).1 = .ok (min data.length (written + total ds)) := by
  induction ds generalizing written m with
  | nil =>
      have none : written + total [] = written := rfl
      rw [none, Nat.min_eq_right le]
      rfl
  | cons d rest ih =>
      by_cases full : written = data.length
      · rw [fill, if_pos full, full, Nat.min_eq_left (Nat.le_add_right _ _)]
      · obtain ⟨m', wrote, same⟩ := fill_cons sound (held d List.mem_cons_self) full rest
        have sum : total (d :: rest) = d.len.toNat + total rest := rfl
        rw [same, ih (sound.congr wrote.layout)
          (fun e later => (held e (List.mem_cons_of_mem _ later)).congr wrote.layout)
          (by omega), sum]
        congr 1
        omega

theorem fill_unmapped {d : Descriptor} (sound : m.Sound) (placed : ∀ d ∈ ds, d.Placed m)
    (here : d ∈ ds) (unmapped : ¬ m.Mapped d.address) {written : Nat}
    (more : written + total ds < data.length) :
    ∃ e, (fill data ds written m).1 = .error e := by
  induction ds generalizing written m with
  | nil => cases here
  | cons first rest ih =>
      have sum : total (first :: rest) = first.len.toNat + total rest := rfl
      have left : written ≠ data.length := by omega
      rcases (placed first List.mem_cons_self).cases with holds | ⟨_, absent⟩
      · obtain ⟨m', wrote, same⟩ := fill_cons sound holds left rest
        rw [same]
        rcases List.mem_cons.mp here with rfl | later
        · exact absurd holds.mapped unmapped
        · exact ih (sound.congr wrote.layout)
            (fun e there => (placed e (List.mem_cons_of_mem _ there)).congr wrote.layout) later
            (fun mapped => unmapped ((Mapped.congr wrote.layout).mp mapped)) (by omega)
      · rw [fill, if_neg left]
        dsimp only
        rw [writeAll_unmapped absent]
        exact ⟨_, rfl⟩

theorem fill_layout (data : List UInt8) (ds : List Descriptor) (written : Nat) (m : GuestMemory) :
    (fill data ds written m).2.layout = m.layout := by
  induction ds generalizing written m with
  | nil => rfl
  | cons d rest ih =>
      unfold fill
      split
      · rfl
      dsimp only
      have kept := writeAll_layout m d.address ((data.drop written).take d.len.toNat)
      split
      · rename_i failed
        rw [failed] at kept
        exact kept
      · rename_i done
        rw [done] at kept
        exact (ih _ _).trans kept

-- Whether it succeeds or not, filling keeps to the buffers.
theorem fill_confined (sound : m.Sound) (placed : ∀ d ∈ ds, d.Placed m) (written : Nat)
    {x : GuestAddress} (changed : (fill data ds written m).2.byte? x ≠ m.byte? x) :
    ∃ d ∈ ds, d.Covers x := by
  induction ds generalizing written m with
  | nil => exact absurd rfl changed
  | cons d rest ih =>
      by_cases full : written = data.length
      · rw [fill, if_pos full] at changed
        exact absurd rfl changed
      rcases (placed d List.mem_cons_self).cases with holds | ⟨_, absent⟩
      · obtain ⟨m', wrote, same⟩ := fill_cons sound holds full rest
        rw [same] at changed
        by_cases kept : m'.byte? x = m.byte? x
        · rw [← kept] at changed
          obtain ⟨e, later, covers⟩ := ih (sound.congr wrote.layout)
            (fun e later => (placed e (List.mem_cons_of_mem _ later)).congr wrote.layout) _ changed
          exact ⟨e, List.mem_cons_of_mem _ later, covers⟩
        · exact ⟨d, List.mem_cons_self,
            Classical.byContradiction fun outside => kept (kept_outside wrote outside)⟩
      · rw [fill, if_neg full] at changed
        dsimp only at changed
        rw [writeAll_unmapped absent] at changed
        exact absurd rfl changed

theorem fill_nil (ds : List Descriptor) (m : GuestMemory) : fill [] ds 0 m = (.ok 0, m) := by
  cases ds <;> rfl

-- Which accesses to the chain succeed, and what they touch.
structure Accessible (c : DescriptorChain) (m : GuestMemory) : Prop where
  -- Pieces can always be read.
  pieces : ∀ (σ : Type) (take : σ → List UInt8 → Except String Unit × σ) (s : σ),
    (∀ s data, (take s data).1 = .ok ()) → (c.readPieces m take s).1 = .ok ()
  -- The whole can be read unless an empty buffer lies outside memory.
  contents : (∀ limit, c.readableLen ≤ limit → ∃ data, c.readAll m limit = .ok data) ↔
    ∀ d ∈ c.readable, d.len = 0 → m.Mapped d.address
  -- Any data can be written under the same proviso.
  room : (∀ data, ∃ n, (c.writeAll m data).1 = .ok n) ↔
    ∀ d ∈ c.writable, d.len = 0 → m.Mapped d.address
  mapped : ∀ d ∈ c.descriptors, ∀ x, d.Covers x → m.Mapped x
  confined : ∀ data, (c.writeAll m data).2.layout = m.layout ∧
    ∀ x, (c.writeAll m data).2.byte? x ≠ m.byte? x → ∃ d ∈ c.writable, d.Covers x

theorem placed_held (placed : ∀ d ∈ ds, d.Placed m)
    (mapped : ∀ d ∈ ds, d.len = 0 → m.Mapped d.address) :
    ∀ d ∈ ds, m.Holds d.address d.len.toNat := by
  intro d here
  rcases (placed d here).cases with holds | ⟨empty, absent⟩
  · exact holds
  · exact absurd (mapped d here empty) absent

theorem placed_accessible (sound : m.Sound) (placed : ∀ d ∈ c.descriptors, d.Placed m) :
    c.Accessible m := by
  have readable : ∀ d ∈ c.readable, d.Placed m :=
    fun d here => placed d (List.mem_filter.mp here).1
  have writable : ∀ d ∈ c.writable, d.Placed m :=
    fun d here => placed d (List.mem_filter.mp here).1
  refine ⟨?_, ⟨?_, ?_⟩, ⟨?_, ?_⟩, ?_,
    fun data => ⟨fill_layout .., fun x => fill_confined sound writable 0⟩⟩
  · intro σ take s takes
    exact feed_held sound (pieces_held sound readable) takes s
  · intro reads d here _
    refine Classical.byContradiction fun unmapped => ?_
    obtain ⟨e, failed⟩ := readBuffers_unmapped here unmapped
    obtain ⟨data, done⟩ := reads c.readableLen (Nat.le_refl _)
    rw [readAll, if_neg (Nat.lt_irrefl _), failed] at done
    cases done
  · intro mapped limit enough
    rw [readAll, if_neg (Nat.not_lt.mpr enough),
      readBuffers_held sound (placed_held readable mapped)]
    exact ⟨_, rfl⟩
  · intro writes d here _
    refine Classical.byContradiction fun unmapped => ?_
    -- More data than there is room for reaches every buffer.
    let data : List UInt8 := List.replicate (total c.writable + 1) 0
    obtain ⟨n, done⟩ := writes data
    have stuck : ∃ e, (fill data c.writable 0 m).1 = .error e :=
      fill_unmapped sound writable here unmapped (by simp [data])
    obtain ⟨e, failed⟩ := stuck
    rw [writeAll, failed] at done
    cases done
  · intro mapped data
    exact ⟨_, fill_held sound (placed_held writable mapped) (Nat.zero_le _)⟩
  · intro d here x covers
    obtain ⟨low, high⟩ := covers
    have some : d.len ≠ 0 := by
      intro zero
      rw [zero] at high
      exact Nat.lt_irrefl _ (Nat.lt_of_lt_of_le high low)
    obtain ⟨r, region, contains, fits⟩ := placed d here some
    have start := (Region.contains_iff.mp contains).1
    exact mapped_iff.mpr ⟨r, region, Region.contains_iff.mpr (by omega)⟩

-- A chain that was accepted stays accessible on the same regions, whatever they hold by then.
theorem accepted_accessible [Host] {ranges : List (GuestAddress × UInt64)}
    (built : GuestMemory.new ranges = .ok m₀) (walked : m.layout = m₀.layout)
    (later : m'.layout = m₀.layout) (accepted : new m table queueSize head = .ok c) :
    c.Accessible m' :=
  placed_accessible ((new_sound built).congr later) fun d here =>
    (new_placed accepted d here).congr (later.trans walked.symm)

-- The chain is one readable buffer of five bytes.
theorem accepted_accessible_hello :
    ∃ m₀ m c, GuestMemory.new [(0, 0x1000)] = .ok m₀ ∧
      m₀.writeObject 0x100 (Bytes.ofNat 0x200 8 ++ Bytes.ofNat 5 8) = .ok m ∧
      m.layout = m₀.layout ∧ new m 0x100 1 0 = .ok c ∧ c.readableLen = 5 ∧ c.Accessible m := by
  have ran : ((GuestMemory.new [(0, 0x1000)]).toOption.any fun m₀ =>
      (m₀.writeObject 0x100 (Bytes.ofNat 0x200 8 ++ Bytes.ofNat 5 8)).toOption.any fun m =>
        (new m 0x100 1 0).toOption.any fun c => c.readableLen = 5) = true := by
    decide +kernel
  obtain ⟨m₀, built, ran⟩ := Checked.ok_of_any ran
  obtain ⟨m, wrote, ran⟩ := Checked.ok_of_any ran
  obtain ⟨c, accepted, len⟩ := Checked.ok_of_any ran
  have layout := (writeObject_wrote (new_sound built) wrote).2.layout
  exact ⟨m₀, m, c, built, wrote, layout, accepted, of_decide_eq_true len,
    accepted_accessible built layout layout accepted⟩

-- An empty buffer at an address that is not mapped is accepted, and then no limit is high enough
-- for reading the chain.
theorem accepted_unreadable :
    ∃ m c, GuestMemory.new [(0x1000, 0x1000)] = .ok m ∧ new m 0x1000 1 0 = .ok c ∧
      c.readableLen = 0 ∧ ∀ limit, c.readAll m limit = .error (.bufferRead 0 (.invalidAddress 0)) := by
  have ran : ((GuestMemory.new [(0x1000, 0x1000)]).toOption.any fun m =>
      (new m 0x1000 1 0).toOption.any fun c =>
        (m.byte? 0).isNone && c = ⟨0, [⟨0, 0, .readable⟩]⟩) = true := by
    decide +kernel
  obtain ⟨m, built, ran⟩ := Checked.ok_of_any ran
  obtain ⟨c, accepted, ran⟩ := Checked.ok_of_any ran
  obtain ⟨absent, same⟩ := Bool.and_eq_true_iff.mp ran
  cases of_decide_eq_true same
  have unmapped : ¬ m.Mapped 0 := by
    unfold Mapped
    rw [Option.isNone_iff_eq_none.mp absent]
    exact Bool.false_ne_true
  refine ⟨m, _, built, accepted, rfl, fun limit => ?_⟩
  have read : readBuffers m [⟨0, 0, .readable⟩] = .error (.bufferRead 0 (.invalidAddress 0)) := by
    rw [readBuffers, readExact_unmapped unmapped]
  exact (if_neg (Nat.not_lt_zero limit)).trans read

end DescriptorChain

end VmMonitor
