import VmMonitor.Proofs.Strict.Chain

/-!
What is read from a chain and written to it. Taken as a whole or in pieces, the readable buffers
yield the same bytes, those of the buffers one after the other; and data is laid over the writable
buffers in the same way, so that nothing is lost at their borders.
-/

namespace VmMonitor

open GuestMemory

namespace GuestMemory

variable {m m' : GuestMemory} {a : GuestAddress} {n : Nat} {data : List UInt8}

-- Data that is laid over older bytes, from the first one on. What finds no room is left out.
def overlay (data old : List UInt8) : List UInt8 := data.take old.length ++ old.drop data.length

theorem overlay_append (data old older : List UInt8) :
    overlay data (old ++ older) = overlay data old ++ overlay (data.drop old.length) older := by
  unfold overlay
  rw [List.length_append, List.take_add, List.drop_append, List.length_drop]
  by_cases short : data.length ≤ old.length
  · rw [List.drop_eq_nil_of_le short]
    simp
  · rw [List.drop_eq_nil_of_le (by omega : old.length ≤ data.length)]
    simp

theorem take_overlay {old : List UInt8} {k : Nat} (short : k ≤ data.length) (room : k ≤ old.length) :
    (overlay data old).take k = data.take k := by
  unfold overlay
  rw [List.take_append_of_le_length (by rw [List.length_take]; omega), List.take_take,
    Nat.min_eq_left room]

-- A write of as much of the data as finds room.
theorem Wrote.contents (sound : m.Sound) (holds : m.Holds a n)
    (wrote : m.Wrote a (data.take n) m') :
    m'.contents a n = overlay data (m.contents a n) := by
  have below := sound.fits holds
  have le : (data.take n).length ≤ n := List.length_take_le ..
  have stored := wrote.read_back sound (holds.shorter le) (Nat.le_refl _)
  rw [List.take_length] at stored
  obtain ⟨rest, split⟩ := Nat.exists_eq_add_of_le le
  have place := GuestAddress.toNat_add (a := a) (i := (data.take n).length) (by omega)
  have whole (m : GuestMemory) : m.contents a n = m.contents a (data.take n).length ++
      m.contents (a + UInt64.ofNat (data.take n).length) rest := by
    rw [← contents_add, ← split]
  have beyond : (m.contents a n).drop data.length =
      m.contents (a + UInt64.ofNat (data.take n).length) rest := by
    have same : (m.contents a n).drop data.length =
        (m.contents a n).drop (data.take n).length := by
      rw [List.drop_eq_drop_iff, length_contents, List.length_take]
      omega
    rw [same, whole, List.drop_left' (length_contents ..)]
  rw [overlay, length_contents, beyond, whole, stored, wrote.read_apart (by omega) (by omega)]

end GuestMemory

namespace Descriptor

-- The buffers share no address.
def Apart (d e : Descriptor) : Prop := ∀ x, ¬ (d.Covers x ∧ e.Covers x)

end Descriptor

namespace DescriptorChain

open Descriptor

variable {m m' m₀ : GuestMemory} {c : DescriptorChain} {ds : List Descriptor} {data : List UInt8}
  {table : GuestAddress} {queueSize head : UInt16}

-- The bytes of the buffers one after the other.
def joined (m : GuestMemory) (ds : List Descriptor) : List UInt8 :=
  ds.flatMap fun d => m.contents d.address d.len.toNat

theorem length_joined (m : GuestMemory) (ds : List Descriptor) :
    (joined m ds).length = total ds := by
  induction ds with
  | nil => rfl
  | cons d rest ih =>
      rw [joined, List.flatMap_cons, List.length_append, length_contents]
      exact congrArg (d.len.toNat + ·) ih

-- Buffers read the same as long as their addresses keep their bytes.
theorem joined_kept (sound : m.Sound) (placed : ∀ d ∈ ds, d.Placed m)
    (kept : ∀ d ∈ ds, ∀ x, d.Covers x → m'.byte? x = m.byte? x) : joined m' ds = joined m ds := by
  unfold joined
  induction ds with
  | nil => rfl
  | cons d rest ih =>
      have first : m'.contents d.address d.len.toNat = m.contents d.address d.len.toNat := by
        by_cases empty : d.len = 0
        · rw [empty]
          rfl
        · exact contents_congr (fun x low high => kept d List.mem_cons_self x ⟨low, high⟩)
            (sound.fits (placed d List.mem_cons_self empty))
      rw [List.flatMap_cons, List.flatMap_cons, first,
        ih (fun e later => placed e (.tail _ later)) (fun e later => kept e (.tail _ later))]

-- Reading in pieces.

-- Pieces of at most `size` bytes make up the whole, however far one goes.
theorem chunks_contents (m : GuestMemory) (a : GuestAddress) (size n k : Nat) :
    ((List.range k).flatMap fun i =>
      m.contents (a + UInt64.ofNat (size * i)) (min size (n - size * i))) =
        m.contents a (min (size * k) n) := by
  induction k with
  | zero =>
      rw [Nat.mul_zero, Nat.zero_min]
      rfl
  | succ k ih =>
      rw [List.range_succ, List.flatMap_append, ih, List.flatMap_singleton]
      by_cases more : size * k ≤ n
      · have whole : min (size * (k + 1)) n = size * k + min size (n - size * k) := by
          rw [Nat.mul_succ]
          omega
        rw [Nat.min_eq_left more, whole, contents_add]
      · have none : n - size * k = 0 := by omega
        have whole : min (size * (k + 1)) n = min (size * k) n := by
          rw [Nat.mul_succ]
          omega
        rw [none, Nat.min_zero, whole]
        exact List.append_nil _

theorem piecesOf_contents (m : GuestMemory) (d : Descriptor) :
    ((piecesOf d).flatMap fun p => m.contents p.1 p.2) = m.contents d.address d.len.toNat := by
  have chunks := chunks_contents m d.address pieceSize d.len.toNat
    ((d.len.toNat + (pieceSize - 1)) / pieceSize)
  have all : min (pieceSize * ((d.len.toNat + (pieceSize - 1)) / pieceSize)) d.len.toNat =
      d.len.toNat := by
    rw [pieceSize]
    omega
  rw [all] at chunks
  rw [piecesOf, List.flatMap_map]
  exact chunks

theorem piecesOf_size {d : Descriptor} {piece : GuestAddress × Nat} (here : piece ∈ piecesOf d) :
    0 < piece.2 ∧ piece.2 ≤ 4096 := by
  obtain ⟨k, listed, rfl⟩ := List.mem_map.mp here
  have count := List.mem_range.mp listed
  rw [pieceSize] at count ⊢
  dsimp only
  omega

theorem pieces_joined (c : DescriptorChain) (m : GuestMemory) :
    (c.pieces.map fun p => m.contents p.1 p.2).flatten = joined m c.readable := by
  have each : (fun d => (piecesOf d).flatMap fun p => m.contents p.1 p.2) =
      fun d => m.contents d.address d.len.toNat := funext (piecesOf_contents m)
  rw [← List.flatMap_def, pieces, List.flatMap_assoc, each]
  rfl

theorem pieces_size (c : DescriptorChain) (m : GuestMemory) :
    ∀ piece ∈ c.pieces.map fun p => m.contents p.1 p.2, piece ≠ [] ∧ piece.length ≤ 4096 := by
  intro piece listed
  obtain ⟨p, here, rfl⟩ := List.mem_map.mp listed
  obtain ⟨d, _, cut⟩ := List.mem_flatMap.mp here
  obtain ⟨some, small⟩ := piecesOf_size cut
  rw [← List.length_pos_iff, length_contents]
  exact ⟨some, small⟩

-- Hands out pieces one by one until one is refused.
def consume {σ : Type} (take : σ → List UInt8 → Except String Unit × σ) :
    List (List UInt8) → σ → Except String Unit × σ
  | [], s => (.ok (), s)
  | piece :: rest, s =>
      match take s piece with
      | (.ok (), s) => consume take rest s
      | (.error reason, s) => (.error reason, s)

theorem feed_consume {σ : Type} {pieces : List (GuestAddress × Nat)} (sound : m.Sound)
    (held : ∀ p ∈ pieces, m.Holds p.1 p.2) (take : σ → List UInt8 → Except String Unit × σ)
    (s : σ) :
    feed m take pieces s =
      ((consume take (pieces.map fun p => m.contents p.1 p.2) s).1.mapError .consumer,
        (consume take (pieces.map fun p => m.contents p.1 p.2) s).2) := by
  induction pieces generalizing s with
  | nil => rfl
  | cons p rest ih =>
      have later := ih fun q there => held q (List.mem_cons_of_mem _ there)
      simp only [feed, readExact_holds sound (held p List.mem_cons_self), List.map_cons, consume]
      rcases take s (m.contents p.1 p.2) with ⟨⟨reason⟩ | ⟨⟩, s'⟩
      · rfl
      · exact later s'

-- Filling buffers.

-- Each buffer takes what is left of the data over its bytes, and the others leave it alone. An empty
-- buffer outside memory does no harm where the data has run out before it.
theorem fill_done (sound : m.Sound) (placed : ∀ d ∈ ds, d.Placed m) (apart : ds.Pairwise Apart)
    {written n : Nat} (le : written ≤ data.length)
    (done : fill data ds written m = (.ok n, m')) :
    n = min data.length (written + total ds) ∧
      joined m' ds = overlay (data.drop written) (joined m ds) := by
  induction ds generalizing written m with
  | nil =>
      cases done
      unfold overlay
      simp [joined, total, le]
  | cons d rest ih =>
      obtain ⟨others, apart⟩ := List.pairwise_cons.mp apart
      have later : ∀ e ∈ rest, e.Placed m := fun e there => placed e (.tail _ there)
      by_cases full : written = data.length
      · rw [fill, if_pos full] at done
        cases done
        rw [full, List.drop_length]
        unfold overlay
        simp
      rcases (placed d List.mem_cons_self).cases with here | ⟨_, absent⟩
      · obtain ⟨middle, wrote, same⟩ := fill_cons sound here full rest
        rw [same] at done
        have sound' := sound.congr wrote.layout
        have placed' : ∀ e ∈ rest, e.Placed middle := fun e there => (later e there).congr wrote.layout
        have sum : total (d :: rest) = d.len.toNat + total rest := rfl
        have next : data.drop (written + min d.len.toNat (data.length - written)) =
            (data.drop written).drop d.len.toNat := by
          rw [List.drop_drop, List.drop_eq_drop_iff]
          omega
        have untouched : joined middle rest = joined m rest :=
          joined_kept sound later fun e there x covers =>
            kept_outside wrote fun own => others e there x ⟨own, covers⟩
        obtain ⟨count, tail⟩ := ih sound' placed' apart (by omega) done
        rw [next, untouched] at tail
        -- The buffers that are filled later leave the first one as it is now.
        have kept : m'.contents d.address d.len.toNat = middle.contents d.address d.len.toNat := by
          refine contents_congr (fun x low high => Classical.byContradiction fun changed => ?_)
            (sound.fits here)
          have after : (fill data rest (written + min d.len.toNat (data.length - written))
              middle).2 = m' := by rw [done]
          rw [← after] at changed
          obtain ⟨e, there, covers⟩ := fill_confined sound' placed' _ changed
          exact others e there x ⟨⟨low, high⟩, covers⟩
        have parts (m : GuestMemory) :
            joined m (d :: rest) = m.contents d.address d.len.toNat ++ joined m rest := rfl
        refine ⟨by omega, ?_⟩
        rw [parts, parts, kept, wrote.contents sound here, tail, overlay_append, length_contents]
      · rw [fill, if_neg full] at done
        dsimp only at done
        rw [writeAll_unmapped absent] at done
        cases done

theorem fill_joined (sound : m.Sound) (held : ∀ d ∈ ds, m.Holds d.address d.len.toNat)
    (apart : ds.Pairwise Apart) {written : Nat} (le : written ≤ data.length) :
    joined (fill data ds written m).2 ds = overlay (data.drop written) (joined m ds) :=
  (fill_done sound (fun d here _ => held d here) apart le
    (Prod.ext (fill_held sound held le) rfl)).2

-- What comes of reading a chain and of writing to it.
structure Faithful (c : DescriptorChain) (m : GuestMemory) : Prop where
  whole : ∀ limit, c.readableLen ≤ limit → c.readAll m limit = .ok (joined m c.readable)
  -- The pieces are the same for every consumer, and it gets them until it refuses one.
  pieces : ∃ ps : List (List UInt8), (∀ p ∈ ps, p ≠ [] ∧ p.length ≤ 4096) ∧
    ps.flatten = joined m c.readable ∧
    ∀ (σ : Type) (take : σ → List UInt8 → Except String Unit × σ) (s : σ),
      c.readPieces m take s =
        ((consume take ps s).1.mapError .consumer, (consume take ps s).2)
  written : ∀ data, (c.writeAll m data).1 = .ok (min data.length c.writableLen)
  filled : c.writable.Pairwise Apart → ∀ data,
    joined (c.writeAll m data).2 c.writable =
      data.take (min data.length c.writableLen) ++
        (joined m c.writable).drop (min data.length c.writableLen)
  confined : ∀ data x, (∀ d ∈ c.writable, ¬ d.Covers x) →
    (c.writeAll m data).2.byte? x = m.byte? x

theorem held_faithful (sound : m.Sound)
    (held : ∀ d ∈ c.descriptors, m.Holds d.address d.len.toNat) : c.Faithful m := by
  have readable : ∀ d ∈ c.readable, m.Holds d.address d.len.toNat :=
    fun d here => held d (List.mem_filter.mp here).1
  have writable : ∀ d ∈ c.writable, m.Holds d.address d.len.toNat :=
    fun d here => held d (List.mem_filter.mp here).1
  refine ⟨fun limit enough => ?_, ?_, fun data => ?_, fun apart data => ?_,
    fun data x outside => ?_⟩
  · rw [readAll, if_neg (Nat.not_lt.mpr enough), readBuffers_held sound readable]
    rfl
  · have pieces := pieces_held sound fun d here _ => readable d here
    have handed (σ : Type) (take : σ → List UInt8 → Except String Unit × σ) (s : σ) :=
      feed_consume sound pieces take s
    exact ⟨_, pieces_size c m, pieces_joined c m, handed⟩
  · rw [writeAll, fill_held sound writable (Nat.zero_le _), Nat.zero_add, writableLen_total]
  · have laid : joined (fill data c.writable 0 m).2 c.writable =
        overlay (data.drop 0) (joined m c.writable) :=
      fill_joined sound writable apart (Nat.zero_le _)
    have size := length_joined m c.writable
    rw [← writableLen_total] at size
    rw [writeAll, laid, List.drop_zero, overlay]
    congr 1
    · rw [List.take_eq_take_iff, size]
      omega
    · rw [List.drop_eq_drop_iff, size]
      omega
  · refine Classical.byContradiction fun changed => ?_
    obtain ⟨d, listed, covers⟩ := fill_confined sound (fun d here _ => writable d here) 0 changed
    exact outside d listed covers

-- A chain that was accepted and has all its addresses mapped, those of empty buffers too.
theorem accepted_faithful [Host] {ranges : List (GuestAddress × UInt64)}
    (built : GuestMemory.new ranges = .ok m₀) (walked : m.layout = m₀.layout)
    (later : m'.layout = m₀.layout) (accepted : new m table queueSize head = .ok c)
    (mapped : ∀ d ∈ c.descriptors, m'.Mapped d.address) : c.Faithful m' :=
  held_faithful ((new_sound built).congr later) <|
    placed_held (fun d here => (new_placed accepted d here).congr (later.trans walked.symm))
      fun d here _ => mapped d here

-- Five bytes to be read, an empty buffer, and room for eight.
theorem accepted_faithful_mixed :
    ∃ m₀ m c, GuestMemory.new [(0, 0x1000)] = .ok m₀ ∧ m.layout = m₀.layout ∧
      m₀.writeObject 0x100 (Bytes.ofNat 0x200 8 ++ Bytes.ofNat 5 4 ++ Bytes.ofNat 0x10001 4 ++
        Bytes.ofNat 0x200 8 ++ Bytes.ofNat 0 4 ++ Bytes.ofNat 0x20003 4 ++
        Bytes.ofNat 0x300 8 ++ Bytes.ofNat 8 4 ++ Bytes.ofNat 2 4) = .ok m ∧
      new m 0x100 4 0 = .ok c ∧
      c.descriptors = [⟨0x200, 5, .readable⟩, ⟨0x200, 0, .writable⟩, ⟨0x300, 8, .writable⟩] ∧
      (∀ d ∈ c.descriptors, m.Mapped d.address) ∧ c.Faithful m := by
  have ran : ((GuestMemory.new [(0, 0x1000)]).toOption.any fun m₀ =>
      (m₀.writeObject 0x100 (Bytes.ofNat 0x200 8 ++ Bytes.ofNat 5 4 ++ Bytes.ofNat 0x10001 4 ++
        Bytes.ofNat 0x200 8 ++ Bytes.ofNat 0 4 ++ Bytes.ofNat 0x20003 4 ++
        Bytes.ofNat 0x300 8 ++ Bytes.ofNat 8 4 ++ Bytes.ofNat 2 4)).toOption.any fun m =>
        (new m 0x100 4 0).toOption.any fun c =>
          c.descriptors.all (fun d => (m.byte? d.address).isSome) && c.descriptors =
            [⟨0x200, 5, .readable⟩, ⟨0x200, 0, .writable⟩, ⟨0x300, 8, .writable⟩]) = true := by
    decide +kernel
  obtain ⟨m₀, built, ran⟩ := Checked.ok_of_any ran
  obtain ⟨m, wrote, ran⟩ := Checked.ok_of_any ran
  obtain ⟨c, accepted, ran⟩ := Checked.ok_of_any ran
  obtain ⟨mapped, same⟩ := Bool.and_eq_true_iff.mp ran
  have mapped : ∀ d ∈ c.descriptors, m.Mapped d.address := List.all_eq_true.mp mapped
  have layout := (writeObject_wrote (new_sound built) wrote).2.layout
  exact ⟨m₀, m, c, built, layout, wrote, accepted, of_decide_eq_true same, mapped,
    accepted_faithful built layout layout accepted mapped⟩

end DescriptorChain

end VmMonitor
