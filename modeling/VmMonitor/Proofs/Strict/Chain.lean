import VmMonitor.Proofs.Strict.Memory
import VmMonitor.Proofs.Virtqueue.Chain

/-!
Descriptor chains with every operation checked. The walk gives up before the bytes of either kind
exceed what a used ring entry can tell, so their sums fit; and what is cut out of the data for a
buffer lies between what was written before and its end.
-/

namespace VmMonitor

open Checked GuestMemory

namespace TableEntry

def strictRead (m : GuestMemory) (table : GuestAddress) (i : UInt16) :
    Checked (Except MemoryError TableEntry) := do
  let offset ← product 64 DescriptorChain.entrySize i.toNat
  let address := GuestAddress.wrappingAdd table (UInt64.ofNat offset)
  return (← m.strictReadObject address DescriptorChain.entrySize).map decode

theorem strictRead_ok (m : GuestMemory) (table : GuestAddress) (i : UInt16) :
    strictRead m table i = .ok (read m table i) := by
  have small := i.toNat_lt
  unfold strictRead read
  rw [bind_ok (product_ok (by rw [DescriptorChain.entrySize]; omega)),
    bind_ok (m.strictReadObject_ok ..)]
  dsimp only
  cases m.readObject _ DescriptorChain.entrySize <;> rfl

end TableEntry

namespace DescriptorChain

def Tally.strictAdd (t : Tally) (d : Descriptor) : Checked Tally :=
  match d.access with
  | .readable => do return { t with readable := ← sum 64 t.readable d.len.toNat }
  | .writable => do
      return { t with writable := ← sum 64 t.writable d.len.toNat, writableSeen := true }

def strictAccept (m : GuestMemory) (head i : UInt16) (t : Tally) (d : Descriptor) :
    Checked (Except ChainError Tally) :=
  if d.access = .readable ∧ t.writableSeen then .ok (.error (.readableAfterWritable i))
  else do
    if !(← m.strictValidRange d.address d.len.toUInt64) then
      return .error (.bufferOutsideMemory i d.address d.len)
    let t ← t.strictAdd d
    if !t.fits then return .error (.tooManyBytes head) else return .ok t

def strictWalk (m : GuestMemory) (table : GuestAddress) (queueSize head : UInt16) :
    Nat → UInt16 → Tally → Checked (Except ChainError (List Descriptor))
  | room, i, t =>
      if queueSize ≤ i then .ok (.error (.indexOutOfBounds i queueSize))
      else match room with
        | 0 => .ok (.error (.tooLong head))
        | room + 1 => do
            match ← TableEntry.strictRead m table i with
            | .error cause => return .error (.unreadableDescriptor i cause)
            | .ok e =>
                match ← strictAccept m head i t e.descriptor with
                | .error cause => return .error cause
                | .ok t =>
                    match e.next? with
                    | none => return .ok [e.descriptor]
                    | some j =>
                        return (← strictWalk m table queueSize head room j t).map
                          (e.descriptor :: ·)

def strictNew (m : GuestMemory) (table : GuestAddress) (queueSize head : UInt16) :
    Checked (Except ChainError DescriptorChain) := do
  return (← strictWalk m table queueSize head queueSize.toNat head .none).map (⟨head, ·⟩)

-- The bytes in all buffers of a list, added up one by one.
def strictTotal (ds : List Descriptor) : Checked Nat :=
  ds.foldlM (fun n d => sum 64 n d.len.toNat) 0

-- Reads whole buffers into a block of `size` bytes, from `offset` on.
def strictReadBuffers (m : GuestMemory) (size : Nat) :
    List Descriptor → Nat → Checked (Except ChainError (List UInt8))
  | [], _ => .ok (.ok [])
  | d :: rest, offset => do
      let next ← sum 64 offset d.len.toNat
      ensure (next ≤ size)
      match ← m.strictReadExact d.address d.len.toNat with
      | .error cause => return .error (.bufferRead d.address cause)
      | .ok data => return (← strictReadBuffers m size rest next).map (data ++ ·)

def strictReadAll (c : DescriptorChain) (m : GuestMemory) (limit : Nat) :
    Checked (Except ChainError (List UInt8)) := do
  let len ← strictTotal c.readable
  if limit < len then return .error (.overLimit len limit)
  else strictReadBuffers m len c.readable 0

-- Hands out one buffer from byte `done` on, through a block that one piece fills at most.
def strictFeedBuffer {σ : Type} (m : GuestMemory)
    (take : σ → List UInt8 → Except String Unit × σ) (d : Descriptor) :
    Nat → Nat → σ → Checked (Except ChainError Unit × σ)
  | 0, _, _ => .error .unfinished
  | rounds + 1, done, s =>
      if d.len.toNat ≤ done then .ok (.ok (), s)
      else do
        let piece := min pieceSize (← subNat d.len.toNat done)
        ensure (piece ≤ pieceSize)
        let address := GuestAddress.wrappingAdd d.address (UInt64.ofNat done)
        match ← m.strictReadExact address piece with
        | .error cause => return (.error (.bufferRead address cause), s)
        | .ok data =>
            match take s data with
            | (.error reason, s) => return (.error (.consumer reason), s)
            | (.ok (), s) => strictFeedBuffer m take d rounds (← sum 64 done piece) s

def strictFeed {σ : Type} (m : GuestMemory) (take : σ → List UInt8 → Except String Unit × σ) :
    List Descriptor → σ → Checked (Except ChainError Unit × σ)
  | [], s => .ok (.ok (), s)
  | d :: rest, s => do
      match ← strictFeedBuffer m take d (d.len.toNat + 1) 0 s with
      | (.error e, s) => return (.error e, s)
      | (.ok (), s) => strictFeed m take rest s

def strictFill (data : List UInt8) :
    List Descriptor → Nat → GuestMemory → Checked (Except ChainError Nat × GuestMemory)
  | [], written, m => .ok (.ok written, m)
  | d :: rest, written, m =>
      if written = data.length then .ok (.ok written, m)
      else do
        let count := min d.len.toNat (← subNat data.length written)
        let part ← slice data written count
        match ← m.strictWriteAll d.address part with
        | (.error cause, m) => return (.error (.bufferWrite d.address cause), m)
        | (.ok (), m) => strictFill data rest (written + count) m

-- A chain of which the used ring can tell how much was read or written.
structure Bounded (c : DescriptorChain) : Prop where
  readable : total c.readable ≤ maxBytes
  writable : total c.writable ≤ maxBytes

variable {m : GuestMemory} {table : GuestAddress} {queueSize head : UInt16} {t t' : Tally}
  {c : DescriptorChain} {ds : List Descriptor} {data : List UInt8}

-- The walk.

theorem Tally.fits_iff : t.fits = true ↔ t.readable ≤ maxBytes ∧ t.writable ≤ maxBytes := by
  simp only [fits, Bool.and_eq_true, decide_eq_true_eq]

theorem Tally.strictAdd_ok (fits : t.fits = true) (d : Descriptor) :
    t.strictAdd d = .ok (t.add d) := by
  obtain ⟨readable, writable⟩ := fits_iff.mp fits
  have small := d.len.toNat_lt
  have most : maxBytes = 4294967295 := rfl
  unfold strictAdd add
  cases d.access with
  | readable =>
      dsimp only
      rw [bind_ok (sum_ok (by omega))]
      rfl
  | writable =>
      dsimp only
      rw [bind_ok (sum_ok (by omega))]
      rfl

theorem strictAccept_ok (fits : t.fits = true) (m : GuestMemory) (head i : UInt16)
    (d : Descriptor) : strictAccept m head i t d = .ok (accept m head i t d) := by
  unfold strictAccept accept
  split
  · rfl
  rw [bind_ok (m.strictValidRange_ok ..)]
  split
  · rfl
  rw [bind_ok (Tally.strictAdd_ok fits d)]
  split <;> rfl

theorem accept_fits {i : UInt16} {d : Descriptor} (done : accept m head i t d = .ok t') :
    t' = t.add d ∧ t'.fits = true := by
  unfold accept at done
  split at done
  · cases done
  split at done
  · cases done
  split at done
  · cases done
  · rename_i fits
    cases done
    exact ⟨rfl, by simpa using fits⟩

theorem strictWalk_ok (fits : t.fits = true) (m : GuestMemory) (table : GuestAddress)
    (queueSize head : UInt16) (room : Nat) (i : UInt16) :
    strictWalk m table queueSize head room i t = .ok (walk m table queueSize head room i t) := by
  induction room generalizing i t with
  | zero =>
      unfold strictWalk walk
      split <;> rfl
  | succ room ih =>
      unfold strictWalk walk
      split
      · rfl
      dsimp only
      rw [bind_ok (TableEntry.strictRead_ok ..)]
      cases TableEntry.read m table i with
      | error cause => rfl
      | ok e =>
          dsimp only
          rw [bind_ok (strictAccept_ok fits ..)]
          cases accepted : accept m head i t e.descriptor with
          | error cause => rfl
          | ok t' =>
              dsimp only
              cases e.next? with
              | none => rfl
              | some j =>
                  dsimp only
                  rw [bind_ok (ih (accept_fits accepted).2 j)]
                  rfl

theorem strictNew_ok (m : GuestMemory) (table : GuestAddress) (queueSize head : UInt16) :
    strictNew m table queueSize head = .ok (new m table queueSize head) := by
  have fits : Tally.none.fits = true := rfl
  unfold strictNew new
  rw [bind_ok (strictWalk_ok fits ..)]
  cases walk m table queueSize head queueSize.toNat head .none <;> rfl

theorem Tally.add_total (t : Tally) (d : Descriptor) :
    (t.add d).readable = t.readable + total ([d].filter (·.access = .readable)) ∧
      (t.add d).writable = t.writable + total ([d].filter (·.access = .writable)) := by
  unfold add
  cases access : d.access <;> simp [access, total]

theorem total_append (ds es : List Descriptor) : total (ds ++ es) = total ds + total es := by
  unfold total
  induction ds with
  | nil => simp
  | cons d rest ih => rw [List.cons_append, List.foldr_cons, List.foldr_cons, ih]; omega

-- What was counted on the way and what is left of the chain fit together.
theorem walk_bounded {room : Nat} {i : UInt16}
    (done : walk m table queueSize head room i t = .ok ds) :
    t.readable + total (ds.filter (·.access = .readable)) ≤ maxBytes ∧
      t.writable + total (ds.filter (·.access = .writable)) ≤ maxBytes := by
  induction room generalizing i t ds with
  | zero =>
      unfold walk at done
      split at done <;> cases done
  | succ room ih =>
      unfold walk at done
      split at done
      · cases done
      dsimp only at done
      split at done
      · cases done
      rename_i e _
      split at done
      · cases done
      rename_i accepted
      obtain ⟨rfl, fits⟩ := accept_fits accepted
      obtain ⟨readable, writable⟩ := t.add_total e.descriptor
      split at done
      · cases done
        have both := Tally.fits_iff.mp fits
        rwa [readable, writable] at both
      · rename_i j _
        obtain ⟨rest, walked, rfl⟩ := Checked.map_eq_ok.mp done
        have later := ih walked
        rw [readable, writable] at later
        have split (p : Descriptor → Bool) :
            (e.descriptor :: rest).filter p = [e.descriptor].filter p ++ rest.filter p :=
          List.filter_append [e.descriptor] rest
        rw [split, split, total_append, total_append]
        omega

theorem new_bounded (accepted : new m table queueSize head = .ok c) : c.Bounded := by
  unfold new at accepted
  obtain ⟨ds, walked, accepted⟩ := Checked.bind_eq_ok.mp accepted
  cases accepted
  have both := walk_bounded walked
  have none : Tally.none.readable = 0 ∧ Tally.none.writable = 0 := ⟨rfl, rfl⟩
  rw [none.1, none.2, Nat.zero_add, Nat.zero_add] at both
  exact ⟨both.1, both.2⟩

-- Sums of lengths.

theorem strictTotal_from {n : Nat} (fits : n + total ds < 2 ^ 64) :
    ds.foldlM (fun n d => sum 64 n d.len.toNat) n = .ok (n + total ds) := by
  induction ds generalizing n with
  | nil => rfl
  | cons d rest ih =>
      have parts : total (d :: rest) = d.len.toNat + total rest := rfl
      rw [parts] at fits ⊢
      rw [List.foldlM_cons, bind_ok (sum_ok (by omega)), ih (by omega), Nat.add_assoc]

theorem strictTotal_ok (fits : total ds ≤ maxBytes) : strictTotal ds = .ok (total ds) := by
  have most : maxBytes = 4294967295 := rfl
  unfold strictTotal
  rw [strictTotal_from (by omega), Nat.zero_add]

-- Reading whole buffers.

theorem strictReadBuffers_ok {size offset : Nat} (fits : offset + total ds ≤ size)
    (small : size < 2 ^ 64) (m : GuestMemory) :
    strictReadBuffers m size ds offset = .ok (readBuffers m ds) := by
  induction ds generalizing offset with
  | nil => rfl
  | cons d rest ih =>
      have parts : total (d :: rest) = d.len.toNat + total rest := rfl
      rw [parts] at fits
      unfold strictReadBuffers readBuffers
      rw [bind_ok (sum_ok (by omega)), bind_ok (ensure_ok (by omega)),
        bind_ok (m.strictReadExact_ok ..)]
      cases m.readExact d.address d.len.toNat with
      | error cause => rfl
      | ok data =>
          dsimp only
          rw [bind_ok (ih (by omega))]
          cases readBuffers m rest <;> rfl

theorem readableLen_total (c : DescriptorChain) : c.readableLen = total c.readable := rfl

theorem Bounded.strictReadAll_ok (bounded : c.Bounded) (m : GuestMemory) (limit : Nat) :
    c.strictReadAll m limit = .ok (c.readAll m limit) := by
  have readable := bounded.readable
  have most : maxBytes = 4294967295 := rfl
  unfold strictReadAll readAll
  rw [bind_ok (strictTotal_ok readable), readableLen_total,
    strictReadBuffers_ok (by omega) (by omega)]
  split <;> rfl

-- Reading in pieces.

theorem feed_append {σ : Type} {take : σ → List UInt8 → Except String Unit × σ}
    (m : GuestMemory) (ps qs : List (GuestAddress × Nat)) (s : σ) :
    feed m take (ps ++ qs) s = match feed m take ps s with
      | (.error e, s) => (.error e, s)
      | (.ok (), s) => feed m take qs s := by
  induction ps generalizing s with
  | nil => rfl
  | cons p rest ih =>
      rw [List.cons_append, feed, feed]
      cases m.readExact p.1 p.2 with
      | error cause => rfl
      | ok data =>
          dsimp only
          rcases take s data with ⟨⟨reason⟩ | ⟨⟩, s'⟩
          · rfl
          · exact ih s'

theorem length_piecesOf (d : Descriptor) :
    (piecesOf d).length = (d.len.toNat + (pieceSize - 1)) / pieceSize := by
  rw [piecesOf, List.length_map, List.length_range]

-- From piece `k` on, with enough rounds for the pieces that are left and one to see the end.
theorem strictFeedBuffer_ok {σ : Type} (m : GuestMemory)
    (take : σ → List UInt8 → Except String Unit × σ) (d : Descriptor) (rounds k : Nat)
    (reached : k ≤ (piecesOf d).length) (enough : (piecesOf d).length < k + rounds) (s : σ) :
    strictFeedBuffer m take d rounds (min (pieceSize * k) d.len.toNat) s =
      .ok (feed m take ((piecesOf d).drop k) s) := by
  have small := d.len.toNat_lt
  have size : pieceSize = 4096 := rfl
  have count := length_piecesOf d
  rw [size] at count
  induction rounds generalizing k s with
  | zero => omega
  | succ rounds ih =>
      unfold strictFeedBuffer
      split
      · rename_i atEnd
        rw [size] at atEnd
        rw [List.drop_eq_nil_of_le (by omega)]
        rfl
      · rename_i more
        rw [size] at more
        have later : k < (piecesOf d).length := by omega
        have start : min (pieceSize * k) d.len.toNat = pieceSize * k := by
          rw [size]
          omega
        have next : min (pieceSize * (k + 1)) d.len.toNat =
            pieceSize * k + min pieceSize (d.len.toNat - pieceSize * k) := by
          rw [size]
          omega
        have piece : (piecesOf d)[k] =
            (GuestAddress.wrappingAdd d.address (UInt64.ofNat (pieceSize * k)),
              min pieceSize (d.len.toNat - pieceSize * k)) := by
          simp only [piecesOf, List.getElem_map, List.getElem_range]
        rw [start, bind_ok (subNat_ok (by rw [size]; omega)), List.drop_eq_getElem_cons later,
          piece, feed]
        dsimp only
        rw [bind_ok (ensure_ok (Nat.min_le_left ..)), bind_ok (m.strictReadExact_ok ..)]
        cases m.readExact _ (min pieceSize (d.len.toNat - pieceSize * k)) with
        | error cause => rfl
        | ok data =>
            dsimp only
            rcases take s data with ⟨⟨reason⟩ | ⟨⟩, s'⟩
            · rfl
            · dsimp only
              rw [bind_ok (sum_ok (by rw [size]; omega)), ← next]
              exact ih (k + 1) later (by omega) s'

theorem strictFeed_ok {σ : Type} (m : GuestMemory)
    (take : σ → List UInt8 → Except String Unit × σ) (ds : List Descriptor) (s : σ) :
    strictFeed m take ds s = .ok (feed m take (ds.flatMap piecesOf) s) := by
  induction ds generalizing s with
  | nil => rfl
  | cons d rest ih =>
      have count := length_piecesOf d
      have size : pieceSize = 4096 := rfl
      rw [size] at count
      have buffer := strictFeedBuffer_ok m take d (d.len.toNat + 1) 0 (Nat.zero_le _) (by omega) s
      rw [Nat.mul_zero, Nat.zero_min, List.drop_zero] at buffer
      unfold strictFeed
      rw [bind_ok buffer, List.flatMap_cons, feed_append]
      rcases feed m take (piecesOf d) s with ⟨⟨e⟩ | ⟨⟩, s'⟩
      · rfl
      · exact ih s'

-- Filling buffers.

theorem strictFill_ok {written : Nat} (le : written ≤ data.length) (ds : List Descriptor)
    (m : GuestMemory) : strictFill data ds written m = .ok (fill data ds written m) := by
  induction ds generalizing written m with
  | nil => rfl
  | cons d rest ih =>
      unfold strictFill fill
      split
      · rfl
      have part : (data.drop written).take (min d.len.toNat (data.length - written)) =
          (data.drop written).take d.len.toNat := by
        rw [← List.length_drop, ← List.take_eq_take_min]
      have count : ((data.drop written).take d.len.toNat).length =
          min d.len.toNat (data.length - written) := by
        rw [List.length_take, List.length_drop]
      rw [bind_ok (subNat_ok le), bind_ok (slice_ok (by omega)), part,
        bind_ok (m.strictWriteAll_ok ..)]
      dsimp only
      rw [count]
      rcases m.writeAll d.address ((data.drop written).take d.len.toNat) with ⟨⟨cause⟩ | ⟨⟩, m'⟩
      · rfl
      · exact ih (by omega) m'

-- No more is written than there is.
theorem fill_le {written n : Nat} {m : GuestMemory} (le : written ≤ data.length)
    (done : (fill data ds written m).1 = .ok n) : n ≤ data.length := by
  induction ds generalizing written m with
  | nil =>
      cases done
      exact le
  | cons d rest ih =>
      unfold fill at done
      split at done
      · cases done
        exact le
      · dsimp only at done
        split at done
        · cases done
        · refine ih ?_ done
          rw [List.length_take, List.length_drop]
          omega

end DescriptorChain

end VmMonitor
