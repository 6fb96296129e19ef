import VmMonitor.Proofs.Device.Banks
import VmMonitor.Proofs.Gic.Levels

/-!
The priority bytes of the distributor and the order of what waits. Every line whose byte is stored
goes to the end of the queue of its new priority, whether the byte is a new one or the one it had. A
guest that rewrites a word to change one byte of it lets the equals of all four lines pass.
-/

namespace VmMonitor

namespace Distributor

open Gic

variable {g : Gic} {b : Board} {first count : Nat} {value : UInt64}

-- What a store of priority bytes makes of the two lists.
structure Restacked (g g' : Gic) (first count : Nat) (value : UInt64) : Prop where
  ordered : g'.privateList.Ordered ∧ g'.sharedList.Ordered
  queue : ∀ own r, g'.queue own r =
    (g.queue own r).filter (fun n => ¬ (first ≤ n ∧ n < first + count)) ++
      (List.range' first count).filter fun n =>
        g.waits n ∧ own = decide (n < numPrivate) ∧ r = byteFor value first n

-- The lines of the stored bytes, as far as they exist.
def stored (first count : Nat) : List Nat := (List.range' first count).filter (· < numLines)

theorem priorityRequests_stored (few : count ≤ 8) (g : Gic) (value : UInt64) :
    (priorityRequests first count value).foldl Gic.apply g =
      (stored first count).foldl (fun g n => g.setPriority n (byteFor value first n)) g := by
  have asked : priorityRequests first count value =
      (stored first count).map fun n => .setPriority n (byteFor value first n) := by
    unfold priorityRequests stored
    rw [List.range'_eq_map_range, List.filter_map, List.map_map]
    refine List.map_congr_left fun i listed => ?_
    have small := List.mem_range.mp (List.mem_filter.mp listed).1
    rw [byteOf_for value first (by omega)]
    rfl
  rw [asked, List.foldl_map]
  rfl

theorem priorityRequests_restacked (q : g.Queued) (few : count ≤ 8) (value : UInt64) :
    Restacked g ((priorityRequests first count value).foldl Gic.apply g) first count value := by
  have q' := foldl_queued (priorityRequests first count value) q
  refine ⟨⟨q'.own.ordered, q'.shared.ordered⟩, fun own r => ?_⟩
  have mem (n : Nat) : n ∈ stored first count ↔ (first ≤ n ∧ n < first + count) ∧ n < numLines := by
    simp [stored, List.mem_range'_1]
  have once : (stored first count).Nodup := List.Nodup.filter _ (List.nodup_range' ..)
  rw [priorityRequests_stored few, setPriorities_queue q once]
  congr 1
  · refine List.filter_congr fun n listed => ?_
    have waits := ((mem_queue q).mp listed).2
    have listed : n < numLines := waits_exists (by rw [← due_waits, waits]; rfl)
    simp [mem, listed]
  · unfold stored
    rw [List.filter_filter]
    refine List.filter_congr fun n _ => ?_
    by_cases waits : g.waits n
    · simp [waits_exists waits]
    · simp [waits]

-- The bank of priorities, for an access of either width.
theorem priority_bank {offset : Nat} (inside : 0x400 ≤ offset ∧ offset < 0x800) :
    Bank.of offset = .priority (offset - 0x400) := by
  have banked : Banked offset := ⟨by omega, by omega⟩
  have place := banked.place
  generalize Bank.of offset = bank at place ⊢
  cases place with
  | priority within => rfl
  | _ within => omega

-- To give a line the priority that it has is no matter of indifference. Nor is a store to the bank of
-- priorities that changes no byte.
theorem priority_rewritten (reached : b.gic.Reached) :
    (∀ n l, b.gic.line? n = some l → b.gic.Renewed n l) ∧
    ∀ {bus : Bus MachineDevice} {s : Slot MachineDevice} {d : Distributor} {a : Access}
      {address : UInt64} {width : Width} {direction : Direction}, s.device = .distributor d →
      bus.route address width direction = .ok (.ok (s, a)) →
      0x400 ≤ a.offset.toNat ∧ a.offset.toNat < 0x800 → width = .word ∨ width = .byte →
      ∀ value, ∃ b', bus.write b address width value =
          .ok ⟨.ok (), bus.setDevice s.window.base s.device, b'⟩ ∧
        Performed b.gic b'.gic (asks a.offset.toNat width (width.truncate value)) ∧
        Restacked b.gic b'.gic (a.offset.toNat - 0x400) width.bytes (width.truncate value) := by
  have q := reached_queued reached
  refine ⟨fun n l found => setPriority_renewed q found, ?_⟩
  intro bus s d a address width direction behind routed inside either value
  have banked : Banked a.offset.toNat := ⟨by omega, by omega⟩
  have apart : ¬ Straddles a.offset.toNat := by unfold Straddles; omega
  have takes : Takes a.offset.toNat width := either.imp id fun byte => ⟨byte, by omega, by omega⟩
  obtain ⟨same, routes⟩ := Bus.route_either routed
  subst same
  refine ⟨_, banked_stored behind (routes .write) banked takes value, ?_, ?_⟩
  · have performed := requests_performed banked a.width (a.width.truncate value) b.gic
    rw [if_neg apart] at performed
    rwa [Board.gic_requests]
  · rw [Board.gic_requests, priority_bank inside]
    exact priorityRequests_restacked q a.width.bytes_le _

-- Line 41 was asserted first. The guest stores a word of four zero bytes, which are the bytes that are
-- there, and line 40 comes first.
theorem priority_rewritten_word :
    ∃ b b' : Board, b.gic.Reached ∧ (∃ l, b.gic.line? 41 = some l ∧ b.gic.Renewed 41 l) ∧
      (∀ n ∈ [40, 41, 42, 43], (b.gic.line? n).map (·.priority) = some 0) ∧
      b.gic.queue false 0 = [41, 40] ∧
      (loneAt 0x8000000).write b 0x8000428 .word 0 = .ok ⟨.ok (), loneAt 0x8000000, b'⟩ ∧
      b'.gic.queue false 0 = [40, 41] := by
  have ran : (initial.run [.request (.assert 41), .request (.assert 40)]).toOption.any fun g =>
      (∀ n ∈ [40, 41, 42, 43], (g.line? n).map (·.priority) = some 0) ∧
      g.queue false 0 = [41, 40] ∧ [40, 41, 42, 43].filter g.waits = [40, 41] := by
    rw [initial_listed]
    decide +kernel
  obtain ⟨g, ran, now⟩ := Checked.ok_of_any ran
  obtain ⟨zero, arrived, waiting⟩ := of_decide_eq_true now
  let b : Board := { quietBoard with gic := g }
  have reached : b.gic.Reached := ⟨_, ran⟩
  obtain ⟨lines, stores⟩ := priority_rewritten reached
  obtain ⟨l, found⟩ := line_found g (n := 41) (by decide)
  have routed : (loneAt 0x8000000).route 0x8000428 .word .write =
      .ok (.ok (⟨⟨0x8000000, windowSize⟩, .distributor .new⟩, ⟨0x428, 0x8000428, .word⟩)) := rfl
  obtain ⟨b', wrote, _, after⟩ := stores rfl routed (by decide) (.inl rfl) 0
  have restacked : Restacked g b'.gic 40 4 (Width.truncate .word 0) := after
  have left : (g.queue false 0).filter (fun n => ¬ (40 ≤ n ∧ n < 40 + 4)) = [] := by
    rw [arrived]
    rfl
  have zeros : ∀ n ∈ List.range' 40 4, decide (g.waits n ∧ false = decide (n < numPrivate) ∧
      0 = byteFor (Width.truncate .word 0) 40 n) = g.waits n := by
    have bytes : ∀ n ∈ List.range' 40 4, false = decide (n < numPrivate) ∧
        0 = byteFor (Width.truncate .word 0) 40 n := by decide
    intro n listed
    simp [bytes n listed]
  refine ⟨b, b', reached, ⟨l, found, lines 41 l found⟩, zero, arrived, wrote, ?_⟩
  rw [restacked.queue false 0, left, List.filter_congr zeros]
  exact waiting

-- Line 40 waits before line 41, and both have priority zero. Once line 40 is given priority zero it
-- waits behind line 41.
theorem equals_overtaken :
    ∃ g, initial.run [.request (.assert 40), .request (.assert 41)] = .ok g ∧
      (g.line? 40).map (·.priority) = some 0 ∧ (g.line? 41).map (·.priority) = some 0 ∧
      g.pendingLines = [40, 41] ∧ (g.setPriority 40 0).pendingLines = [41, 40] := by
  have ran : (initial.run [.request (.assert 40), .request (.assert 41)]).toOption.any fun g =>
      (g.line? 40).map (·.priority) = some 0 ∧ (g.line? 41).map (·.priority) = some 0 ∧
      g.pendingLines = [40, 41] ∧ (g.setPriority 40 0).pendingLines = [41, 40] := by
    rw [initial_listed]
    decide +kernel
  obtain ⟨g, ran, now⟩ := Checked.ok_of_any ran
  exact ⟨g, ran, of_decide_eq_true now⟩

end Distributor

end VmMonitor
