import VmMonitor.Proofs.Virtqueue.Ring
import VmMonitor.Virtio.Service

/-!
When the loop over the chains of a queue comes to its end. What counts down is the stock that the
device has to hand out and, while that stays the same, the distance to the index of the driver.
-/

namespace VmMonitor.Virtio

open GuestMemory SplitQueue

-- A ring in a list of them.

theorem ring_start (queues i : Nat) : ring? (List.replicate queues none) i = none := by
  unfold ring?
  rw [List.getElem?_replicate]
  split <;> rfl

theorem ring_cleared {α : Type} (list : List α) (i : Nat) :
    ring? (list.map fun _ => none) i = none := by
  unfold ring?
  rw [List.getElem?_map]
  cases list[i]? <;> rfl

theorem ring_set_at {rings : Rings} {i j : Nat} {ring : Option SplitQueue} {q : SplitQueue}
    (found : ring? (rings.set i ring) j = some q) :
    i = j ∧ ring = some q ∨ i ≠ j ∧ ring? rings j = some q := by
  unfold ring? at found ⊢
  rw [List.getElem?_set] at found
  split at found
  · rename_i here
    split at found
    · exact .inl ⟨here, found⟩
    · cases found
  · rename_i other
    exact .inr ⟨other, found⟩

theorem ring_set {rings : Rings} {i j : Nat} {ring : Option SplitQueue} {q : SplitQueue}
    (found : ring? (rings.set i ring) j = some q) : ring = some q ∨ ring? rings j = some q := by
  rcases ring_set_at found with ⟨_, here⟩ | ⟨_, old⟩
  · exact .inl here
  · exact .inr old

theorem ring_stored {rings : Rings} {i : Nat} {q : SplitQueue} (found : ring? rings i = some q)
    (q' : SplitQueue) : ring? (rings.set i (some q')) i = some q' := by
  unfold ring? at found ⊢
  have inside : i < rings.length := by
    cases here : rings[i]? with
    | none =>
        rw [here] at found
        cases found
    | some ring => exact (List.getElem?_eq_some_iff.mp here).1
  rw [List.getElem?_set_self inside]
  rfl

namespace Service

variable {σ : Type} {s : Service σ} {d d' : Drained σ} {more : Bool} {fuel : Nat}

-- One round as an inversion: why it was the last one, or what it did.
inductive Round (s : Service σ) (d : Drained σ) : Bool → Drained σ → Prop
  | sated (full : s.wants d.state = false) : Round s d false d
  | empty (ring : SplitQueue) (popped : d.ring.pop d.medium.memory = (.ok none, ring)) :
      Round s d false { d with ring := ring }
  | refused (e : QueueError) (ring : SplitQueue) (text : String)
      (popped : d.ring.pop d.medium.memory = (.error e, ring)) :
      Round s d false { d with ring := ring, medium := d.medium.logError text }
  | lost {chain : DescriptorChain} {written : UInt32} {state : σ} {medium : Medium}
      (ring : SplitQueue) (e : QueueError) (text : String) (hungry : s.wants d.state = true)
      (popped : d.ring.pop d.medium.memory = (.ok (some chain), ring))
      (worked : s.work d.state d.medium chain = .ok (written, state, medium))
      (returned : (ring.addUsed medium.memory chain.head written).1 = .error e) :
      Round s d false { d with
        state := state
        ring := (ring.addUsed medium.memory chain.head written).2.1
        medium := ({ medium with
          memory := (ring.addUsed medium.memory chain.head written).2.2 }).logError text }
  | served {chain : DescriptorChain} {written : UInt32} {state : σ} {medium : Medium}
      (ring : SplitQueue) (hungry : s.wants d.state = true)
      (popped : d.ring.pop d.medium.memory = (.ok (some chain), ring))
      (worked : s.work d.state d.medium chain = .ok (written, state, medium))
      (returned : (ring.addUsed medium.memory chain.head written).1 = .ok ()) :
      Round s d true ⟨true, state, (ring.addUsed medium.memory chain.head written).2.1,
        { medium with memory := (ring.addUsed medium.memory chain.head written).2.2 }⟩

theorem round_parts (done : s.round d = .ok (more, d')) : Round s d more d' := by
  unfold round at done
  split at done
  · rename_i full
    cases done
    exact .sated (by simpa using full)
  rename_i hungry
  have hungry : s.wants d.state = true := by simpa using hungry
  split at done
  · rename_i popped
    cases done
    exact .empty _ popped
  · rename_i popped
    cases done
    exact .refused _ _ _ popped
  · rename_i chain ring popped
    obtain ⟨⟨written, state, medium⟩, worked, done⟩ := Checked.bind_eq_ok.mp done
    dsimp only at done
    cases given : ring.addUsed medium.memory chain.head written with
    | mk answer after =>
        obtain ⟨ring', memory⟩ := after
        rw [given] at done
        cases answer with
        | error e =>
            cases done
            have lost := Round.lost (s := s) (d := d) ring e
              s!"{s.device}: failed to return {s.lane} chain: {e.message}" hungry popped worked
              (by rw [given])
            rw [given] at lost
            exact lost
        | ok u =>
            cases done
            have served := Round.served (s := s) (d := d) ring hungry popped worked (by rw [given])
            rw [given] at served
            exact served

theorem round_serves {chain : DescriptorChain} {written : UInt32} {state : σ} {medium : Medium}
    {ring ring' : SplitQueue} {memory : GuestMemory} (hungry : s.wants d.state = true)
    (popped : d.ring.pop d.medium.memory = (.ok (some chain), ring))
    (worked : s.work d.state d.medium chain = .ok (written, state, medium))
    (returned : ring.addUsed medium.memory chain.head written = (.ok (), ring', memory)) :
    s.round d = .ok (true, ⟨true, state, ring', { medium with memory := memory }⟩) := by
  simp [round, hungry, popped, worked, returned, bind, Except.bind, pure, Except.pure]

-- A round has an outcome where the work on the chain it takes has one.
theorem round_total
    (works : ∀ chain ring, s.wants d.state = true →
      d.ring.pop d.medium.memory = (.ok (some chain), ring) →
      ∃ r, s.work d.state d.medium chain = .ok r) : ∃ r, s.round d = .ok r := by
  unfold round
  split
  · exact ⟨_, rfl⟩
  rename_i hungry
  split
  · exact ⟨_, rfl⟩
  · exact ⟨_, rfl⟩
  · rename_i chain ring popped
    obtain ⟨⟨written, state, medium⟩, worked⟩ := works chain ring (by simpa using hungry) popped
    rw [worked]
    dsimp only [bind, Except.bind]
    split <;> exact ⟨_, rfl⟩

theorem drain_next (more : s.round d = .ok (true, d')) :
    s.drain (fuel + 1) d = s.drain fuel d' := by
  rw [drain, more]
  rfl

theorem drain_last (last : s.round d = .ok (false, d')) : s.drain (fuel + 1) d = .ok d' := by
  rw [drain, last]
  rfl

-- A loop of which every round counts something down comes to its end.
theorem drain_ends {I : Drained σ → Prop} {f : Drained σ → Nat}
    (step : ∀ d, I d → ∃ more d', s.round d = .ok (more, d') ∧
      (more = true → I d' ∧ f d' < f d))
    (start : I d) (enough : f d < fuel) : ∃ d', s.drain fuel d = .ok d' := by
  induction fuel generalizing d with
  | zero => exact absurd enough (Nat.not_lt_zero _)
  | succ fuel ih =>
      obtain ⟨more, next, done, goes⟩ := step d start
      cases more with
      | false => exact ⟨next, drain_last done⟩
      | true =>
          obtain ⟨kept, less⟩ := goes rfl
          rw [drain_next done]
          exact ih kept (by omega)

-- A loop of which every round is followed by another never does.
theorem drain_never {I : Drained σ → Prop}
    (step : ∀ d, I d → ∃ d', s.round d = .ok (true, d') ∧ I d') (start : I d) (fuel : Nat) :
    s.drain fuel d = .error .unfinished := by
  induction fuel generalizing d with
  | zero => rfl
  | succ fuel ih =>
      obtain ⟨next, done, kept⟩ := step d start
      rw [drain_next done]
      exact ih kept

-- Whatever rounds keep holds at the end.
theorem drain_keeps {P : Drained σ → Prop} (round : ∀ d more d', P d → Round s d more d' → P d')
    (start : P d) (done : s.drain fuel d = .ok d') : P d' := by
  induction fuel generalizing d with
  | zero => cases done
  | succ fuel ih =>
      unfold drain at done
      obtain ⟨⟨more, next⟩, ran, done⟩ := Checked.bind_eq_ok.mp done
      have kept := round d more next start (round_parts ran)
      cases more with
      | false =>
          cases done
          exact kept
      | true => exact ih kept done

-- The run from `d` comes to take this chain, and this is what memory holds then.
inductive Takes (s : Service σ) : Drained σ → Medium → DescriptorChain → Prop
  | now {d : Drained σ} {chain : DescriptorChain} (ring : SplitQueue)
      (hungry : s.wants d.state = true)
      (popped : d.ring.pop d.medium.memory = (.ok (some chain), ring)) :
      Takes s d d.medium chain
  | later {d d' : Drained σ} {m : Medium} {chain : DescriptorChain}
      (round : s.round d = .ok (true, d')) (takes : Takes s d' m chain) : Takes s d m chain

-- What the work of a device leaves alone: memory stays where it is, and the stock of what the
-- device has to hand out does not grow.
structure Lawful (s : Service σ) (stock : σ → Nat) : Prop where
  layout : ∀ {state m chain written state' m'},
    s.work state m chain = .ok (written, state', m') → m'.memory.layout = m.memory.layout
  shrinks : ∀ {state m chain written state' m'},
    s.work state m chain = .ok (written, state', m') → stock state' ≤ stock state

theorem Lawful.of_effect {stock : σ → Nat}
    (effect : ∀ state m chain, ∃ written state' m',
      s.work state m chain = .ok (written, state', m') ∧ stock state' ≤ stock state ∧
        m'.memory.layout = m.memory.layout) : s.Lawful stock where
  layout {state m chain _ _ _} worked := by
    obtain ⟨_, _, _, done, _, layout⟩ := effect state m chain
    rw [worked] at done
    cases done
    exact layout
  shrinks {state m chain _ _ _} worked := by
    obtain ⟨_, _, _, done, le, _⟩ := effect state m chain
    rw [worked] at done
    cases done
    exact le

-- What a drained queue has in common with the queue before.
structure Kept (stock : σ → Nat) (d d' : Drained σ) : Prop where
  place : SamePlace d.ring d'.ring
  layout : d'.medium.memory.layout = d.medium.memory.layout
  shrinks : stock d'.state ≤ stock d.state

variable {stock : σ → Nat}

theorem Kept.trans {d'' : Drained σ} (first : Kept stock d d') (second : Kept stock d' d'') :
    Kept stock d d'' :=
  ⟨first.place.trans second.place, second.layout.trans first.layout,
    Nat.le_trans second.shrinks first.shrinks⟩

-- Memory and ring as the work on a chain finds them.
structure Sane (d : Drained σ) : Prop where
  memory : d.medium.memory.Sound
  ring : d.ring.LaidOut

theorem Sane.kept (sane : Sane d) (kept : Kept stock d d') : Sane d' :=
  ⟨sane.memory.congr kept.layout, sane.ring.same kept.place⟩

theorem round_kept (lawful : s.Lawful stock) (sane : Sane d) (round : Round s d more d') :
    Kept stock d d' := by
  have place := pop_place d.ring d.medium.memory
  cases round with
  | sated full => exact ⟨.refl _, rfl, Nat.le_refl _⟩
  | empty ring popped | refused e ring text popped =>
      rw [popped] at place
      exact ⟨place, rfl, Nat.le_refl _⟩
  | @lost chain written state medium ring e text hungry popped worked returned
  | @served chain written state medium ring hungry popped worked returned =>
      rw [popped] at place
      have layout := lawful.layout worked
      have given := addUsed_returned (sane.memory.congr layout) (sane.ring.same place) chain.head
        written
      exact ⟨place.trans given.place, given.layout.trans layout, lawful.shrinks worked⟩

theorem drain_kept (lawful : s.Lawful stock) (sane : Sane d) (done : s.drain fuel d = .ok d') :
    Kept stock d d' := by
  have whole : Sane d' ∧ Kept stock d d' := by
    refine drain_keeps (P := fun n => Sane n ∧ Kept stock d n) ?_
      ⟨sane, .refl _, rfl, Nat.le_refl _⟩ done
    rintro n more n' ⟨fit, before⟩ round
    have now := round_kept lawful fit round
    exact ⟨fit.kept now, before.trans now⟩
  exact whole.2

-- How far the driver is ahead.
def distance (d : Drained σ) : Nat :=
  match d.ring.readAvailIndex d.medium.memory with
  | .ok i => (i - d.ring.nextAvail).toNat
  | .error _ => 0

theorem distance_lt (d : Drained σ) : distance d < 65536 := by
  unfold distance
  split
  · exact UInt16.toNat_lt _
  · decide

theorem distance_next {i next : UInt16} (ahead : i ≠ next) :
    (i - (next + 1)).toNat < (i - next).toNat := by
  have differs : i.toNat ≠ next.toNat := fun same => ahead (UInt16.toNat_inj.mp same)
  have hi := i.toNat_lt
  have hn := next.toNat_lt
  rw [UInt16.toNat_sub, UInt16.toNat_sub, UInt16.toNat_add]
  change (2 ^ 16 - (next.toNat + 1) % 2 ^ 16 + i.toNat) % 2 ^ 16 < _
  omega

-- How the work goes on the chains that are `allowed`: it hands something out, or it leaves memory
-- as it is.
structure Progressing (s : Service σ) (stock : σ → Nat) (allowed : Medium → DescriptorChain → Prop) :
    Prop extends s.Lawful stock where
  works : ∀ {state m chain}, m.memory.Sound → (∀ b ∈ chain.descriptors, b.Placed m.memory) →
    s.wants state = true → allowed m chain →
    ∃ written state' m', s.work state m chain = .ok (written, state', m') ∧
      (stock state' < stock state ∨ m'.memory = m.memory)

-- Work that writes nothing to memory.
theorem Progressing.idle
    (effect : ∀ state m chain, ∃ written state' m',
      s.work state m chain = .ok (written, state', m') ∧ stock state' ≤ stock state ∧
        m'.memory = m.memory) : s.Progressing stock fun _ _ => True where
  toLawful := .of_effect fun state m chain => by
    obtain ⟨written, state', m', done, le, memory⟩ := effect state m chain
    exact ⟨written, state', m', done, le, by rw [memory]⟩
  works {state m chain} _ _ _ _ := by
    obtain ⟨written, state', m', done, _, memory⟩ := effect state m chain
    exact ⟨written, state', m', done, .inr memory⟩

variable {allowed : Medium → DescriptorChain → Prop}

-- A chain that is given back to a memory as it was brings the ring nearer to the index of the
-- driver, which nothing but the used ring was written for.
theorem addUsed_nearer {chain : DescriptorChain} {ring : SplitQueue} (sane : Sane d)
    (apart : d.ring.IndexApart)
    (popped : d.ring.pop d.medium.memory = (.ok (some chain), ring)) (written : UInt32)
    (served : Drained σ)
    (turned : served.ring = (ring.addUsed d.medium.memory chain.head written).2.1)
    (stored : served.medium.memory = (ring.addUsed d.medium.memory chain.head written).2.2) :
    distance served < distance d := by
  obtain ⟨⟨i, read, ahead⟩, moved, _⟩ := pop_chain popped
  have place : SamePlace d.ring ring := by
    rw [moved]
    rfl
  have given := addUsed_returned sane.memory (sane.ring.same place) chain.head written
  have whole : SamePlace d.ring served.ring := by
    rw [turned]
    exact place.trans given.place
  have kept : served.ring.readAvailIndex served.medium.memory = .ok i := by
    have first : d.ring.readAvailIndex served.medium.memory = .ok i := by
      rw [stored]
      refine readAvailIndex_congr sane.memory sane.ring given.layout (fun x low high => ?_) read
      refine given.kept x fun used => ?_
      rw [moved] at used
      exact apart x low high used
    unfold SamePlace at whole
    rw [whole]
    exact first
  have next : served.ring.nextAvail = d.ring.nextAvail + 1 := by
    rw [turned, given.avail, moved]
  have nearer := distance_next ahead
  rw [distance, distance, kept, read, next]
  exact nearer

theorem round_counts (progressing : s.Progressing stock allowed) (sane : Sane d)
    (apart : d.ring.IndexApart) (allows : ∀ m chain, s.Takes d m chain → allowed m chain) :
    ∃ more d', s.round d = .ok (more, d') ∧ (more = true →
      stock d'.state * 65536 + distance d' < stock d.state * 65536 + distance d) := by
  have works (chain : DescriptorChain) (ring : SplitQueue) (hungry : s.wants d.state = true)
      (popped : d.ring.pop d.medium.memory = (.ok (some chain), ring)) :
      ∃ written state' m', s.work d.state d.medium chain = .ok (written, state', m') ∧
        (stock state' < stock d.state ∨ m'.memory = d.medium.memory) := by
    obtain ⟨_, _, head, made⟩ := pop_chain popped
    exact progressing.works sane.memory (DescriptorChain.new_placed made) hungry
      (allows _ _ (.now ring hungry popped))
  obtain ⟨⟨more, d'⟩, done⟩ : ∃ r, s.round d = .ok r := by
    refine round_total fun chain ring hungry popped => ?_
    obtain ⟨written, state', m', worked, _⟩ := works chain ring hungry popped
    exact ⟨_, worked⟩
  refine ⟨more, d', done, fun goes => ?_⟩
  cases round_parts done with
  | sated | empty | refused | lost => cases goes
  | @served chain written state medium ring hungry popped worked returned =>
      obtain ⟨_, state', m', again, effect⟩ := works chain ring hungry popped
      rw [worked] at again
      cases again
      have far := distance_lt (⟨true, state, (ring.addUsed medium.memory chain.head written).2.1,
        { medium with memory := (ring.addUsed medium.memory chain.head written).2.2 }⟩ :
          Drained σ)
      rcases effect with less | same
      · dsimp only
        omega
      · have stocked := progressing.shrinks worked
        have nearer := addUsed_nearer sane apart popped written
          ⟨true, state, (ring.addUsed medium.memory chain.head written).2.1,
            { medium with memory := (ring.addUsed medium.memory chain.head written).2.2 }⟩
          (by rw [same]) (by rw [same])
        dsimp only
        omega

-- The run of a queue whose index lies apart from the used ring comes to its end.
theorem drain_finishes (progressing : s.Progressing stock allowed) (sane : Sane d)
    (apart : d.ring.IndexApart) (allows : ∀ m chain, s.Takes d m chain → allowed m chain)
    (enough : (stock d.state + 1) * 65536 ≤ fuel) : ∃ d', s.drain fuel d = .ok d' := by
  have far := distance_lt d
  refine drain_ends (I := fun n => Sane n ∧ n.ring.IndexApart ∧
      ∀ m chain, s.Takes n m chain → allowed m chain)
    (f := fun n => stock n.state * 65536 + distance n) ?_ ⟨sane, apart, allows⟩ (by omega)
  rintro n ⟨fit, separate, fine⟩
  obtain ⟨more, n', done, less⟩ := round_counts progressing fit separate fine
  have kept := round_kept progressing.toLawful fit (round_parts done)
  refine ⟨more, n', done, fun goes => ⟨⟨fit.kept kept, separate.same kept.place, ?_⟩, less goes⟩⟩
  subst goes
  exact fun m chain takes => fine m chain (.later done takes)

-- Where every chain takes something from the stock, nothing is asked of the rings.
theorem drain_exhausts
    (works : ∀ {state} m chain, s.wants state = true →
      ∃ written state' m', s.work state m chain = .ok (written, state', m') ∧
        stock state' < stock state)
    (enough : stock d.state < fuel) : ∃ d', s.drain fuel d = .ok d' := by
  refine drain_ends (I := fun _ => True) (f := fun n => stock n.state) ?_ trivial enough
  intro n _
  obtain ⟨⟨more, n'⟩, done⟩ : ∃ r, s.round n = .ok r := by
    refine round_total fun chain ring hungry _ => ?_
    obtain ⟨written, state', m', worked, _⟩ := works n.medium chain hungry
    exact ⟨_, worked⟩
  refine ⟨more, n', done, fun goes => ⟨trivial, ?_⟩⟩
  cases round_parts done with
  | sated | empty | refused | lost => cases goes
  | @served chain written state medium ring hungry popped worked returned =>
      obtain ⟨_, state', m', again, less⟩ := works n.medium chain hungry
      rw [worked] at again
      cases again
      exact less

end Service

end VmMonitor.Virtio
