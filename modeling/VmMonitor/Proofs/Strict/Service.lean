import VmMonitor.Proofs.Strict.Ring
import VmMonitor.Proofs.Virtio.Lanes

/-!
The loop over the chains of a queue with every operation checked. It may go on for ever, so a run of
it is given a number of rounds; the only way in which such a run can fail is that they give out.
-/

namespace VmMonitor

open Checked

theorem SplitQueue.SamePlace.size {q q' : SplitQueue} (place : SamePlace q q') :
    q'.size = q.size := by
  unfold SamePlace at place
  rw [place]

namespace Virtio

-- Work in rounds. However many there are, nothing goes wrong but that they give out, and more of
-- them change no result; with as many as the device runs for, it is the work without checks.
structure Faithful {α : Type} (strict : Nat → Checked α) (plain : Checked α) : Prop where
  fault : ∀ {rounds e}, strict rounds = .error e → e = .unfinished
  settled : ∀ {rounds more r}, strict rounds = .ok r → rounds ≤ more → strict more = .ok r
  plain : strict Service.bound = plain

section Faithful

variable {α β : Type} {strict : Nat → Checked α} {plain : Checked α}

-- Work that is done in one go.
theorem Faithful.once {x : Checked α} (done : ∃ r, x = .ok r) : Faithful (fun _ => x) x where
  fault {_ e} failed := by
    obtain ⟨r, done⟩ := done
    rw [done] at failed
    cases failed
  settled done _ := done
  plain := rfl

theorem Faithful.of_same {x : Checked α} (same : x = plain) (done : ∃ r, plain = .ok r) :
    Faithful (fun _ => x) plain := by
  rw [same]
  exact .once done

-- What follows the rounds and never fails.
theorem Faithful.bind (faithful : Faithful strict plain) {f : α → Checked β}
    (total : ∀ a, ∃ r, f a = .ok r) :
    Faithful (fun rounds => strict rounds >>= f) (plain >>= f) where
  fault {rounds e} failed := by
    cases done : strict rounds with
    | error e' =>
        rw [done] at failed
        cases failed
        exact faithful.fault done
    | ok a =>
        obtain ⟨r, after⟩ := total a
        rw [bind_ok done, after] at failed
        cases failed
  settled {rounds more r} done le := by
    obtain ⟨a, first, after⟩ := bind_eq_ok.mp done
    rw [bind_ok (faithful.settled first le)]
    exact after
  plain := by rw [faithful.plain]

end Faithful

def strictOverlay (config : List UInt8) (offset : Nat) (buffer : List UInt8) :
    Checked (List UInt8) :=
  if config.length ≤ offset then .ok buffer
  else do
    let count := min buffer.length (← subNat config.length offset)
    let part ← slice config offset count
    ensure (count ≤ buffer.length)
    return part ++ buffer.drop count

theorem strictOverlay_ok (config : List UInt8) (offset : Nat) (buffer : List UInt8) :
    strictOverlay config offset buffer = .ok (overlay config offset buffer) := by
  unfold strictOverlay overlay
  split
  · rename_i past
    rw [List.drop_eq_nil_of_le past, List.take_nil]
    rfl
  · rename_i inside
    have part : (config.drop offset).take (min buffer.length (config.length - offset)) =
        (config.drop offset).take buffer.length := by
      rw [← List.length_drop, ← List.take_eq_take_min]
    have count : ((config.drop offset).take buffer.length).length =
        min buffer.length (config.length - offset) := by
      rw [List.length_take, List.length_drop]
    rw [bind_ok (subNat_ok (by omega)), bind_ok (slice_ok (by omega)),
      bind_ok (ensure_ok (Nat.min_le_left ..)), part]
    dsimp only
    rw [count]
    rfl

namespace Service

variable {σ : Type}

def strictRound (s : Service σ) (d : Drained σ) : Checked (Bool × Drained σ) :=
  if !s.wants d.state then .ok (false, d)
  else do
    match ← d.ring.strictPop d.medium.memory with
    | (.ok none, ring) => return (false, { d with ring := ring })
    | (.error e, ring) =>
        return (false, { d with
          ring := ring
          medium := d.medium.logError s!"{s.device}: failed to pop {s.lane} chain: {e.message}" })
    | (.ok (some chain), ring) =>
        let (written, state, medium) ← s.work d.state d.medium chain
        match ← ring.strictAddUsed medium.memory chain.head written with
        | (.error e, ring, memory) =>
            let text := s!"{s.device}: failed to return {s.lane} chain: {e.message}"
            return (false, { d with
              state := state
              ring := ring
              medium := ({ medium with memory := memory }).logError text })
        | (.ok (), ring, memory) =>
            return (true, ⟨true, state, ring, { medium with memory := memory }⟩)

def strictDrain (s : Service σ) : Nat → Drained σ → Checked (Drained σ)
  | 0, _ => .error .unfinished
  | rounds + 1, d => do
      match ← s.strictRound d with
      | (true, d) => strictDrain s rounds d
      | (false, d) => return d

def strictRun (s : Service σ) (rounds : Nat) (state : σ) (m : Medium) (rings : Rings) (i : Nat) :
    Checked (Served σ) :=
  match ring? rings i with
  | none => .ok ⟨false, state, rings, m⟩
  | some ring => do
      let d ← s.strictDrain rounds ⟨false, state, ring, m⟩
      return ⟨d.moved, d.state, rings.set i (some d.ring), d.medium⟩

-- A service and the same with its work checked, which has a result for every chain of the walk.
structure Agrees (strict s : Service σ) : Prop where
  device : strict.device = s.device
  lane : strict.lane = s.lane
  wants : strict.wants = s.wants
  work : ∀ {chain}, chain.Bounded → ∀ state m,
    ∃ r, strict.work state m chain = .ok r ∧ s.work state m chain = .ok r

theorem Agrees.of_work {s : Service σ}
    {work : σ → Medium → DescriptorChain → Checked (UInt32 × σ × Medium)}
    (same : ∀ {chain}, chain.Bounded → ∀ state m,
      ∃ r, work state m chain = .ok r ∧ s.work state m chain = .ok r) :
    Agrees { s with work := work } s := ⟨rfl, rfl, rfl, same⟩

variable {strict s : Service σ} {d d' : Drained σ}

theorem strictRound_ok (agrees : strict.Agrees s) (power : isPowerOfTwo d.ring.size = true) :
    ∃ r, strict.strictRound d = .ok r ∧ s.round d = .ok r := by
  have place := SplitQueue.pop_place d.ring d.medium.memory
  unfold strictRound round
  rw [agrees.device, agrees.lane, agrees.wants, bind_ok (SplitQueue.strictPop_ok power _)]
  cases s.wants d.state with
  | false => exact ⟨_, rfl, rfl⟩
  | true =>
      rw [if_neg (by decide), if_neg (by decide)]
      cases popped : d.ring.pop d.medium.memory with
      | mk answer ring =>
          rcases answer with e | taken
          · exact ⟨_, rfl, rfl⟩
          cases taken with
          | none => exact ⟨_, rfl, rfl⟩
          | some chain =>
              obtain ⟨_, _, head, made⟩ := SplitQueue.pop_chain popped
              obtain ⟨⟨written, state, medium⟩, checked, worked⟩ :=
                agrees.work (DescriptorChain.new_bounded made) d.state d.medium
              have size : ring.size = d.ring.size := by
                rw [popped] at place
                exact place.size
              dsimp only
              rw [bind_ok checked, bind_ok worked]
              dsimp only
              rw [bind_ok (SplitQueue.strictAddUsed_ok (by rw [size]; exact power) ..)]
              rcases ring.addUsed medium.memory chain.head written with ⟨⟨e⟩ | ⟨⟩, ring', memory⟩
              · exact ⟨_, rfl, rfl⟩
              · exact ⟨_, rfl, rfl⟩

theorem strictDrain_same (agrees : strict.Agrees s) (rounds : Nat)
    (power : isPowerOfTwo d.ring.size = true) : strict.strictDrain rounds d = s.drain rounds d := by
  induction rounds generalizing d with
  | zero => rfl
  | succ rounds ih =>
      obtain ⟨⟨more, next⟩, checked, done⟩ := strictRound_ok agrees power
      have place := round_place (round_parts done)
      unfold strictDrain drain
      rw [bind_ok checked, bind_ok done]
      cases more with
      | false => rfl
      | true =>
          rw [← place.size] at power
          exact ih power

-- A run that came to its end needs no more rounds.
theorem drain_settled {rounds more : Nat} (done : s.drain rounds d = .ok d')
    (le : rounds ≤ more) : s.drain more d = .ok d' := by
  induction rounds generalizing d more with
  | zero => cases done
  | succ rounds ih =>
      obtain ⟨more, rfl⟩ : ∃ k, more = k + 1 := ⟨more - 1, by omega⟩
      unfold drain at done ⊢
      obtain ⟨⟨goes, next⟩, ran, done⟩ := bind_eq_ok.mp done
      rw [bind_ok ran]
      cases goes with
      | false => exact done
      | true => exact ih done (by omega)

theorem drain_fault (agrees : strict.Agrees s) {rounds : Nat} {e : Fault}
    (power : isPowerOfTwo d.ring.size = true) (failed : s.drain rounds d = .error e) :
    e = .unfinished := by
  induction rounds generalizing d with
  | zero =>
      cases failed
      rfl
  | succ rounds ih =>
      obtain ⟨⟨more, next⟩, _, done⟩ := strictRound_ok agrees power
      have place := round_place (round_parts done)
      unfold drain at failed
      rw [bind_ok done] at failed
      cases more with
      | false => cases failed
      | true =>
          rw [← place.size] at power
          exact ih power failed

theorem strictRun_faithful (agrees : strict.Agrees s) (state : σ) (m : Medium) {rings : Rings}
    {i : Nat} (power : ∀ q, ring? rings i = some q → isPowerOfTwo q.size = true) :
    Faithful (fun rounds => strict.strictRun rounds state m rings i) (s.run state m rings i) := by
  unfold strictRun run
  cases found : ring? rings i with
  | none => exact .once ⟨_, rfl⟩
  | some ring =>
      have drained : Faithful (fun rounds => strict.strictDrain rounds ⟨false, state, ring, m⟩)
          (s.drain bound ⟨false, state, ring, m⟩) := by
        have same (rounds : Nat) := strictDrain_same (d := ⟨false, state, ring, m⟩) agrees rounds
          (power ring found)
        simp only [same]
        exact ⟨drain_fault agrees (power ring found), drain_settled, rfl⟩
      exact drained.bind fun d => ⟨_, rfl⟩

end Service

-- A paravirtual device with every operation checked. The queues are those of a transport, of which
-- none is ready but in a size that is a power of two.
class StrictVirtioDevice (ν : Type) [VirtioDevice ν] where
  readConfig : ν → UInt64 → List UInt8 → Checked (List UInt8)
  notify : Nat → ν → Medium → Rings → Nat → Checked (Served ν)
  input : Nat → ν → Medium → Rings → List UInt8 → Checked (Served ν)
  readConfig_ok : ∀ d offset buffer,
    readConfig d offset buffer = .ok (VirtioDevice.readConfig d offset buffer)
  notify_faithful : ∀ d m {rings}, (∀ i q, ring? rings i = some q → isPowerOfTwo q.size = true) →
    ∀ i, Faithful (fun rounds => notify rounds d m rings i) (VirtioDevice.notify d m rings i)
  input_faithful : ∀ d m {rings}, (∀ i q, ring? rings i = some q → isPowerOfTwo q.size = true) →
    ∀ data, Faithful (fun rounds => input rounds d m rings data)
      (VirtioDevice.input d m rings data)

end Virtio

end VmMonitor
