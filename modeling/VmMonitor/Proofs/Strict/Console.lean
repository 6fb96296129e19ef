import VmMonitor.Proofs.Strict.Service

/-!
The terminal with every operation checked. What a chain takes out of the buffered input was cut to
its length before.
-/

namespace VmMonitor.Console

open Checked DescriptorChain Virtio Virtio.Service

def strictTransmit (c : Console) (m : Medium) (chain : DescriptorChain) :
    Checked (UInt32 × Console × Medium) := do
  -- The number of bytes is traced.
  let _ ← strictTotal chain.readable
  let (sent, sink, effects) ← strictFeed m.memory offerPiece chain.readable (c.sink, m.effects)
  let m := { m with effects := effects }
  match sent with
  | .error e =>
      return (0, { c with sink := sink }, m.logError s!"console: transmit failed: {e.message}")
  | .ok () =>
      match sink.call .flush with
      | (.ok (), sink) => return (0, { c with sink := sink }, m)
      | (.error reason, sink) =>
          return (0, { c with sink := sink },
            m.logError s!"console: transmit failed: failed to flush terminal: {reason}")

def strictDeliver (c : Console) (m : Medium) (chain : DescriptorChain) :
    Checked (UInt32 × Console × Medium) := do
  let len := min (← strictTotal chain.writable) c.buffered.length
  let (filled, memory) ← strictFill (c.buffered.take len) chain.writable 0 m.memory
  let m := { m with memory := memory }
  let (written, m) := match filled with
    | .ok n => (n, m)
    | .error e => (0, m.logError s!"console: failed to fill receive chain: {e.message}")
  let left ← slice c.buffered written (c.buffered.length - written)
  return (UInt32.ofNat written, { c with buffered := left }, m)

def strictTransmitService : Service Console := { transmitService with work := strictTransmit }

def strictReceiveService : Service Console := { receiveService with work := strictDeliver }

def strictNotify (rounds : Nat) (c : Console) (m : Medium) (rings : Rings) (i : Nat) :
    Checked (Served Console) :=
  if i = txQueue then strictTransmitService.strictRun rounds c m rings i
  else if i = rxQueue then strictReceiveService.strictRun rounds c m rings i
  else .ok ⟨false, c, rings, m⟩

-- The room is none where the buffer holds more than it should.
def strictInput (rounds : Nat) (c : Console) (m : Medium) (rings : Rings) (data : List UInt8) :
    Checked (Served Console) := do
  let room := capacity - c.buffered.length
  let m ← tellExcess room data.length
    (fun dropped => m.warn s!"console: dropping {dropped} bytes of input") m
  let taken ← slice data 0 (min room data.length)
  strictReceiveService.strictRun rounds { c with buffered := c.buffered ++ taken } m rings rxQueue

variable {chain : DescriptorChain}

theorem strictTransmit_ok (bounded : chain.Bounded) (c : Console) (m : Medium) :
    ∃ r, c.strictTransmit m chain = .ok r ∧ c.transmit m chain = .ok r := by
  unfold strictTransmit transmit readPieces pieces
  rw [bind_ok (strictTotal_ok bounded.readable), bind_ok (strictFeed_ok ..)]
  rcases feed m.memory offerPiece (chain.readable.flatMap piecesOf) (c.sink, m.effects) with
    ⟨⟨e⟩ | ⟨⟩, sink, effects⟩
  · exact ⟨_, rfl, rfl⟩
  · dsimp only
    rcases sink.call .flush with ⟨⟨reason⟩ | ⟨⟩, sink'⟩
    · exact ⟨_, rfl, rfl⟩
    · exact ⟨_, rfl, rfl⟩

theorem strictDeliver_ok (bounded : chain.Bounded) (c : Console) (m : Medium) :
    ∃ r, c.strictDeliver m chain = .ok r ∧ c.deliver m chain = .ok r := by
  have le {n : Nat} (done : (chain.writeAll m.memory
      (c.buffered.take (min chain.writableLen c.buffered.length))).1 = .ok n) :
      n ≤ c.buffered.length := by
    have inside := fill_le (Nat.zero_le _) done
    rw [List.length_take] at inside
    omega
  unfold strictDeliver deliver
  rw [bind_ok (strictTotal_ok bounded.writable), ← writableLen_total]
  dsimp only
  rw [bind_ok (strictFill_ok (Nat.zero_le _) ..)]
  unfold writeAll at le ⊢
  generalize fill (c.buffered.take (min chain.writableLen c.buffered.length)) chain.writable 0
    m.memory = after at le ⊢
  obtain ⟨⟨e⟩ | ⟨n⟩, memory⟩ := after
  · dsimp only
    rw [bind_ok (slice_ok (by omega))]
    exact ⟨_, rfl, rfl⟩
  · have inside := le rfl
    dsimp only
    rw [bind_ok (slice_ok (by omega))]
    exact ⟨_, rfl, rfl⟩

theorem transmit_agrees : strictTransmitService.Agrees transmitService :=
  .of_work strictTransmit_ok

theorem receive_agrees : strictReceiveService.Agrees receiveService := .of_work strictDeliver_ok

theorem strictInput_run (rounds : Nat) (c : Console) (m : Medium) (rings : Rings)
    (data : List UInt8) :
    strictInput rounds c m rings data =
      strictReceiveService.strictRun rounds (c.accept m data).1 (c.accept m data).2 rings
        rxQueue := by
  unfold strictInput accept
  rw [bind_ok (tellExcess_ok ..), bind_ok (slice_ok (by omega)), List.drop_zero,
    ← List.take_eq_take_min]

instance : StrictVirtioDevice Console where
  readConfig c offset buffer := strictOverlay c.configSpace offset.toNat buffer
  notify := strictNotify
  input := strictInput
  readConfig_ok c offset buffer := strictOverlay_ok ..
  notify_faithful c m rings power i := by
    change Faithful _ (c.notify m rings i)
    unfold strictNotify notify
    split
    · exact strictRun_faithful transmit_agrees c m (power i)
    split
    · exact strictRun_faithful receive_agrees c m (power i)
    · exact .once ⟨_, rfl⟩
  input_faithful c m rings power data := by
    change Faithful _ (c.input m rings data)
    simp only [strictInput_run]
    exact strictRun_faithful receive_agrees _ _ (power rxQueue)

end VmMonitor.Console
