import VmMonitor.Proofs.Strict.Service

/-!
The network link with every operation checked. A frame is what is left of a chain behind the header,
which is there because shorter chains were turned away.
-/

namespace VmMonitor.Net

open Checked DescriptorChain Virtio Virtio.Service

def strictTransmit (n : Net) (m : Medium) (chain : DescriptorChain) :
    Checked (UInt32 × Net × Medium) := do
  let len ← strictTotal chain.readable
  if len < headerLen then
    return (0, n, m.warn s!"net: transmit chain of {len} bytes has no header")
  if headerLen + maxFrame < len then
    return (0, n, m.warn s!"net: dropping oversized frame of {len} bytes")
  match ← chain.strictReadAll m.memory (headerLen + maxFrame) with
  | .error e => return (0, n, m.logError s!"net: failed to read transmit chain: {e.message}")
  | .ok data =>
      let frame ← slice data headerLen (data.length - headerLen)
      let (n, m) := n.send m frame
      return (0, n, m)

def strictDeliver (n : Net) (m : Medium) (chain : DescriptorChain) :
    Checked (UInt32 × Net × Medium) :=
  match n.backlog with
  | [] => .ok (0, n, m)
  | frame :: rest => do
      let data := receiveHeader ++ frame
      let room ← strictTotal chain.writable
      let m := if room < data.length then
          m.warn <| s!"net: receive buffer of {room} bytes " ++
            s!"truncates a {data.length} byte frame"
        else m
      let (filled, memory) ← strictFill data chain.writable 0 m.memory
      let m := { m with memory := memory }
      let (written, m) := match filled with
        | .ok count => (count, m)
        | .error e => (0, m.logError s!"net: failed to fill receive chain: {e.message}")
      return (UInt32.ofNat written, { n with backlog := rest }, m)

def strictTransmitService : Service Net := { transmitService with work := strictTransmit }

def strictReceiveService : Service Net := { receiveService with work := strictDeliver }

def strictNotify (rounds : Nat) (n : Net) (m : Medium) (rings : Rings) (i : Nat) :
    Checked (Served Net) :=
  if i = txQueue then strictTransmitService.strictRun rounds n m rings i
  else if i = rxQueue then strictReceiveService.strictRun rounds n m rings i
  else .ok ⟨false, n, rings, m⟩

def strictInput (rounds : Nat) (n : Net) (m : Medium) (rings : Rings) (data : List UInt8) :
    Checked (Served Net) :=
  let (n, m) :=
    if capacity ≤ n.backlog.length then (n, m.warn "net: receive backlog full, dropping frame")
    else ({ n with backlog := n.backlog ++ [data] }, m)
  strictReceiveService.strictRun rounds n m rings rxQueue

variable {chain : DescriptorChain}

-- Contents that were read in full are as long as the buffers are.
theorem readAll_length {data : List UInt8} {memory : GuestMemory} {limit : Nat}
    (done : chain.readAll memory limit = .ok data) : data.length = chain.readableLen := by
  unfold readAll at done
  split at done
  · cases done
  · exact length_readBuffers done

theorem strictTransmit_ok (bounded : chain.Bounded) (n : Net) (m : Medium) :
    ∃ r, n.strictTransmit m chain = .ok r ∧ n.transmit m chain = .ok r := by
  unfold strictTransmit transmit
  rw [bind_ok (strictTotal_ok bounded.readable), bind_ok (bounded.strictReadAll_ok ..),
    ← readableLen_total]
  dsimp only
  by_cases short : chain.readableLen < headerLen
  · simp only [if_pos short]
    exact ⟨_, rfl, rfl⟩
  simp only [if_neg short]
  by_cases long : headerLen + maxFrame < chain.readableLen
  · simp only [if_pos long]
    exact ⟨_, rfl, rfl⟩
  simp only [if_neg long]
  cases read : chain.readAll m.memory (headerLen + maxFrame) with
  | error e => exact ⟨_, rfl, rfl⟩
  | ok data =>
      have length := readAll_length read
      dsimp only
      rw [bind_ok (slice_ok (by omega))]
      exact ⟨_, rfl, rfl⟩

theorem strictDeliver_ok (bounded : chain.Bounded) (n : Net) (m : Medium) :
    ∃ r, n.strictDeliver m chain = .ok r ∧ n.deliver m chain = .ok r := by
  unfold strictDeliver deliver writeAll
  cases n.backlog with
  | nil => exact ⟨_, rfl, rfl⟩
  | cons frame rest =>
      dsimp only
      rw [bind_ok (strictTotal_ok bounded.writable), ← writableLen_total,
        bind_ok (strictFill_ok (Nat.zero_le _) ..)]
      exact ⟨_, rfl, rfl⟩

theorem transmit_agrees : strictTransmitService.Agrees transmitService :=
  .of_work strictTransmit_ok

theorem receive_agrees : strictReceiveService.Agrees receiveService := .of_work strictDeliver_ok

instance : StrictVirtioDevice Net where
  readConfig n offset buffer := strictOverlay n.configSpace offset.toNat buffer
  notify := strictNotify
  input := strictInput
  readConfig_ok n offset buffer := strictOverlay_ok ..
  notify_faithful n m rings power i := by
    change Faithful _ (n.notify m rings i)
    unfold strictNotify notify
    split
    · exact strictRun_faithful transmit_agrees n m (power i)
    split
    · exact strictRun_faithful receive_agrees n m (power i)
    · exact .once ⟨_, rfl⟩
  input_faithful n m rings power data :=
    strictRun_faithful receive_agrees _ _ (power rxQueue)

end VmMonitor.Net
