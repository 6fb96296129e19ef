import VmMonitor.Proofs.Device.PowerOn
import VmMonitor.Proofs.Strict.Controller
import VmMonitor.Proofs.Strict.Registers

/-!
The UART with every operation checked. The room in the receive queue is a difference, which is there
because no more is ever put into the queue than it has room for.
-/

namespace VmMonitor

open Checked

namespace Uart

-- The flag of a transmit queue without room, which is never raised.
def txFull : UInt64 := 0x20

def strictFlags (u : Uart) : Checked UInt64 := do
  ensure (u.flags &&& txFull = 0)
  return u.flags

-- The receive status as the queue has it.
def strictStatus (u : Uart) : Checked RegisterSpace :=
  if u.received.isEmpty then .ok (u.registers.clearBits ris rxInterrupt)
  else u.registers.strictSetBits ris rxInterrupt

def strictRefresh (u : Uart) (b : Board) : Checked (Uart × Board) := do
  let u := { u with registers := ← u.strictStatus }
  if u.maskedStatus != 0 then return (u, ← b.strictRequest (.assert u.line))
  else return (u, ← b.strictRequest (.clearPending u.line))

def strictReceive (u : Uart) (b : Board) : Checked (UInt64 × Uart × Board) := do
  let u' := { u with received := u.received.tail }
  return ((u.received.headD 0).toUInt64, ← u'.strictRefresh b)

def strictRead (u : Uart) (b : Board) (a : Access) : Checked (Answered Uart UInt64) := do
  if a.width = .double then return ⟨.error (a.unsupported .read), u, b⟩
  if a.offset = dr then
    let (value, u, b) ← u.strictReceive b
    return ⟨.ok value, u, b⟩
  if a.offset = fr then return ⟨.ok (← u.strictFlags), u, b⟩
  if a.offset = mis then return ⟨.ok u.maskedStatus, u, b⟩
  match ← u.registers.read a.offset a.width with
  | .ok value => return ⟨.ok value, u, b⟩
  | .error e => return ⟨.ok 0, u, b.warn s!"pl011: bad read: {e.message}"⟩

def strictWriteRegister (u : Uart) (b : Board) (a : Access) (value : UInt64) :
    Checked (Uart × Board) := do
  match ← u.registers.write a.offset a.width value with
  | .error e => return (u, b.warn s!"pl011: bad write: {e.message}")
  | .ok (written, registers) =>
      let u := { u with registers := registers }
      if written = icr then
        let u := { u with registers := u.registers.clearBits ris (value &&& allInterrupts) }
        u.strictRefresh b
      else if written = imsc then u.strictRefresh b
      else return (u, b)

def strictWrite (u : Uart) (b : Board) (a : Access) (value : UInt64) :
    Checked (Answered Uart Unit) := do
  if a.width = .double then return ⟨.error (a.unsupported .write), u, b⟩
  if a.offset = dr then
    let (u, b) := u.transmit b value.toUInt8
    let registers ← u.registers.strictSetBits ris txInterrupt
    let (u, b) ← { u with registers := registers }.strictRefresh b
    return ⟨.ok (), u, b⟩
  if a.offset = fr ∨ a.offset = mis then
    return ⟨.ok (), u,
      b.warn s!"pl011: invalid write to read-only register {Text.hex a.offset}"⟩
  let (u, b) ← u.strictWriteRegister b a value
  return ⟨.ok (), u, b⟩

def strictEndOfInterrupt (u : Uart) (b : Board) : Checked (Uart × Board) := do
  if u.maskedStatus != 0 then return (u, ← b.strictRequest (.assert u.line)) else return (u, b)

def strictInput (u : Uart) (b : Board) (data : List UInt8) : Checked (Answered Uart Unit) := do
  let room ← subNat capacity u.received.length
  let b ← tellExcess room data.length
    (fun dropped => b.warn s!"pl011: receive FIFO full, dropping {dropped} bytes") b
  let (u, b) ← { u with received := u.received ++ data.take room }.strictRefresh b
  return ⟨.ok (), u, b⟩

-- What the work on a UART relies on, whatever was asked of it before.
structure Steady (u : Uart) : Prop where
  plan : u.registers.shape = plan
  fits : u.received.length ≤ capacity

variable {u u' : Uart} {b : Board}

theorem compact_of_plan (valid : u.registers.shape = plan) : u.registers.Compact where
  tidy := tidy_of_plan valid
  low := by
    rw [valid]
    decide +kernel

theorem new_steady (line : Nat) (sink : Sink) : (Uart.new line sink).Steady where
  plan := rfl
  fits := Nat.zero_le _

-- Whichever of the flags are raised.
theorem strictFlags_ok (u : Uart) : u.strictFlags = .ok u.flags := by
  unfold strictFlags
  rw [bind_ok (ensure_ok _)]
  · rfl
  · unfold flags
    split <;> split <;> decide

theorem strictStatus_ok (valid : u.registers.shape = plan) :
    u.strictStatus = .ok (if u.received.isEmpty then u.registers.clearBits ris rxInterrupt
      else u.registers.setBits ris rxInterrupt) := by
  unfold strictStatus
  split
  · rfl
  · exact (compact_of_plan valid).strictSetBits_ok ris rxInterrupt

theorem strictRefresh_ok (valid : u.registers.shape = plan) (b : Board) :
    u.strictRefresh b = .ok (u.refresh b) := by
  unfold strictRefresh refresh
  rw [bind_ok (strictStatus_ok valid)]
  generalize (if u.received.isEmpty then u.registers.clearBits ris rxInterrupt
    else u.registers.setBits ris rxInterrupt) = registers
  simp only [Board.strictRequest_ok, ok_bind]
  split <;> rfl

theorem strictReceive_ok (valid : u.registers.shape = plan) (b : Board) :
    u.strictReceive b = .ok (u.receive b) := by
  unfold strictReceive receive
  dsimp only
  rw [bind_ok (strictRefresh_ok ?_ b)]
  · rfl
  · exact valid

theorem strictRead_same (steady : u.Steady) (b : Board) (a : Access) :
    u.strictRead b a = u.read b a := by
  unfold strictRead read
  rewrite [bind_ok (strictReceive_ok steady.plan b), bind_ok u.strictFlags_ok]
  rfl

theorem strictWriteRegister_same (steady : u.Steady) (b : Board) (a : Access) (value : UInt64) :
    u.strictWriteRegister b a value = u.writeRegister b a value := by
  unfold strictWriteRegister writeRegister
  cases wrote : u.registers.write a.offset a.width value with
  | error e => rfl
  | ok answer =>
      cases answer with
      | error e => rfl
      | ok found =>
          obtain ⟨written, registers⟩ := found
          have shape := (RegisterSpace.write_shape (tidy_of_plan steady.plan) wrote).trans
            steady.plan
          simp only [ok_bind]
          split
          · exact strictRefresh_ok ((RegisterSpace.clearBits_shape ..).trans shape) b
          split
          · exact strictRefresh_ok shape b
          · rfl

theorem strictWrite_same (steady : u.Steady) (b : Board) (a : Access) (value : UInt64) :
    u.strictWrite b a value = u.write b a value := by
  have sent := u.transmit_frame b value.toUInt8
  unfold strictWrite write
  rw [strictWriteRegister_same steady]
  generalize u.transmit b value.toUInt8 = after at sent ⊢
  obtain ⟨v, b'⟩ := after
  have shape : v.registers.shape = plan := (congrArg _ sent.1).trans steady.plan
  have raised : (v.registers.setBits ris txInterrupt).shape = plan :=
    (RegisterSpace.setBits_shape ..).trans shape
  dsimp only
  rw [bind_ok ((compact_of_plan shape).strictSetBits_ok ..), bind_ok (strictRefresh_ok raised b')]

theorem strictEndOfInterrupt_ok (u : Uart) (b : Board) :
    u.strictEndOfInterrupt b = .ok (u.endOfInterrupt b) := by
  unfold strictEndOfInterrupt endOfInterrupt
  rw [bind_ok (b.strictRequest_ok _)]
  split <;> rfl

theorem strictInput_same (steady : u.Steady) (b : Board) (data : List UInt8) :
    u.strictInput b data = u.input b data := by
  unfold strictInput input
  rw [bind_ok (subNat_ok steady.fits), bind_ok (subNat_ok steady.fits),
    bind_ok (tellExcess_ok ..), bind_ok (strictRefresh_ok ?_ _)]
  exact steady.plan

theorem read_ok (steady : u.Steady) (b : Board) (a : Access) : ∃ r, u.read b a = .ok r := by
  obtain ⟨answer, accessed⟩ := (compact_of_plan steady.plan).read_ok a.offset a.width
  unfold read
  split
  · exact ⟨_, rfl⟩
  split
  · exact ⟨_, rfl⟩
  split
  · exact ⟨_, rfl⟩
  split
  · exact ⟨_, rfl⟩
  rw [bind_ok accessed]
  cases answer <;> exact ⟨_, rfl⟩

theorem write_ok (steady : u.Steady) (b : Board) (a : Access) (value : UInt64) :
    ∃ r, u.write b a value = .ok r := by
  obtain ⟨answer, accessed⟩ := (compact_of_plan steady.plan).write_ok a.offset value a.width
  unfold write
  split
  · exact ⟨_, rfl⟩
  split
  · exact ⟨_, rfl⟩
  split
  · exact ⟨_, rfl⟩
  unfold writeRegister
  rw [bind_ok accessed]
  cases answer with
  | error e => exact ⟨_, rfl⟩
  | ok found =>
      dsimp only
      split
      · exact ⟨_, rfl⟩
      split <;> exact ⟨_, rfl⟩

theorem input_ok (steady : u.Steady) (b : Board) (data : List UInt8) :
    ∃ r, u.input b data = .ok r := by
  unfold input
  rw [bind_ok (subNat_ok steady.fits)]
  exact ⟨_, rfl⟩

-- Only a load from the data register and input touch the queue.

def Takes (a : Access) : Prop := a.width ≠ .double ∧ a.offset = dr

instance (a : Access) : Decidable (Takes a) := inferInstanceAs (Decidable (_ ∧ _))

theorem refresh_received (u : Uart) (b : Board) : (u.refresh b).1.received = u.received := by
  rw [refresh_eq]
  rfl

theorem transmit_received (u : Uart) (b : Board) (value : UInt8) :
    (u.transmit b value).1.received = u.received := by
  unfold transmit
  dsimp only
  split
  · rfl
  · split <;> rfl

theorem read_taken {a : Access} {r : Answered Uart UInt64} (takes : Takes a)
    (done : u.read b a = .ok r) : r.answer = .ok (u.received.headD 0).toUInt64 ∧
      r.device.received = u.received.tail := by
  unfold read at done
  rw [if_neg takes.1, if_pos takes.2] at done
  cases done
  exact ⟨rfl, refresh_received ..⟩

theorem read_untaken {a : Access} {r : Answered Uart UInt64} (other : ¬ Takes a)
    (done : u.read b a = .ok r) : r.device.received = u.received := by
  unfold read at done
  split at done
  · cases done
    rfl
  rename_i narrow
  rw [if_neg fun data => other ⟨narrow, data⟩] at done
  split at done
  · cases done
    rfl
  split at done
  · cases done
    rfl
  obtain ⟨answer, _, done⟩ := bind_eq_ok.mp done
  cases answer <;> cases done <;> rfl

theorem write_received {a : Access} {value : UInt64} {r : Answered Uart Unit}
    (done : u.write b a value = .ok r) : r.device.received = u.received := by
  unfold write at done
  split at done
  · cases done
    rfl
  split at done
  · cases done
    exact (refresh_received ..).trans (transmit_received ..)
  split at done
  · cases done
    rfl
  obtain ⟨⟨v, b'⟩, wrote, done⟩ := bind_eq_ok.mp done
  cases done
  unfold writeRegister at wrote
  obtain ⟨answer, _, wrote⟩ := bind_eq_ok.mp wrote
  cases answer with
  | error e =>
      cases wrote
      rfl
  | ok found =>
      dsimp only at wrote
      split at wrote
      · have kept := congrArg (·.1.received) (Except.ok.inj wrote)
        exact kept.symm.trans (refresh_received ..)
      split at wrote
      · have kept := congrArg (·.1.received) (Except.ok.inj wrote)
        exact kept.symm.trans (refresh_received ..)
      · cases wrote
        rfl

theorem input_received {data : List UInt8} {r : Answered Uart Unit}
    (done : u.input b data = .ok r) :
    r.device.received = u.received ++ data.take (capacity - u.received.length) := by
  unfold input at done
  obtain ⟨room, left, done⟩ := bind_eq_ok.mp done
  unfold subNat at left
  split at left
  · cases left
    cases done
    exact refresh_received ..
  · cases left

theorem Steady.asked (steady : u.Steady) (asks : Asks u u') : u'.Steady := by
  have same : PowerOn.alike u u := ⟨steady.plan, steady.plan⟩
  refine ⟨(LawfulPowerOn.asked same asks).1, ?_⟩
  have fits := steady.fits
  cases asks with
  | @read b a r done =>
      by_cases takes : Takes a
      · rw [(read_taken takes done).2, List.length_tail]
        omega
      · rw [read_untaken takes done]
        exact fits
  | write done =>
      rw [write_received done]
      exact fits
  | input done =>
      rw [input_received done, List.length_append, List.length_take]
      omega
  | completed b n =>
      rw [LawfulSignalling.endOfInterrupt_device]
      exact fits
  | level b n level => exact fits
  | reset => exact Nat.zero_le _

end Uart

end VmMonitor
