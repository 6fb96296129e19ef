import VmMonitor.HostError
import VmMonitor.Timer.Clock

/-!
One-shot timers of the host. Any call can be refused by the host.
-/

namespace VmMonitor

class HostTimer (τ : Type) where
  -- Runs out once after so many nanoseconds; whatever was set before is forgotten.
  arm : τ → Nat → Checked (Except HostError Unit × τ)
  -- After an expiry was delivered: whether the timer was adjusted since it ran out, so that the
  -- expiry is stale.
  markWaited : τ → Except HostError Bool × τ
  clear : τ → Except HostError Unit × τ

-- A timer on pretend time.
class ClockDriven (τ : Type) where
  -- Lets so many nanoseconds pass and says how often the timer ran out.
  advance : τ → UInt64 → Checked (Nat × τ)

-- Either of two kinds of timers.
instance {τ υ : Type} [HostTimer τ] [HostTimer υ] : HostTimer (τ ⊕ υ) where
  arm t ns :=
    match t with
    | .inl t => return (← HostTimer.arm t ns).map id .inl
    | .inr t => return (← HostTimer.arm t ns).map id .inr
  markWaited
    | .inl t => (HostTimer.markWaited t).map id .inl
    | .inr t => (HostTimer.markWaited t).map id .inr
  clear
    | .inl t => (HostTimer.clear t).map id .inl
    | .inr t => (HostTimer.clear t).map id .inr

instance {τ υ : Type} [ClockDriven τ] [ClockDriven υ] : ClockDriven (τ ⊕ υ) where
  advance t ns :=
    match t with
    | .inl t => return (← ClockDriven.advance t ns).map id .inl
    | .inr t => return (← ClockDriven.advance t ns).map id .inr

-- A timer together with the clock that drives it.
structure SimulatedTimer where
  timer : ClockTimer
  clock : Clock
  deriving DecidableEq, Repr

namespace SimulatedTimer

def new : SimulatedTimer :=
  let (timer, clock) := ClockTimer.new .initial
  ⟨timer, clock⟩

def arm (t : SimulatedTimer) (ns : Nat) : Checked SimulatedTimer := do
  let (timer, clock) ← t.timer.arm t.clock ns
  return ⟨timer, clock⟩

def markWaited (t : SimulatedTimer) : Bool × SimulatedTimer :=
  let (adjusted, timer) := t.timer.markWaited t.clock
  (adjusted, { t with timer := timer })

def clear (t : SimulatedTimer) : SimulatedTimer :=
  let (timer, clock) := t.timer.clear t.clock
  ⟨timer, clock⟩

-- How often the timer ran out, at most once, as its clock was advanced.
def advance (t : SimulatedTimer) (ns : UInt64) : Checked (Nat × SimulatedTimer) := do
  let (fired, clock) ← t.clock.advance ns
  return ((fired.filter (· = t.timer.id)).length, { t with clock := clock })

instance : HostTimer SimulatedTimer where
  arm t ns := do return (.ok (), ← t.arm ns)
  markWaited t := let (adjusted, t) := t.markWaited; (.ok adjusted, t)
  clear t := (.ok (), t.clear)

instance : ClockDriven SimulatedTimer := ⟨advance⟩

end SimulatedTimer

-- A timer that runs on the host's own time. When it runs out is not for this model to say.
structure WallTimer where
  armed : Bool
  expired : Bool
  deriving DecidableEq, Repr

namespace WallTimer

def new : WallTimer := ⟨false, false⟩

def arm (_ : WallTimer) : WallTimer := ⟨true, false⟩

-- The time has come.
def expire (t : WallTimer) : WallTimer := if t.armed then ⟨false, true⟩ else t

def markWaited (t : WallTimer) : Bool × WallTimer := (!t.expired, { t with expired := false })

def clear (_ : WallTimer) : WallTimer := ⟨false, false⟩

instance : HostTimer WallTimer where
  arm t _ := .ok (.ok (), t.arm)
  markWaited t := let (adjusted, t) := t.markWaited; (.ok adjusted, t)
  clear t := (.ok (), t.clear)

-- Pretend time means nothing to it.
instance : ClockDriven WallTimer := ⟨fun t _ => .ok (0, t)⟩

end WallTimer

inductive TimerCall where
  | arm
  | markWaited
  | clear
  deriving DecidableEq, Repr

-- A timer of which the host refuses some calls. A refused call does not reach the timer.
structure RefusingTimer (τ : Type) where
  inner : τ
  refusal : TimerCall → Option HostError

namespace RefusingTimer

instance [HostTimer τ] : HostTimer (RefusingTimer τ) where
  arm t ns :=
    match t.refusal .arm with
    | some e => .ok (.error e, t)
    | none => do
        let (answer, inner) ← HostTimer.arm t.inner ns
        return (answer, { t with inner := inner })
  markWaited t :=
    match t.refusal .markWaited with
    | some e => (.error e, t)
    | none =>
        let (answer, inner) := HostTimer.markWaited t.inner
        (answer, { t with inner := inner })
  clear t :=
    match t.refusal .clear with
    | some e => (.error e, t)
    | none =>
        let (answer, inner) := HostTimer.clear t.inner
        (answer, { t with inner := inner })

instance [ClockDriven τ] : ClockDriven (RefusingTimer τ) where
  advance t ns := do
    let (fired, inner) ← ClockDriven.advance t.inner ns
    return (fired, { t with inner := inner })

end RefusingTimer

end VmMonitor
