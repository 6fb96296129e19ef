import VmMonitor.Gic.Controller
import VmMonitor.SysReg.Table
import VmMonitor.Timer.Host

/-!
The guest's virtual timer while the guest waits for an interrupt. A guest that runs has the
hardware timer; for one that waits, a host timer stands in for the ticks that are left, and its
expiry is made up here.
-/

namespace VmMonitor

inductive TimerError where
  | host (cause : HostError)
  | frequency (hertz : UInt64)
  deriving DecidableEq, Repr

def TimerError.kind : TimerError → String
  | host _ => "Timer"
  | frequency _ => "TimerFrequency"

def TimerError.message : TimerError → String
  | host cause => s!"failed to program the host timer: {cause.message}"
  | frequency hertz =>
      s!"timer frequency of {hertz} Hz is too low, at least 1 kHz is needed"

structure VirtualTimer (τ : Type) where
  host : τ
  ticksPerMs : UInt64
  -- The guest count at the time the host timer was armed.
  armedAt : Option UInt64

namespace VirtualTimer

variable {τ : Type}

-- The timer for a counter of this frequency, listening to the completion of its own line.
def new (host : τ) (hertz : UInt64) (gic : Gic) : Except TimerError (VirtualTimer τ × Gic) :=
  let ticksPerMs := hertz / 1000
  if ticksPerMs = 0 then .error (.frequency hertz)
  else .ok (⟨host, ticksPerMs, none⟩, gic.apply (.setHandler Gic.timerLine .timer))

def ticksToMicros (t : VirtualTimer τ) (ticks : UInt64) : Checked UInt64 :=
  Checked.mul (ticks / t.ticksPerMs) 1000

def microsToTicks (t : VirtualTimer τ) (micros : UInt64) : Checked UInt64 :=
  Checked.mul (micros / 1000) t.ticksPerMs

def enabled (regs : TimerRegisters) : Bool := regs.control &&& timerEnable != 0

def masked (regs : TimerRegisters) : Bool := regs.control &&& timerMask != 0

def met (regs : TimerRegisters) : Bool := regs.control &&& timerStatus != 0

-- The condition of an enabled timer is met: it shows in the status, and unless it is masked it
-- interrupts.
def raise (regs : TimerRegisters) (gic : Gic) : TimerRegisters × Gic :=
  if !enabled regs then (regs, gic)
  else
    ({ regs with control := regs.control ||| timerStatus },
      if masked regs then gic else gic.assert Gic.timerLine)

-- Ticks until the compare value, none if it has passed.
def ticksLeft (regs : TimerRegisters) : UInt64 :=
  if regs.count ≤ regs.compare then regs.compare - regs.count else 0

variable [HostTimer τ]

-- Arms the host timer for the ticks that are left. A condition that is met already interrupts at
-- once instead.
def schedule (t : VirtualTimer τ) (regs : TimerRegisters) (gic : Gic) :
    Checked (Except TimerError Unit × VirtualTimer τ × Gic) := do
  if met regs then
    return (.ok (), t, if masked regs then gic else gic.assert Gic.timerLine)
  if !enabled regs then return (.ok (), t, gic)
  let micros ← t.ticksToMicros (ticksLeft regs)
  match ← HostTimer.arm t.host (micros.toNat * 1000) with
  | (.error cause, host) => return (.error (.host cause), { t with host := host }, gic)
  | (.ok (), host) => return (.ok (), { t with host := host, armedAt := some regs.count }, gic)

-- Nothing changes for the guest.
def cancel (t : VirtualTimer τ) : Except TimerError Unit × VirtualTimer τ :=
  match HostTimer.clear t.host with
  | (.error cause, host) => (.error (.host cause), { t with host := host, armedAt := none })
  | (.ok (), host) => (.ok (), { t with host := host, armedAt := none })

-- Handles an expiry of the host timer and says whether it counted. One that was armed anew or
-- cancelled after it ran out is stale.
def handleTimeout (t : VirtualTimer τ) (regs : TimerRegisters) (gic : Gic) :
    Except TimerError Bool × VirtualTimer τ × TimerRegisters × Gic :=
  match HostTimer.markWaited t.host with
  | (.error cause, host) => (.error (.host cause), { t with host := host }, regs, gic)
  | (.ok true, host) => (.ok false, { t with host := host }, regs, gic)
  | (.ok false, host) =>
      let t' : VirtualTimer τ := { t with host := host, armedAt := none }
      match t.armedAt with
      | none => (.ok false, t', regs, gic)
      | some _ => (.ok true, t', raise { regs with count := regs.compare + 1 } gic)

-- The hardware timer interrupted the running guest.
def handleIrq (regs : TimerRegisters) (gic : Gic) : TimerRegisters × Gic := raise regs gic

-- The guest completed the timer interrupt.
def endOfInterrupt (regs : TimerRegisters) : TimerRegisters :=
  { regs with control := regs.control &&& ~~~timerStatus }

end VirtualTimer

end VmMonitor
