import VmMonitor.Checked

/-!
Pretend time. A clock stands still until it is advanced, and then the deadlines it has reached
run out, in the order in which they were registered.
-/

namespace VmMonitor

structure Deadline where
  timer : Nat
  due : UInt64
  deriving DecidableEq, Repr

structure Clock where
  -- In nanoseconds.
  now : UInt64
  -- How many timers were given a number so far.
  registered : Nat
  deadlines : List Deadline
  deriving DecidableEq, Repr

namespace Clock

def initial : Clock := ⟨0, 0, []⟩

def register (c : Clock) : Nat × Clock :=
  (c.registered + 1, { c with registered := c.registered + 1 })

def remove (c : Clock) (timer : Nat) : Clock :=
  { c with deadlines := c.deadlines.filter fun d => d.timer ≠ timer }

-- A timer has at most one deadline; a new one takes the last place.
def add (c : Clock) (timer : Nat) (due : UInt64) : Clock :=
  { c with deadlines := (c.remove timer).deadlines ++ [⟨timer, due⟩] }

def pending (c : Clock) : Nat := c.deadlines.length

-- The timers whose deadline is reached, and the clock without those deadlines.
def advance (c : Clock) (ns : UInt64) : Checked (List Nat × Clock) := do
  let now ← Checked.add c.now ns
  let fired := (c.deadlines.filter fun d => d.due ≤ now).map (·.timer)
  return (fired, { c with now := now, deadlines := c.deadlines.filter fun d => now < d.due })

end Clock

-- A timer driven by a clock. It remembers its own deadline until someone has waited for it.
structure ClockTimer where
  id : Nat
  due : Option UInt64
  deriving DecidableEq, Repr

namespace ClockTimer

def new (c : Clock) : ClockTimer × Clock :=
  let (id, c) := c.register
  (⟨id, none⟩, c)

-- Durations are cut to 64 bits of nanoseconds; the sum with the present time is not.
def arm (t : ClockTimer) (c : Clock) (ns : Nat) : Checked (ClockTimer × Clock) := do
  let due ← Checked.add c.now (UInt64.ofNat ns)
  return ({ t with due := some due }, c.add t.id due)

-- Whether the timer was armed anew or cleared since it ran out, so that the expiry no longer
-- counts.
def markWaited (t : ClockTimer) (c : Clock) : Bool × ClockTimer :=
  match t.due with
  | some due => if due ≤ c.now then (false, { t with due := none }) else (true, t)
  | none => (true, t)

def clear (t : ClockTimer) (c : Clock) : ClockTimer × Clock :=
  ({ t with due := none }, c.remove t.id)

-- What is left of the clock when the timer goes away.
def drop (t : ClockTimer) (c : Clock) : Clock := c.remove t.id

end ClockTimer

end VmMonitor
