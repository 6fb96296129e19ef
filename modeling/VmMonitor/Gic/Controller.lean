import VmMonitor.Checked
import VmMonitor.Gic.Line
import VmMonitor.Gic.PendingList
import VmMonitor.Log.Record

/-!
A virtual interrupt controller for one CPU. A line is queued exactly while it is pending, on the
private or the shared list by its number. Listeners are not called from here: what they are owed
is queued as notifications, which the owner of the controller drains and routes.
-/

namespace VmMonitor

namespace Gic

inductive NotificationKind where
  -- The interrupt was completed and went inactive.
  | completed
  | levelChanged (level : Bool)
  deriving DecidableEq, Repr

def NotificationKind.name : NotificationKind → String
  | completed => "Eoi"
  | levelChanged level => s!"LevelChanged({level})"

structure Notification where
  line : Nat
  handler : Handler
  kind : NotificationKind
  deriving DecidableEq, Repr

end Gic

structure Gic where
  enabled : Bool
  lines : Vector Gic.Line Gic.numLines
  privateList : Gic.PendingList
  sharedList : Gic.PendingList
  presented : Nat
  notifications : List Gic.Notification
  deriving DecidableEq

namespace Gic

def initial : Gic where
  enabled := false
  lines := Vector.ofFn fun i => Line.initial i.val
  privateList := .empty
  sharedList := .empty
  presented := spurious
  notifications := []

def line? (g : Gic) (n : Nat) : Option Line := g.lines[n]?

def setLine (g : Gic) (n : Nat) (l : Line) : Gic :=
  { g with lines := g.lines.setIfInBounds n l }

-- Numbers past the last line leave the controller alone.
def adjust (g : Gic) (n : Nat) (f : Line → Line) : Gic :=
  match g.line? n with
  | some l => g.setLine n (f l)
  | none => g

def listOf (g : Gic) (n : Nat) : PendingList :=
  if n < numPrivate then g.privateList else g.sharedList

def adjustList (g : Gic) (n : Nat) (f : PendingList → PendingList) : Gic :=
  if n < numPrivate then { g with privateList := f g.privateList }
  else { g with sharedList := f g.sharedList }

def notify (g : Gic) (n : Nat) (handler : Option Handler) (kind : NotificationKind) : Gic :=
  match handler with
  | some h => { g with notifications := g.notifications ++ [⟨n, h, kind⟩] }
  | none => g

def requeue (g : Gic) (n : Nat) (priority : UInt8) : ListOp → Gic
  | .keep => g
  | .insert => g.adjustList n (·.insert priority n)
  | .remove => g.adjustList n (·.remove n)

-- Puts a line through a transition, with all that it asks for.
def move (g : Gic) (n : Nat) (m : Move) : Gic :=
  match g.line? n with
  | none => g
  | some l =>
      let t := m.transition l.state
      let g := (g.setLine n { l with state := t.next }).requeue n l.priority t.list
      if t.completes then g.notify n l.handler .completed else g

def assert (g : Gic) (n : Nat) : Gic := g.move n .assert

-- Takes the interrupt back altogether and tells its listener that it is complete.
def withdraw (g : Gic) (n : Nat) : Gic := g.move n .withdraw

def acknowledge (g : Gic) (n : Nat) : Gic := g.move n .acknowledge

-- Completes an active interrupt without a word to its listener.
def deactivate (g : Gic) (n : Nat) : Gic := g.move n .deactivate

-- Drops the pending part of the state and leaves an active interrupt active.
def clearPending (g : Gic) (n : Nat) : Gic := g.move n .clearPending

-- A pending interrupt goes to the place of its new priority, behind its equals.
def setPriority (g : Gic) (n : Nat) (priority : UInt8) : Gic :=
  match g.line? n with
  | none => g
  | some l =>
      let g := g.setLine n { l with priority := priority }
      if l.state.isPending then g.adjustList n fun q => (q.remove n).insert priority n else g

-- Private lines always target their own CPU.
def setTarget (g : Gic) (n : Nat) (target : UInt8) : Gic :=
  if n < numPrivate then g else g.adjust n fun l => { l with target := target }

def setLevel (g : Gic) (n : Nat) (level : Bool) : Gic :=
  match g.line? n with
  | none => g
  | some l => (g.setLine n { l with level := level }).notify n l.handler (.levelChanged level)

-- What a CPU interface, a distributor register or a device can ask of the controller.
inductive Request where
  | enableDistributor
  | disableDistributor
  | enable (n : Nat)
  | disable (n : Nat)
  | assert (n : Nat)
  | withdraw (n : Nat)
  | acknowledge (n : Nat)
  | deactivate (n : Nat)
  | clearPending (n : Nat)
  | setPriority (n : Nat) (priority : UInt8)
  | setTarget (n : Nat) (target : UInt8)
  | setTrigger (n : Nat) (trigger : Trigger)
  | setLevel (n : Nat) (level : Bool)
  | setHandler (n : Nat) (handler : Handler)
  deriving DecidableEq, Repr

def apply (g : Gic) : Request → Gic
  | .enableDistributor => { g with enabled := true }
  | .disableDistributor => { g with enabled := false }
  | .enable n => g.adjust n fun l => { l with enabled := true }
  | .disable n => g.adjust n fun l => { l with enabled := false }
  | .assert n => g.assert n
  | .withdraw n => g.withdraw n
  | .acknowledge n => g.acknowledge n
  | .deactivate n => g.deactivate n
  | .clearPending n => g.clearPending n
  | .setPriority n priority => g.setPriority n priority
  | .setTarget n target => g.setTarget n target
  | .setTrigger n trigger => g.adjust n fun l => { l with trigger := trigger }
  | .setLevel n level => g.setLevel n level
  | .setHandler n handler => g.adjust n fun l => { l with handler := some handler }

-- The line a request is about, as far as it looks that line up at all.
def Request.subject : Request → Option Nat
  | .enableDistributor | .disableDistributor => none
  | .setTarget n _ => if n < numPrivate then none else some n
  | .enable n | .disable n | .assert n | .withdraw n | .acknowledge n | .deactivate n
  | .clearPending n | .setPriority n _ | .setTrigger n _ | .setLevel n _ | .setHandler n _ =>
      some n

-- A request for a line that does not exist has no effect but this record.
def Request.complaints (r : Request) : List Log.Record :=
  match r.subject with
  | some n => if n < numLines then [] else [Log.warning s!"vgic: interrupt {n} does not exist"]
  | none => []

def enabledPrivate (g : Gic) : List Entry → Checked (Option Entry)
  | [] => .ok none
  | e :: rest =>
      if e.number < numPrivate then
        match g.line? e.number with
        | some l => if l.enabled then .ok (some e) else enabledPrivate g rest
        | none => .error .outOfRange
      else .error .outOfRange

def enabledShared (g : Gic) : List Entry → Checked (Option Entry)
  | [] => .ok none
  | e :: rest =>
      if e.number < numPrivate then .error .overflow
      else match g.line? e.number with
        | some l =>
            if l.enabled && l.target &&& 1 != 0 then .ok (some e) else enabledShared g rest
        | none => .error .outOfRange

-- A smaller value is more urgent, and a private interrupt wins a tie.
def moreUrgent : Option Entry → Option Entry → Option Entry
  | some p, some s => if p.priority ≤ s.priority then some p else some s
  | some p, none => some p
  | none, s => s

def candidate (g : Gic) : Checked (Option Entry) := do
  let own ← g.enabledPrivate g.privateList.entries
  let shared ← if g.enabled then g.enabledShared g.sharedList.entries else .ok none
  return moreUrgent own shared

-- Picks the interrupt to present. One that is presented stays so until it is completed; a new
-- one is acknowledged as it is picked.
def arbitrate (g : Gic) : Checked (Option Nat × Gic) := do
  if g.presented ≠ spurious then return (some g.presented, g)
  match ← g.candidate with
  | none => return (none, g)
  | some e => return (some e.number, { g.acknowledge e.number with presented := e.number })

-- The guest is done with the presented interrupt. One that was asserted again while active goes
-- back to pending; anything else is complete.
def completePresented (g : Gic) : Gic :=
  if g.presented = spurious then g
  else
    let g' := match (g.line? g.presented).map (·.state) with
      | some .activePending => g.deactivate g.presented
      | _ => g.withdraw g.presented
    { g' with presented := spurious }

def takeNotifications (g : Gic) : List Notification × Gic :=
  (g.notifications, { g with notifications := [] })

-- Private ones first, each list in presentation order.
def pendingLines (g : Gic) : List Nat := g.privateList.numbers ++ g.sharedList.numbers

end Gic

end VmMonitor
