import VmMonitor.Machine.Basic

/-!
How the machine handles events. Every event runs through the same envelope: the vCPU is stopped,
the event takes effect, listeners hear about completed interrupts, the next interrupt is chosen,
and the vCPU is resumed unless the guest waits for an interrupt that has not come.
-/

namespace VmMonitor

-- What a call answers, and the machine as it leaves it. A machine that failed half way keeps what
-- happened until then.
structure Stepped (ν τ η α : Type) where
  answer : Except MachineError α
  machine : Machine ν τ η

namespace Machine

variable {ν τ η : Type}

def state [VcpuSession ν] (m : Machine ν τ η) : VcpuState := VcpuSession.state m.vcpu

def setState [VcpuSession ν] (m : Machine ν τ η) (s : VcpuState) : Machine ν τ η :=
  { m with vcpu := VcpuSession.setState m.vcpu s }

def board (m : Machine ν τ η) : Board := m.platform.board

def setBoard (m : Machine ν τ η) (b : Board) : Machine ν τ η :=
  { m with platform := { m.platform with board := b } }

def warn (m : Machine ν τ η) (text : String) : Machine ν τ η := m.setBoard (m.board.warn text)

def logError (m : Machine ν τ η) (text : String) : Machine ν τ η :=
  m.setBoard (m.board.logError text)

def queue (m : Machine ν τ η) (e : MachineEvent) : Machine ν τ η :=
  { m with events := m.events ++ [e] }

-- Goes on with `next` where the first part succeeded.
def Stepped.andThen {α β : Type} (r : Stepped ν τ η α)
    (next : α → Machine ν τ η → Checked (Stepped ν τ η β)) :
    Checked (Stepped ν τ η β) :=
  match r.answer with
  | .ok a => next a r.machine
  | .error e => .ok ⟨.error e, r.machine⟩

def cancelTimer [HostTimer τ] (m : Machine ν τ η) : Stepped ν τ η Unit :=
  let (answer, timer) := m.platform.timer.cancel
  let m := { m with platform := { m.platform with timer := timer } }
  match answer with
  | .ok () => ⟨.ok (), m⟩
  | .error cause => ⟨.error (.cpu (.timer cause)), m⟩

def pauseVcpu [VcpuSession ν] (m : Machine ν τ η) : Stepped ν τ η Unit :=
  if VcpuSession.isRunning m.vcpu then
    match VcpuSession.pause m.vcpu with
    | (.ok (), vcpu) => ⟨.ok (), { m with vcpu := vcpu }⟩
    | (.error cause, vcpu) => ⟨.error (.pause cause), { m with vcpu := vcpu }⟩
  else ⟨.ok (), m⟩

def resumeVcpu [VcpuSession ν] (m : Machine ν τ η) : Stepped ν τ η Unit :=
  match VcpuSession.run m.vcpu with
  | (.ok (), vcpu) => ⟨.ok (), { m with vcpu := vcpu }⟩
  | (.error cause, vcpu) => ⟨.error (.run cause), { m with vcpu := vcpu }⟩

-- Tells the listener of one notification.
def deliver [VcpuSession ν] (m : Machine ν τ η) (n : Gic.Notification) : Machine ν τ η :=
  match n.handler with
  | .device base =>
      let (delivered, bus, board) := match n.kind with
        | .completed => m.platform.bus.endOfInterrupt m.board base n.line
        | .levelChanged level => m.platform.bus.levelChanged m.board base n.line level
      let m := { m with platform := { m.platform with bus := bus, board := board } }
      if delivered then m
      else m.warn s!"vm: no device at {Text.hex base} for irq {n.line}"
  | .timer =>
      match n.kind with
      | .completed =>
          m.setState { m.state with timer := VirtualTimer.endOfInterrupt m.state.timer }
      | .levelChanged _ => m

-- Listeners may cause notifications of their own, which are delivered in the next round.
def deliveryRounds : Nat := 16

def deliverAll [VcpuSession ν] : Nat → Machine ν τ η → Machine ν τ η
  | 0, m => m.warn "vm: interrupt notifications keep arriving, deferring the rest"
  | rounds + 1, m =>
      let (notifications, gic) := m.board.gic.takeNotifications
      if notifications.isEmpty then m
      else deliverAll rounds (notifications.foldl deliver (m.setBoard { m.board with gic := gic }))

-- Chooses the interrupt to present. One that is presented wakes a guest that waits.
def arbitrate [VcpuSession ν] [HostTimer τ] (m : Machine ν τ η) :
    Checked (Stepped ν τ η Unit) := do
  let (presented, gic) ← m.board.gic.arbitrate
  let m := m.setBoard { m.board with gic := gic }
  let s := m.state
  let m := m.setState { s with irqs := { s.irqs with virtualIrq := UInt32.ofNat gic.presented } }
  if presented.isSome && m.idle then return cancelTimer { m with idle := false }
  return ⟨.ok (), m⟩

-- The state of the vCPU goes to the log, and nothing is handled any more.
def fail [VcpuSession ν] [HostTimer τ] (m : Machine ν τ η) (e : MachineError) :
    Machine ν τ η :=
  let m := (m.logError s!"vm: fatal error: {e.message}").logError m.state.dump
  let r := cancelTimer { m with halted := true }
  match r.answer with
  | .ok () => r.machine
  | .error cause => r.machine.warn s!"vm: failed to cancel the timer: {cause.message}"

variable [VcpuSession ν] [HostTimer τ]

-- What follows an event that took effect.
def settle (m : Machine ν τ η) : Checked (Stepped ν τ η Unit) :=
  if m.exit.isSome then .ok ⟨.ok (), m⟩
  else do
    let r ← (deliverAll deliveryRounds m).arbitrate
    Stepped.andThen r fun _ m => if m.idle then .ok ⟨.ok (), m⟩ else .ok m.resumeVcpu

-- Any error on the way is fatal.
def envelope (m : Machine ν τ η) (body : Machine ν τ η → Checked (Stepped ν τ η Unit)) :
    Checked (Stepped ν τ η Unit) := do
  let r ← Stepped.andThen m.pauseVcpu fun _ m => body m
  let r ← Stepped.andThen r fun _ m => m.settle
  match r.answer with
  | .ok () => return r
  | .error e => return ⟨.error e, r.machine.fail e⟩

def stop (m : Machine ν τ η) (event : PowerEvent) : Stepped ν τ η Unit :=
  let r := m.cancelTimer
  match r.answer with
  | .error e => ⟨.error e, r.machine⟩
  | .ok () =>
      let m := r.machine
      let m := match event with
        | .reset => { m with platform := { m.platform with bus := m.platform.bus.reset } }
        | .off => m
      ⟨.ok (), { m with exit := some (.ofPower event) }⟩

variable [HypercallHandler η]

def dispatchExit (m : Machine ν τ η) : Checked (Stepped ν τ η Unit) := do
  let r ← m.platform.handleExit m.state
  let m := { m with platform := r.platform }.setState r.state
  match r.answer with
  | .error e => return ⟨.error (.cpu e), m⟩
  | .ok .resume => return ⟨.ok (), m⟩
  | .ok .idle => return ⟨.ok (), { m with idle := true }⟩
  | .ok (.shutdown event) => return m.stop event

def expireTimer (m : Machine ν τ η) : Stepped ν τ η Unit :=
  let s := m.state
  let (answer, timer, regs, gic) := m.platform.timer.handleTimeout s.timer m.board.gic
  let m := { m with platform := { m.platform with timer := timer } }
  let m := (m.setBoard { m.board with gic := gic }).setState { s with timer := regs }
  match answer with
  | .ok _ => ⟨.ok (), m⟩
  | .error cause => ⟨.error (.cpu (.timer cause)), m⟩

-- Input that no device takes is dropped.
def acceptInput (m : Machine ν τ η) (base : UInt64) (data : List UInt8) :
    Checked (Stepped ν τ η Unit) := do
  let r ← m.platform.bus.input m.board base data
  let m := { m with platform := { m.platform with bus := r.device, board := r.board } }
  match r.answer with
  | .ok () => return ⟨.ok (), m⟩
  | .error e =>
      return ⟨.ok (), m.warn s!"vm: dropping input for device at {Text.hex base}: {e.message}"⟩

-- A shutdown on request of the host. Unlike other events it does not halt the machine when the
-- host refuses a call.
def shutDown (m : Machine ν τ η) : Checked (Stepped ν τ η Unit) :=
  Stepped.andThen m.pauseVcpu fun _ m =>
    Stepped.andThen m.cancelTimer fun _ m => .ok ⟨.ok (), { m with exit := some .shutdown }⟩

-- Handles the exit that the state of the vCPU describes at present.
def handleExit (m : Machine ν τ η) : Checked (Stepped ν τ η Unit) := m.envelope dispatchExit

-- Events after the machine has exited are dropped.
def handleEvent (m : Machine ν τ η) (e : MachineEvent) : Checked (Stepped ν τ η Unit) :=
  if m.halted then .ok ⟨.error .halted, m⟩
  else if m.exit.isSome then .ok ⟨.ok (), m⟩
  else match e with
    | .exited => m.handleExit
    | .timerExpired => m.envelope fun m => .ok m.expireTimer
    | .terminalInput base data | .frameReceived base data =>
        m.envelope fun m => m.acceptInput base data
    | .shutdown => m.shutDown

-- Handles events until one fails or the machine has exited; the others stay queued.
def handleAll : List MachineEvent → Machine ν τ η → Checked (Stepped ν τ η Unit)
  | [], m => .ok ⟨.ok (), { m with events := [] }⟩
  | e :: rest, m =>
      if m.exit.isSome then .ok ⟨.ok (), { m with events := e :: rest }⟩
      else do
        let r ← { m with events := rest }.handleEvent e
        Stepped.andThen r fun _ m => handleAll rest m

-- Handles every event that is queued.
def processPending (m : Machine ν τ η) : Checked (Stepped ν τ η Unit) := handleAll m.events m

-- Starts the guest and handles events. The answer is the reason of the exit, or none when the
-- machine has run out of events and would wait for the host.
def run (m : Machine ν τ η) : Checked (Stepped ν τ η (Option ExitReason)) := do
  let r ← m.envelope fun m => .ok ⟨.ok (), m⟩
  let r ← Stepped.andThen r fun _ m => m.processPending
  Stepped.andThen r fun _ m => .ok ⟨.ok m.exit, m⟩

-- Lets time pass. Every expiry of the timer queues an event.
def advance [ClockDriven τ] (m : Machine ν τ η) (ns : UInt64) : Checked (Machine ν τ η) := do
  let timer := m.platform.timer
  let (fired, host) ← ClockDriven.advance timer.host ns
  let m := { m with platform := { m.platform with timer := { timer with host := host } } }
  return (List.replicate fired MachineEvent.timerExpired).foldl queue m

end Machine

end VmMonitor
