import Mathlib.Data.List.ReduceOption
import VmMonitor.Proofs.Gic.Lines
import VmMonitor.Proofs.Strict.Uart

/-!
What the guest receives through the UART. Input of the host, accesses of the guest and the rounds of
its interrupt come in any order. The guest is given the bytes that found room, in their order; the
receive status says whether one waits; and the line is never left down while the status is up, nor
pending for nothing.
-/

namespace VmMonitor

namespace Uart

open Checked

-- All bytes that the host sent and that found room, and how many of them the guest has fetched.
structure Fifo where
  accepted : List UInt8
  taken : Nat
  deriving DecidableEq, Repr

namespace Fifo

def empty : Fifo := ⟨[], 0⟩

def waiting (f : Fifo) : Nat := f.accepted.length - f.taken

-- A byte is dropped if 32 wait already.
def offer (f : Fifo) (byte : UInt8) : Fifo :=
  if f.waiting = 32 then f else { f with accepted := f.accepted ++ [byte] }

def next? (f : Fifo) : Option UInt8 := f.accepted[f.taken]?

def fetch (f : Fifo) : Fifo := if f.waiting = 0 then f else { f with taken := f.taken + 1 }

end Fifo

-- A UART at its board.
structure Post where
  uart : Uart
  board : Board

inductive Event where
  | input (data : List UInt8)
  | read (a : Access)
  | write (a : Access) (value : UInt64)
  | arbitrate
  | complete
  -- What others ask of the controller.
  | request (r : Gic.Request)

namespace Post

-- The UART listens to what concerns the device at its base.
def hear (base : UInt64) (w : Post) (n : Gic.Notification) : Post :=
  if n.handler = .device base then
    match n.kind with
    | .completed =>
        let (uart, board) := BusDevice.endOfInterrupt w.uart w.board n.line
        ⟨uart, board⟩
    | .levelChanged level =>
        let (uart, board) := BusDevice.levelChanged w.uart w.board n.line level
        ⟨uart, board⟩
  else w

def setGic (w : Post) (gic : Gic) : Post := { w with board := { w.board with gic := gic } }

-- The guest is done with what it was presented, and all who listen are told.
def complete (base : UInt64) (w : Post) : Post :=
  let (owed, gic) := w.board.gic.completePresented.takeNotifications
  owed.foldl (hear base) (w.setGic gic)

-- Answers what loads of the data register give the guest.
def step (base : UInt64) (w : Post) : Event → Checked (List UInt64 × Post)
  | .input data => do
      let r ← w.uart.input w.board data
      return ([], ⟨r.device, r.board⟩)
  | .read a => do
      let r ← w.uart.read w.board a
      return (if Takes a then r.answer.toOption.toList else [], ⟨r.device, r.board⟩)
  | .write a value => do
      let r ← w.uart.write w.board a value
      return ([], ⟨r.device, r.board⟩)
  | .arbitrate => do
      let (_, gic) ← w.board.gic.arbitrate
      return ([], w.setGic gic)
  | .complete => .ok ([], w.complete base)
  | .request r => .ok ([], { w with board := w.board.request r })

def run (base : UInt64) (w : Post) : List Event → Checked (List UInt64 × Post)
  | [] => .ok ([], w)
  | e :: rest => do
      let (got, w) ← w.step base e
      let (later, w) ← w.run base rest
      return (got ++ later, w)

end Post

namespace Fifo

-- Answers the byte that each load of the data register finds, if there is one.
def step (f : Fifo) : Event → List (Option UInt8) × Fifo
  | .input data => ([], data.foldl offer f)
  | .read a => if Takes a then ([f.next?], f.fetch) else ([], f)
  | .write .. | .arbitrate | .complete | .request _ => ([], f)

def run (f : Fifo) : List Event → List (Option UInt8) × Fifo
  | [] => ([], f)
  | e :: rest => ((f.step e).1 ++ ((f.step e).2.run rest).1, ((f.step e).2.run rest).2)

end Fifo

-- Nobody else touches the line.
def Event.leaves (line : Nat) : Event → Bool
  | .request r => r.leaves line
  | .input _ | .read _ | .write .. | .arbitrate | .complete => true

-- The line is engaged while the masked status is up, and does not wait while that is down.
structure Driven (state : Gic.State) (masked : UInt64) : Prop where
  engaged : masked ≠ 0 → state ≠ .inactive
  quiet : masked = 0 → state.isPending = false

-- The UART stands as the queue of bytes has it, and its line follows.
structure Follows (base : UInt64) (line : Nat) (f : Fifo) (w : Post) : Prop where
  steady : w.uart.Steady
  own : w.uart.line = line
  within : f.taken ≤ f.accepted.length
  queue : w.uart.received = f.accepted.drop f.taken
  status : (w.uart.registers.value ris).toNat.testBit 4 = !w.uart.received.isEmpty
  reached : w.board.gic.Reached
  heard : w.board.gic.handlerOf line = some (.device base)
  driven : Driven (w.board.gic.stateOf line) w.uart.maskedStatus

variable {base : UInt64} {line : Nat} {f : Fifo} {w : Post} {u v : Uart} {b b' : Board}
  {masked : UInt64}

namespace Fifo

-- What there is room for is taken, from the front.
theorem offers (within : f.taken ≤ f.accepted.length) (fits : f.waiting ≤ 32) (data : List UInt8) :
    data.foldl offer f = ⟨f.accepted ++ data.take (32 - f.waiting), f.taken⟩ := by
  induction data generalizing f with
  | nil =>
      rw [List.take_nil, List.append_nil]
      rfl
  | cons byte rest ih =>
      rw [List.foldl_cons]
      by_cases full : f.waiting = 32
      · rw [show f.offer byte = f from if_pos full, ih within fits, full]
        rfl
      · have more : (⟨f.accepted ++ [byte], f.taken⟩ : Fifo).waiting = f.waiting + 1 := by
          simp only [waiting, List.length_append, List.length_singleton]
          omega
        have room : 32 - f.waiting = 32 - (f.waiting + 1) + 1 := by omega
        rw [show f.offer byte = ⟨f.accepted ++ [byte], f.taken⟩ from if_neg full,
          ih (by simp; omega) (by omega), more, room, List.take_succ_cons, List.append_assoc]
        rfl

-- Input only ever adds to what was accepted.
theorem offers_grow (f : Fifo) (data : List UInt8) :
    ∃ more, data.foldl offer f = ⟨f.accepted ++ more, f.taken⟩ := by
  induction data generalizing f with
  | nil => exact ⟨[], by simp⟩
  | cons byte rest ih =>
      obtain ⟨more, done⟩ := ih (f.offer byte)
      rw [List.foldl_cons, done]
      unfold offer
      split
      · exact ⟨more, rfl⟩
      · exact ⟨byte :: more, by simp⟩

theorem fetch_within (within : f.taken ≤ f.accepted.length) :
    f.fetch.taken ≤ f.fetch.accepted.length := by
  unfold fetch waiting
  split
  · exact within
  · change f.taken + 1 ≤ f.accepted.length
    omega

-- A byte that is found is the next one, and is counted as fetched.
theorem fetch_next (f : Fifo) :
    f.accepted.take f.taken ++ f.next?.toList = f.fetch.accepted.take f.fetch.taken := by
  unfold fetch next? waiting
  split
  · rw [List.getElem?_eq_none (by omega), Option.toList_none, List.append_nil]
  · exact List.take_add_one.symm

theorem step_fetched (within : f.taken ≤ f.accepted.length) (e : Event) :
    (f.step e).2.taken ≤ (f.step e).2.accepted.length ∧
      f.accepted.take f.taken ++ (f.step e).1.reduceOption =
        (f.step e).2.accepted.take (f.step e).2.taken := by
  cases e with
  | input data =>
      obtain ⟨more, done⟩ := f.offers_grow data
      rw [show f.step (.input data) = ([], _) from congrArg _ done, List.length_append,
        List.take_append_of_le_length within]
      exact ⟨Nat.le_add_right_of_le within, List.append_nil _⟩
  | read a =>
      by_cases takes : Takes a
      · rw [show f.step (.read a) = ([f.next?], f.fetch) from if_pos takes]
        refine ⟨fetch_within within, ?_⟩
        rw [← fetch_next f]
        cases f.next? <;> rfl
      · rw [show f.step (.read a) = ([], f) from if_neg takes]
        exact ⟨within, List.append_nil _⟩
  | write a value | arbitrate | complete | request r => exact ⟨within, List.append_nil _⟩

-- What loads found are the bytes that were accepted, in their order.
theorem run_fetched (within : f.taken ≤ f.accepted.length) (events : List Event) :
    f.accepted.take f.taken ++ (f.run events).1.reduceOption =
      (f.run events).2.accepted.take (f.run events).2.taken := by
  induction events generalizing f with
  | nil => exact List.append_nil _
  | cons e rest ih =>
      obtain ⟨within', first⟩ := step_fetched within e
      rw [run, List.reduceOption_append, ← List.append_assoc, first]
      exact ih within'

end Fifo

-- Accesses of the guest and input. A refresh puts the line in step with the status that it finds.

theorem Settles.own (settles : Settles u b v b') : v.line = u.line := by
  cases settles with
  | still valid status mask gic => rfl
  | refreshed valid line gic =>
      rw [refresh_eq]
      exact line

theorem Settles.status (settles : Settles u b v b')
    (before : (u.registers.value ris).toNat.testBit 4 = !u.received.isEmpty) :
    (v.registers.value ris).toNat.testBit 4 = !v.received.isEmpty := by
  cases settles with
  | still valid status mask gic =>
      rw [status]
      exact before
  | @refreshed v b' valid line gic =>
      rw [refresh_eq]
      change (v.latched.registers.value ris).toNat.testBit 4 = !v.received.isEmpty
      rw [latched_status valid]
      exact receive_bit ..

theorem Settles.gic (settles : Settles u b v b') (own : u.line = line) :
    b'.gic = b.gic ∧ v.maskedStatus = u.maskedStatus ∨
      v.maskedStatus ≠ 0 ∧ b'.gic = b.gic.apply (.assert line) ∨
      v.maskedStatus = 0 ∧ b'.gic = b.gic.apply (.clearPending line) := by
  cases settles with
  | still valid status mask gic =>
      exact .inl ⟨gic, by simp only [maskedStatus, status, mask]⟩
  | @refreshed v b' valid line gic =>
      have same : v.latched.line = u.line := line
      rw [refresh_eq, Board.gic_request, gic, lineRequest, same, own]
      split
      · rename_i up
        exact .inr (.inl ⟨by simpa using up, rfl⟩)
      · rename_i down
        exact .inr (.inr ⟨by simpa using down, rfl⟩)

theorem Settles.driven (settles : Settles u b v b') (own : u.line = line)
    (listed : line < Gic.numLines) (driven : Driven (b.gic.stateOf line) u.maskedStatus) :
    Driven (b'.gic.stateOf line) v.maskedStatus := by
  rcases settles.gic own with ⟨gic, same⟩ | ⟨up, gic⟩ | ⟨down, gic⟩
  · rw [gic, same]
    exact driven
  · rw [gic]
    exact ⟨fun _ => Gic.assert_busy _ listed, fun down => absurd down up⟩
  · rw [gic]
    exact ⟨fun up => absurd down up, fun _ => Gic.clearPending_quiet _ listed⟩

theorem Settles.kept (settles : Settles u b v b') (own : u.line = line) (reached : b.gic.Reached) :
    b'.gic.Reached ∧ b'.gic.handlerOf line = b.gic.handlerOf line := by
  rcases settles.gic own with ⟨gic, _⟩ | ⟨_, gic⟩ | ⟨_, gic⟩ <;> rw [gic]
  · exact ⟨reached, rfl⟩
  · exact ⟨Gic.reached_apply reached _, Gic.apply_handlerOf rfl line⟩
  · exact ⟨Gic.reached_apply reached _, Gic.apply_handlerOf rfl line⟩

-- Rounds of the interrupt. Only what waits is presented, and a completion that lets the line rest is
-- announced.

theorem driven_arbitrate {before after : Gic.Standing}
    (passed : Gic.Passes line .arbitrate before after) (driven : Driven before.state masked) :
    Driven after.state masked := by
  cases passed with
  | unchosen => exact driven
  | @chosen s due =>
      refine ⟨fun _ => ?_, fun down => ?_⟩
      · cases s with
        | pending | activePending => decide
        | inactive | active => cases due
      · rw [driven.quiet down] at due
        cases due

theorem quiet_complete {before after : Gic.Standing}
    (passed : Gic.Passes line .complete before after) (rests : before.state.isPending = false) :
    after.state.isPending = false := by
  cases passed with
  | unserved => exact rests
  | requeued => cases rests
  | ended once => rfl

namespace Post

theorem hear_uart (base : UInt64) (w : Post) (n : Gic.Notification) :
    (w.hear base n).uart = w.uart := by
  obtain ⟨number, handler, kind⟩ := n
  unfold hear
  split
  · cases kind with
    | completed => exact LawfulSignalling.endOfInterrupt_device w.uart w.board number
    | levelChanged level =>
        exact LawfulSignalling.levelChanged_device w.uart w.board number level
  · rfl

-- Being told of a completion makes the UART assert its line while the status is up.
theorem hear_gic (base : UInt64) (w : Post) (n : Gic.Notification) :
    (w.hear base n).board.gic =
      if (n.handler = .device base ∧ n.kind = .completed) ∧ w.uart.maskedStatus ≠ 0 then
        w.board.gic.apply (.assert w.uart.line)
      else w.board.gic := by
  obtain ⟨number, handler, kind⟩ := n
  unfold hear
  by_cases mine : handler = .device base
  · cases kind with
    | completed =>
        rw [if_pos mine]
        refine (LawfulSignalling.endOfInterrupt_gic w.uart w.board number).trans ?_
        change (if w.uart.maskedStatus != 0 then _ else _) = _
        simp [mine]
    | levelChanged level =>
        rw [if_pos mine, if_neg fun both => nomatch both.1.2]
        exact LawfulSignalling.levelChanged_gic w.uart w.board number level
  · rw [if_neg mine, if_neg fun both => mine both.1.1]

-- What being told makes of the UART and of its line.
structure Heard (line : Nat) (w w' : Post) : Prop where
  uart : w'.uart = w.uart
  reached : w'.board.gic.Reached
  handler : w'.board.gic.handlerOf line = w.board.gic.handlerOf line
  still : w.uart.maskedStatus = 0 → w'.board.gic = w.board.gic
  engaged : w.uart.maskedStatus ≠ 0 → w.board.gic.stateOf line ≠ .inactive →
    w'.board.gic.stateOf line ≠ .inactive

theorem hear_heard (own : w.uart.line = line) (listed : line < Gic.numLines)
    (reached : w.board.gic.Reached) (n : Gic.Notification) : Heard line w (w.hear base n) := by
  have gic := hear_gic base w n
  split at gic
  · rename_i told
    refine ⟨hear_uart .., ?_, ?_, fun down => absurd down told.2, fun _ _ => ?_⟩ <;> rw [gic]
    · exact Gic.reached_apply reached _
    · exact Gic.apply_handlerOf rfl line
    · rw [own]
      exact Gic.assert_busy _ listed
  · refine ⟨hear_uart .., ?_, ?_, fun _ => gic, fun _ up => ?_⟩ <;> rw [gic]
    · exact reached
    · exact up

theorem Heard.trans {w₁ w₂ w₃ : Post} (first : Heard line w₁ w₂) (second : Heard line w₂ w₃) :
    Heard line w₁ w₃ where
  uart := second.uart.trans first.uart
  reached := second.reached
  handler := second.handler.trans first.handler
  still down := (second.still (by rw [first.uart]; exact down)).trans (first.still down)
  engaged up busy := second.engaged (by rw [first.uart]; exact up) (first.engaged up busy)

theorem hears_heard (own : w.uart.line = line) (listed : line < Gic.numLines)
    (reached : w.board.gic.Reached) (owed : List Gic.Notification) :
    Heard line w (owed.foldl (hear base) w) := by
  induction owed generalizing w with
  | nil => exact ⟨rfl, reached, rfl, fun _ => rfl, fun _ busy => busy⟩
  | cons n rest ih =>
      have first : Heard line w (w.hear base n) := hear_heard own listed reached n
      exact first.trans (ih (by rw [hear_uart]; exact own) first.reached)

-- The UART is told of its own line, wherever that comes among the others.
theorem hears_told (own : w.uart.line = line) (listed : line < Gic.numLines)
    (reached : w.board.gic.Reached) {owed : List Gic.Notification}
    (told : ⟨line, .device base, .completed⟩ ∈ owed) (up : w.uart.maskedStatus ≠ 0) :
    (owed.foldl (hear base) w).board.gic.stateOf line ≠ .inactive := by
  obtain ⟨before, after, rfl⟩ := List.append_of_mem told
  rw [List.foldl_append, List.foldl_cons]
  have earlier : Heard line w (before.foldl (hear base) w) := hears_heard own listed reached before
  generalize before.foldl (hear base) w = v at earlier ⊢
  have own' : v.uart.line = line := by rw [earlier.uart, own]
  have up' : v.uart.maskedStatus ≠ 0 := by rw [earlier.uart]; exact up
  have heard : Heard line v (v.hear base ⟨line, .device base, .completed⟩) :=
    hear_heard own' listed earlier.reached _
  have now : (v.hear base ⟨line, .device base, .completed⟩).board.gic.stateOf line ≠ .inactive := by
    rw [hear_gic, if_pos ⟨⟨rfl, rfl⟩, up'⟩, own']
    exact Gic.assert_busy _ listed
  have own'' : (v.hear base ⟨line, .device base, .completed⟩).uart.line = line := by
    rw [hear_uart, own']
  exact (hears_heard own'' listed heard.reached after).engaged (by rw [hear_uart]; exact up') now

end Post

theorem Follows.complete (follows : Follows base line f w) (listed : line < Gic.numLines) :
    Follows base line f (w.complete base) := by
  obtain ⟨steady, own, within, queue, status, reached, handler, driven⟩ := follows
  let g := w.board.gic.completePresented
  let v := w.setGic g.takeNotifications.2
  have state : v.board.gic.stateOf line = g.stateOf line := Gic.stateOf_congr rfl
  have started : v.board.gic.Reached := Gic.reached_take (Gic.reached_complete reached)
  have heard : Post.Heard line v (w.complete base) :=
    Post.hears_heard (w := v) own listed started _
  refine ⟨?_, ?_, within, ?_, ?_, heard.reached, ?_, ?_, ?_⟩
  · rw [heard.uart]
    exact steady
  · rw [heard.uart]
    exact own
  · rw [heard.uart]
    exact queue
  · rw [heard.uart]
    exact status
  · rw [heard.handler]
    exact (Gic.complete_handlerOf ..).trans handler
  · intro up
    rw [heard.uart] at up
    have busy := Gic.engaged_stateOf (driven.engaged up)
    rcases Gic.complete_engaged busy handler with ⟨l, found, still⟩ | told
    · refine heard.engaged up ?_
      rw [state, Gic.stateOf_line found]
      exact still
    · exact Post.hears_told (w := v) own listed started told up
  · intro down
    rw [heard.uart] at down
    rw [heard.still down, state]
    exact quiet_complete (Gic.complete_passes (Gic.reached_queued reached) listed)
      (driven.quiet down)

-- What the UART was asked, with what became of the queue.
theorem Follows.accessed (follows : Follows base line f w) (listed : line < Gic.numLines)
    {f' : Fifo} (steady : v.Steady) (settles : Settles w.uart w.board v b')
    (within : f'.taken ≤ f'.accepted.length) (queue : v.received = f'.accepted.drop f'.taken) :
    Follows base line f' ⟨v, b'⟩ := by
  obtain ⟨reached, handler⟩ := settles.kept follows.own follows.reached
  exact ⟨steady, settles.own.trans follows.own, within, queue, settles.status follows.status,
    reached, handler.trans follows.heard, settles.driven follows.own listed follows.driven⟩

theorem Follows.waiting (follows : Follows base line f w) : f.waiting = w.uart.received.length := by
  rw [follows.queue, List.length_drop]
  rfl

theorem Follows.input (follows : Follows base line f w) (listed : line < Gic.numLines)
    {data : List UInt8} {r : Answered Uart Unit} (done : w.uart.input w.board data = .ok r) :
    Follows base line (data.foldl Fifo.offer f) ⟨r.device, r.board⟩ := by
  have fits : f.waiting ≤ 32 := by
    rw [follows.waiting]
    exact follows.steady.fits
  have grown : r.device.received =
      (f.accepted ++ data.take (32 - f.waiting)).drop f.taken := by
    rw [List.drop_append_of_le_length follows.within, ← follows.queue, follows.waiting]
    exact input_received done
  rw [Fifo.offers follows.within fits]
  refine follows.accessed listed (follows.steady.asked (.input done))
    (input_settles follows.steady.plan done) ?_ grown
  rw [List.length_append]
  exact Nat.le_add_right_of_le follows.within

theorem Follows.taken (follows : Follows base line f w) (listed : line < Gic.numLines)
    {a : Access} {r : Answered Uart UInt64} (takes : Takes a)
    (done : w.uart.read w.board a = .ok r) : r.answer = .ok (f.next?.getD 0).toUInt64 ∧
      Follows base line f.fetch ⟨r.device, r.board⟩ := by
  obtain ⟨answer, tail⟩ := read_taken takes done
  rw [follows.queue] at answer tail
  constructor
  · rw [answer, List.headD_eq_head?_getD, List.head?_drop]
    rfl
  · refine follows.accessed listed (follows.steady.asked (.read done))
      (read_settles follows.steady.plan done) (Fifo.fetch_within follows.within) ?_
    rw [tail, List.tail_drop]
    unfold Fifo.fetch Fifo.waiting
    split
    · rw [List.drop_eq_nil_of_le (by omega), List.drop_eq_nil_of_le (by omega)]
    · rfl

theorem Follows.arbitrate (follows : Follows base line f w) (listed : line < Gic.numLines)
    {answer : Option Nat} {g : Gic} (done : w.board.gic.arbitrate = .ok (answer, g)) :
    Follows base line f (w.setGic g) where
  steady := follows.steady
  own := follows.own
  within := follows.within
  queue := follows.queue
  status := follows.status
  reached := Gic.reached_arbitrate follows.reached done
  heard := (Gic.arbitrate_handlerOf done line).trans follows.heard
  driven := driven_arbitrate
    (Gic.arbitrate_passes (Gic.reached_queued follows.reached) listed done) follows.driven

theorem Follows.request (follows : Follows base line f w) {r : Gic.Request}
    (leaves : r.leaves line = true) :
    Follows base line f { w with board := w.board.request r } := by
  obtain ⟨state, handler⟩ := Gic.leaves_line (g := w.board.gic) leaves
  obtain ⟨steady, own, within, queue, status, reached, heard, driven⟩ := follows
  refine ⟨steady, own, within, queue, status, ?_, ?_, ?_⟩ <;> rw [Board.gic_request]
  · exact Gic.reached_apply reached r
  · exact handler.trans heard
  · rw [state]
    exact driven

-- What the guest is given where no byte was found.
def given (found : List (Option UInt8)) : List UInt64 := found.map fun o => (o.getD 0).toUInt64

theorem step_follows (follows : Follows base line f w) (listed : line < Gic.numLines) {e : Event}
    (alone : e.leaves line = true) :
    ∃ w', w.step base e = .ok (given (f.step e).1, w') ∧ Follows base line (f.step e).2 w' := by
  cases e with
  | input data =>
      obtain ⟨r, done⟩ := input_ok follows.steady w.board data
      exact ⟨_, bind_ok done, follows.input listed done⟩
  | read a =>
      obtain ⟨r, done⟩ := read_ok follows.steady w.board a
      by_cases takes : Takes a
      · obtain ⟨answer, follows'⟩ := follows.taken listed takes done
        refine ⟨⟨r.device, r.board⟩, ?_, ?_⟩
        · refine (bind_ok done).trans ?_
          rw [if_pos takes, answer, show f.step (.read a) = ([f.next?], f.fetch) from if_pos takes]
          rfl
        · rw [show f.step (.read a) = ([f.next?], f.fetch) from if_pos takes]
          exact follows'
      · rw [show f.step (.read a) = ([], f) from if_neg takes]
        refine ⟨⟨r.device, r.board⟩, ?_, ?_⟩
        · refine (bind_ok done).trans ?_
          rw [if_neg takes]
          rfl
        · exact follows.accessed listed (follows.steady.asked (.read done))
            (read_settles follows.steady.plan done) follows.within
            ((read_untaken takes done).trans follows.queue)
  | write a value =>
      obtain ⟨r, done⟩ := write_ok follows.steady w.board a value
      exact ⟨_, bind_ok done, follows.accessed listed (follows.steady.asked (.write done))
        (write_settles follows.steady.plan done) follows.within
        ((write_received done).trans follows.queue)⟩
  | arbitrate =>
      obtain ⟨answer, g, done, _⟩ := Gic.arbitrate_queued (Gic.reached_queued follows.reached)
      exact ⟨_, bind_ok done, follows.arbitrate listed done⟩
  | complete => exact ⟨_, rfl, follows.complete listed⟩
  | request r => exact ⟨_, rfl, follows.request alone⟩

theorem run_follows (follows : Follows base line f w) (listed : line < Gic.numLines)
    {events : List Event} (alone : ∀ e ∈ events, e.leaves line = true) :
    ∃ w', w.run base events = .ok (given (f.run events).1, w') ∧
      Follows base line (f.run events).2 w' := by
  induction events generalizing f w with
  | nil => exact ⟨w, rfl, follows⟩
  | cons e rest ih =>
      obtain ⟨here, later⟩ := List.forall_mem_cons.mp alone
      obtain ⟨middle, first, follows'⟩ := step_follows follows listed here
      obtain ⟨w', second, follows''⟩ := ih follows' later
      have joined : given (f.run (e :: rest)).1 =
          given (f.step e).1 ++ given ((f.step e).2.run rest).1 := List.map_append
      refine ⟨w', ?_, follows''⟩
      unfold Post.run
      rw [bind_ok first, joined]
      exact bind_ok second

-- A new UART at a controller that knows of it and whose line does not wait.
theorem start_follows {b : Board} (reached : b.gic.Reached)
    (heard : b.gic.handlerOf line = some (.device base))
    (rests : (b.gic.stateOf line).isPending = false) (sink : Sink) :
    Follows base line .empty ⟨.new line sink, b⟩ := by
  have low : (Uart.new line sink).maskedStatus = 0 := by
    change (RegisterSpace.ofSpecs layout).value ris &&& (RegisterSpace.ofSpecs layout).value imsc = 0
    decide +kernel
  refine ⟨new_steady line sink, rfl, Nat.le_refl _, rfl, ?_, reached, heard,
    fun up => absurd low up, fun _ => rests⟩
  change ((RegisterSpace.ofSpecs layout).value ris).toNat.testBit 4 = false
  decide +kernel

theorem reception_exact {b : Board} (listed : line < Gic.numLines) (reached : b.gic.Reached)
    (heard : b.gic.handlerOf line = some (.device base))
    (rests : (b.gic.stateOf line).isPending = false) (sink : Sink) {events : List Event}
    (alone : ∀ e ∈ events, e.leaves line = true) :
    ∃ w, Post.run base ⟨.new line sink, b⟩ events = .ok (given (Fifo.empty.run events).1, w) ∧
      (Fifo.empty.run events).1.reduceOption =
        (Fifo.empty.run events).2.accepted.take (Fifo.empty.run events).2.taken ∧
      w.uart.received =
        (Fifo.empty.run events).2.accepted.drop (Fifo.empty.run events).2.taken ∧
      ((w.uart.registers.value ris).toNat.testBit 4 = true ↔
        0 < (Fifo.empty.run events).2.waiting) ∧
      (w.uart.maskedStatus ≠ 0 → w.board.gic.stateOf line ≠ .inactive) ∧
      (w.uart.maskedStatus = 0 → (w.board.gic.stateOf line).isPending = false) := by
  obtain ⟨w, done, follows⟩ := run_follows (start_follows reached heard rests sink) listed alone
  have fetched := Fifo.run_fetched (f := .empty) (Nat.le_refl 0) events
  refine ⟨w, done, fetched, follows.queue, ?_,
    follows.driven.engaged, follows.driven.quiet⟩
  rw [follows.status, follows.waiting, Bool.not_eq_true', List.isEmpty_eq_false_iff,
    List.length_pos_iff]

-- Two bytes come in while the receive interrupt is unmasked. The guest fetches one of them before it
-- ends the interrupt, the other one after, and then finds nothing.
def typed : List Event :=
  [.write ⟨imsc, 0x9000038, .word⟩ rxInterrupt, .input [0x61, 0x62], .arbitrate,
    .read ⟨dr, 0x9000000, .byte⟩, .complete, .read ⟨dr, 0x9000000, .word⟩,
    .read ⟨dr, 0x9000000, .byte⟩]

theorem reception_exact_typed :
    ∃ b : Board, b.gic.Reached ∧ b.gic.handlerOf 33 = some (.device 0x9000000) ∧
      (b.gic.stateOf 33).isPending = false ∧ (∀ e ∈ typed, e.leaves 33 = true) ∧
      ∃ w, Post.run 0x9000000 ⟨.new 33 .accepting, b⟩ typed = .ok ([0x61, 0x62, 0], w) ∧
        w.uart.received = [] ∧ (w.uart.registers.value ris).toNat.testBit 4 = false := by
  have ran : (Gic.initial.run [.request (.setHandler 33 (.device 0x9000000)),
      .request (.enable 33), .request .enableDistributor]).toOption.any fun g =>
        g.handlerOf 33 = some (.device 0x9000000) ∧ (g.stateOf 33).isPending = false := by
    rw [Gic.initial_listed]
    decide +kernel
  obtain ⟨g, ran, now⟩ := Checked.ok_of_any ran
  obtain ⟨heard, rests⟩ := of_decide_eq_true now
  have alone : ∀ e ∈ typed, e.leaves 33 = true := by decide
  obtain ⟨w, done, _, queue, status, _⟩ := reception_exact
    (b := ⟨⟨⟨[]⟩, #[]⟩, g⟩) (by decide) ⟨_, ran⟩ heard rests .accepting alone
  refine ⟨_, ⟨_, ran⟩, heard, rests, alone, w, done, queue, ?_⟩
  exact Bool.eq_false_iff.mpr fun up => absurd (status.mp up) (by decide)

end Uart

end VmMonitor
