import VmMonitor.Machine.Run
import VmMonitor.Proofs.Cpu.Exit
import VmMonitor.Proofs.Device.Distributor
import VmMonitor.Proofs.Device.Uart
import VmMonitor.Proofs.Virtio.Transport

/-!
How notifications reach their listeners. No listener causes another notification, so that one round
is enough and the bound on the rounds never shows.
-/

namespace VmMonitor

open Signalling Wiring

theorem Signalling.reassert_notifications {δ : Type} [Signalling δ] (d : δ) (g : Gic) :
    (reassert d g).notifications = g.notifications := by
  unfold reassert
  split
  · split
    · exact Gic.apply_notifications rfl
    · rfl
  · rfl

theorem Wiring.hear_notifications {δ : Type} [Signalling δ] (w : Wiring δ) (n : Gic.Notification)
    (rest : List Gic.Notification) : (w.hear n rest).gic.notifications = w.gic.notifications := by
  unfold hear
  split
  · rfl
  · split
    · rfl
    · dsimp only
      split
      · exact reassert_notifications ..
      · rfl

namespace Machine

variable {ν τ η : Type} {m : Machine ν τ η} {lost : UInt64 → Nat → Prop}
  {rest : List Gic.Notification}

def wiring (m : Machine ν τ η) (owed : List Gic.Notification) : Wiring MachineDevice :=
  m.platform.wiring owed

variable [VcpuSession ν]

theorem deliver_wiring (m : Machine ν τ η) (n : Gic.Notification)
    (owed rest : List Gic.Notification) :
    (m.deliver n).wiring rest = (m.wiring owed).hear n rest := by
  obtain ⟨line, handler, kind⟩ := n
  cases handler with
  | timer => cases kind <;> rfl
  | device base =>
      cases found : m.platform.bus.at? base with
      | none =>
          cases kind <;>
            simp only [deliver, Bus.endOfInterrupt, Bus.levelChanged, hear, wiring,
              Platform.wiring, found, Bool.false_eq_true, if_false] <;> rfl
      | some s =>
          cases kind with
          | completed =>
              simp only [deliver, Bus.endOfInterrupt, hear, wiring, Platform.wiring, found,
                if_true, LawfulSignalling.endOfInterrupt_device,
                LawfulSignalling.endOfInterrupt_gic]
              rfl
          | levelChanged level =>
              simp only [deliver, Bus.levelChanged, hear, wiring, Platform.wiring, found,
                if_true, LawfulSignalling.levelChanged_device, LawfulSignalling.levelChanged_gic]
              rfl

theorem deliver_notifications (m : Machine ν τ η) (n : Gic.Notification) :
    (m.deliver n).board.gic.notifications = m.board.gic.notifications := by
  change ((m.deliver n).wiring []).gic.notifications = _
  rw [deliver_wiring m n [] [], hear_notifications]
  rfl

theorem deliver_steps (m : Machine ν τ η) (n : Gic.Notification) :
    Step lost (m.wiring (n :: rest)) ((m.deliver n).wiring rest) := by
  rw [deliver_wiring m n (n :: rest) rest]
  exact .heard rfl

theorem hearing_steps (m : Machine ν τ η) (owed : List Gic.Notification) :
    Steps lost (m.wiring owed) ((owed.foldl deliver m).wiring []) := by
  induction owed generalizing m with
  | nil => exact .refl
  | cons n rest ih => exact .head (deliver_steps m n) (ih (m.deliver n))

theorem hearing_notifications (m : Machine ν τ η) (owed : List Gic.Notification) :
    (owed.foldl deliver m).board.gic.notifications = m.board.gic.notifications := by
  induction owed generalizing m with
  | nil => rfl
  | cons n rest ih => rw [List.foldl_cons, ih, deliver_notifications]

-- Takes the notifications from the controller and tells all of them.
def hearAll (m : Machine ν τ η) : Machine ν τ η :=
  m.board.gic.notifications.foldl deliver
    (m.setBoard { m.board with gic := m.board.gic.takeNotifications.2 })

theorem hearAll_notifications (m : Machine ν τ η) :
    m.hearAll.board.gic.notifications = [] := hearing_notifications ..

theorem hearAll_steps (m : Machine ν τ η) :
    Steps lost (m.wiring []) (m.hearAll.wiring []) := by
  have first : Step lost (m.wiring [])
      ((m.setBoard { m.board with gic := m.board.gic.takeNotifications.2 }).wiring
        m.board.gic.notifications) := .taken rfl
  exact .head first (hearing_steps ..)

theorem deliverAll_done (rounds : Nat) (none : m.board.gic.notifications = []) :
    deliverAll (rounds + 1) m = m := by
  simp only [deliverAll, Gic.takeNotifications, none, List.isEmpty_nil, if_true]

theorem deliverAll_next (rounds : Nat) (some : m.board.gic.notifications ≠ []) :
    deliverAll (rounds + 1) m = deliverAll rounds m.hearAll := by
  rw [deliverAll]
  split
  rename_i notifications gic taken
  cases taken
  exact if_neg (by simpa using some)

-- From two rounds on their number makes no difference.
theorem deliverAll_unbounded (rounds : Nat) (m : Machine ν τ η) :
    deliverAll (rounds + 2) m = if m.board.gic.notifications = [] then m else m.hearAll := by
  split
  · exact deliverAll_done _ ‹_›
  · rw [deliverAll_next _ ‹_›, deliverAll_done _ (hearAll_notifications m)]

theorem deliverAll_notifications (m : Machine ν τ η) :
    (deliverAll deliveryRounds m).board.gic.notifications = [] := by
  rw [deliveryRounds, deliverAll_unbounded 14]
  split
  · exact ‹_›
  · exact hearAll_notifications m

theorem deliverAll_steps (m : Machine ν τ η) :
    Steps lost (m.wiring []) ((deliverAll deliveryRounds m).wiring []) := by
  rw [deliveryRounds, deliverAll_unbounded 14]
  split
  · exact .refl
  · exact hearAll_steps m

-- Whatever no listener changes is unchanged after all have heard.
theorem deliverAll_keeps {P : Machine ν τ η → Prop} (board : ∀ m b, P m → P (m.setBoard b))
    (heard : ∀ m n, P m → P (m.deliver n)) (start : P m) : P (deliverAll deliveryRounds m) := by
  rw [deliveryRounds, deliverAll_unbounded 14]
  split
  · exact start
  · have started := board m { m.board with gic := m.board.gic.takeNotifications.2 } start
    unfold hearAll
    generalize m.setBoard { m.board with gic := m.board.gic.takeNotifications.2 } = n at started ⊢
    induction m.board.gic.notifications generalizing n with
    | nil => exact started
    | cons next rest ih => exact ih _ (heard n next started)

end Machine

end VmMonitor
