import Mathlib.Logic.Relation
import VmMonitor.Bus.Basic
import VmMonitor.Proofs.Device.Signal

/-!
The devices, the controller and the notifications between them, apart from everything else in the
machine. Whatever the machine does is a sequence of steps of this wiring.
-/

namespace VmMonitor

open Signalling

structure Wiring (δ : Type) where
  bus : Bus δ
  gic : Gic
  -- Notifications that were taken from the controller and that their listeners still have to hear.
  owed : List Gic.Notification

namespace Wiring

variable {δ : Type} [Signalling δ] {w : Wiring δ}

-- The listener of one notification hears it.
def hear (w : Wiring δ) (n : Gic.Notification) (rest : List Gic.Notification) : Wiring δ :=
  match n.handler with
  | .timer => { w with owed := rest }
  | .device base =>
      match w.bus.at? base with
      | none => { w with owed := rest }
      | some s =>
          { bus := w.bus.setDevice base s.device
            gic := match n.kind with
              | .completed => reassert s.device w.gic
              | .levelChanged _ => w.gic
            owed := rest }

-- One change. A device may put to rest the lines that `lost` gives for its base, and no others.
inductive Step (lost : UInt64 → Nat → Prop) (w : Wiring δ) : Wiring δ → Prop
  | device {slot : Slot δ} {d' : δ} {g' : Gic} (here : slot ∈ w.bus.slots)
      (moves : sound slot.device → Moves (lost slot.window.base) slot.device w.gic d' g') :
      Step lost w { w with bus := w.bus.setDevice slot.window.base d', gic := g' }
  | timer : Step lost w { w with gic := w.gic.apply (.assert Gic.timerLine) }
  | completed : Step lost w { w with gic := w.gic.completePresented }
  | arbitrated {answer : Option Nat} {g' : Gic} (done : w.gic.arbitrate = .ok (answer, g')) :
      Step lost w { w with gic := g' }
  | taken (none : w.owed = []) :
      Step lost w { w with gic := w.gic.takeNotifications.2, owed := w.gic.notifications }
  | heard {n : Gic.Notification} {rest : List Gic.Notification} (next : w.owed = n :: rest) :
      Step lost w (w.hear n rest)

abbrev Steps (lost : UInt64 → Nat → Prop) : Wiring δ → Wiring δ → Prop :=
  Relation.ReflTransGen (Step lost)

theorem Step.mono {lost more : UInt64 → Nat → Prop} {w' : Wiring δ}
    (wider : ∀ base q, lost base q → more base q) (step : Step lost w w') : Step more w w' := by
  cases step with
  | device here moves => exact .device here fun valid => (moves valid).mono (wider _)
  | timer => exact .timer
  | completed => exact .completed
  | arbitrated done => exact .arbitrated done
  | taken none => exact .taken none
  | heard next => exact .heard next

theorem Steps.mono {lost more : UInt64 → Nat → Prop} {w' : Wiring δ}
    (wider : ∀ base q, lost base q → more base q) (steps : Steps lost w w') : Steps more w w' :=
  Relation.ReflTransGen.mono (fun _ _ step => step.mono wider) _ _ steps

-- What every step preserves holds at the end of every sequence of steps.
theorem Steps.keep {lost : UInt64 → Nat → Prop} {Inv : Wiring δ → Prop} {w' : Wiring δ}
    (kept : ∀ w w', Inv w → Step lost w w' → Inv w') (steps : Steps lost w w') (start : Inv w) :
    Inv w' := by
  induction steps with
  | refl => exact start
  | tail _ step ih => exact kept _ _ ih step

end Wiring

namespace Bus

variable {δ : Type} {bus : Bus δ} {address : UInt64} {width : Width}

-- A slot is as it was, or it is at that base and holds the new device.
theorem mem_setDevice {base : UInt64} {d : δ} {t : Slot δ}
    (present : t ∈ (bus.setDevice base d).slots) :
    (t ∈ bus.slots ∧ t.window.base ≠ base) ∨ (t.window.base = base ∧ t.device = d) := by
  obtain ⟨s, here, rfl⟩ := List.mem_map.mp present
  split
  · exact .inr ⟨‹_›, rfl⟩
  · exact .inl ⟨here, ‹_›⟩

theorem at_mem {base : UInt64} {s : Slot δ} (found : bus.at? base = some s) :
    s ∈ bus.slots ∧ s.window.base = base :=
  ⟨List.mem_of_find?_eq_some found, by simpa using List.find?_some found⟩

theorem slotFor_mem {s : Slot δ} (found : bus.slotFor? address = some s) : s ∈ bus.slots := by
  have last := (Option.filter_eq_some_iff.mp found).1
  exact (List.mem_filter.mp (List.mem_of_getLast? last)).1

theorem mem_place {window : Window} {d : δ} {t : Slot δ} {l : List (Slot δ)}
    (present : t ∈ place window d l) :
    (t.device = d ∧ t.window.base = window.base) ∨ t ∈ l := by
  induction l with
  | nil =>
      cases List.mem_singleton.mp present
      exact .inl ⟨rfl, rfl⟩
  | cons s rest ih =>
      unfold place at present
      split at present
      · rcases List.mem_cons.mp present with rfl | old
        · exact .inl ⟨rfl, rfl⟩
        · exact .inr old
      split at present
      · rename_i same
        rcases List.mem_cons.mp present with rfl | old
        · exact .inl ⟨rfl, same.symm⟩
        · exact .inr (List.mem_cons_of_mem _ old)
      · rcases List.mem_cons.mp present with rfl | later
        · exact .inr List.mem_cons_self
        · exact (ih later).imp id (List.mem_cons_of_mem _)

-- An access that is routed lands at its address.
theorem route_lands {direction : Direction} {s : Slot δ} {a : Access}
    (done : bus.route address width direction = .ok (.ok (s, a))) :
    s ∈ bus.slots ∧ address.toNat = s.window.base.toNat + a.offset.toNat := by
  unfold route at done
  split at done
  · cases done
  split at done
  · cases done
  · rename_i found
    obtain ⟨offset, placed, done⟩ := Checked.bind_eq_ok.mp done
    obtain ⟨reach, _, done⟩ := Checked.bind_eq_ok.mp done
    split at done
    · cases done
    · cases done
      obtain ⟨above, rfl⟩ := Checked.sub_eq_ok.mp placed
      refine ⟨slotFor_mem found, ?_⟩
      have order := UInt64.le_iff_toNat_le.mp above
      rw [UInt64.toNat_sub_of_le _ _ above]
      omega

variable [BusDevice δ] [Signalling δ] [LawfulSignalling δ] {b : Board}
  {lost : UInt64 → Nat → Prop} {owed : List Gic.Notification}

open Wiring

theorem read_steps {r : Answered (Bus δ) UInt64} (done : bus.read b address width = .ok r) :
    Steps lost ⟨bus, b.gic, owed⟩ ⟨r.device, r.board.gic, owed⟩ := by
  unfold read at done
  obtain ⟨routed, found, done⟩ := Checked.bind_eq_ok.mp done
  cases routed with
  | error e =>
      cases done
      exact .refl
  | ok target =>
      obtain ⟨s, a⟩ := target
      obtain ⟨answered, reached, done⟩ := Checked.bind_eq_ok.mp done
      cases done
      refine .single (.device (route_lands found).1 fun valid => ?_)
      exact (LawfulSignalling.read_moves valid reached).mono fun _ => False.elim

theorem write_steps {value : UInt64} {r : Answered (Bus δ) Unit}
    (done : bus.write b address width value = .ok r)
    (spared : ∀ base : UInt64, ∀ offset q, address.toNat = base.toNat + offset →
      Distributor.Withdraws offset (value &&& width.mask) q → lost base q) :
    Steps lost ⟨bus, b.gic, owed⟩ ⟨r.device, r.board.gic, owed⟩ := by
  unfold write at done
  obtain ⟨routed, found, done⟩ := Checked.bind_eq_ok.mp done
  cases routed with
  | error e =>
      cases done
      exact .refl
  | ok target =>
      obtain ⟨s, a⟩ := target
      obtain ⟨answered, reached, done⟩ := Checked.bind_eq_ok.mp done
      cases done
      obtain ⟨here, lands⟩ := route_lands found
      refine .single (.device here fun valid => ?_)
      exact (LawfulSignalling.write_moves valid reached).mono fun q => spared _ _ q lands

theorem input_steps {base : UInt64} {data : List UInt8} {r : Answered (Bus δ) Unit}
    (done : bus.input b base data = .ok r) :
    Steps lost ⟨bus, b.gic, owed⟩ ⟨r.device, r.board.gic, owed⟩ := by
  unfold input at done
  split at done
  · cases done
    exact .refl
  · rename_i s found
    obtain ⟨answered, reached, done⟩ := Checked.bind_eq_ok.mp done
    cases done
    obtain ⟨here, rfl⟩ := at_mem found
    refine .single (.device here fun valid => ?_)
    exact (LawfulSignalling.input_moves valid reached).mono fun _ => False.elim

end Bus

end VmMonitor
