import VmMonitor.Proofs.Machine.Built
import VmMonitor.Proofs.Machine.History

/-!
No device interrupt is lost. While the condition of a device is raised, its line is engaged or the
device is still to hear of a completion, on which it raises the line again.
-/

namespace VmMonitor

open Signalling Wiring

namespace Signalling

variable {δ : Type} [Signalling δ] {d : δ} {g g' : Gic} {q : Nat}

section LineStep

variable {line : Option Nat} {lost : Nat → Prop} {before after : Bool}

-- A device changes no listener and owes nobody a notification.
theorem LineStep.frame (step : LineStep line lost before after g g') (q : Nat) :
    g'.handlerOf q = g.handlerOf q ∧ g'.notifications = g.notifications := by
  cases step with
  | still kept => exact ⟨rfl, rfl⟩
  | asserted own => exact ⟨Gic.apply_handlerOf rfl q, Gic.apply_notifications rfl⟩
  | lowered own down => exact ⟨Gic.apply_handlerOf rfl q, Gic.apply_notifications rfl⟩
  | @requested rs none silent spared =>
      clear spared
      induction rs generalizing g with
      | nil => exact ⟨rfl, rfl⟩
      | cons r rest ih =>
          have quiet := silent r List.mem_cons_self
          have later := ih (g := g.apply r) fun s asked => silent s (List.mem_cons_of_mem _ asked)
          exact ⟨later.1.trans (Gic.apply_handlerOf quiet q),
            later.2.trans (Gic.apply_notifications quiet)⟩

-- The only device that puts line `q` to rest is its own, with its condition gone.
theorem LineStep.engaged (step : LineStep line lost before after g g')
    (spared : line = none → ¬ lost q) (up : g.Engaged q) :
    g'.Engaged q ∨ (line = some q ∧ after = false) := by
  cases step with
  | still kept => exact .inl up
  | asserted own => exact .inl (Gic.apply_engaged rfl rfl up)
  | @lowered k own down =>
      by_cases same : k = q
      · exact .inr ⟨same ▸ own, down⟩
      · exact .inl (Gic.apply_engaged rfl (by simpa [Gic.Request.drops] using same) up)
  | @requested rs none silent drops =>
      refine .inl ?_
      induction rs generalizing g with
      | nil => exact up
      | cons r rest ih =>
          have stays : r.drops q = false := Bool.eq_false_iff.mpr fun dropped =>
            spared none (drops r List.mem_cons_self q dropped)
          exact ih (Gic.apply_engaged (silent r List.mem_cons_self) stays up)
            (fun s asked => silent s (List.mem_cons_of_mem _ asked))
            fun s asked => drops s (List.mem_cons_of_mem _ asked)

-- A condition that is raised was raised before, or has just engaged the line.
theorem LineStep.rises {h : Gic.Handler} (step : LineStep line lost before after g g')
    (own : line = some q) (heard : g.handlerOf q = some h) (up : after = true) :
    (before = true ∧ g' = g) ∨ g'.Engaged q := by
  obtain ⟨l, found, _⟩ := Gic.heard_exists heard
  cases step with
  | still kept => exact .inl ⟨kept up, rfl⟩
  | asserted named =>
      rw [own] at named
      cases named
      exact .inr (Gic.assert_engaged found)
  | lowered named down =>
      rw [up] at down
      cases down
  | requested none _ _ =>
      rw [own] at none
      cases none

end LineStep

theorem reassert_handlerOf (d : δ) (g : Gic) (q : Nat) :
    (reassert d g).handlerOf q = g.handlerOf q := by
  unfold reassert
  split
  · split
    · exact Gic.apply_handlerOf rfl q
    · rfl
  · rfl

theorem reassert_keeps (d : δ) (up : g.Engaged q) : (reassert d g).Engaged q := by
  unfold reassert
  split
  · split
    · exact Gic.apply_engaged rfl rfl up
    · exact up
  · exact up

theorem reassert_engaged {h : Gic.Handler} (own : line? d = some q) (up : raised d = true)
    (heard : g.handlerOf q = some h) : (reassert d g).Engaged q := by
  obtain ⟨l, found, _⟩ := Gic.heard_exists heard
  unfold reassert
  simp only [own, up, if_true]
  exact Gic.assert_engaged found

end Signalling

namespace Wiring

variable {δ : Type} [Signalling δ] {w w' : Wiring δ} {lost : UInt64 → Nat → Prop}
  {home base : UInt64} {q : Nat}

-- Among these notifications is one that tells the device at `base` of a completion.
def Owing (ns : List Gic.Notification) (base : UInt64) : Prop :=
  ∃ n ∈ ns, n.handler = .device base ∧ n.kind = .completed

-- Where a notification was heard by somebody else, the others are still owed.
theorem Owing.later {n : Gic.Notification} {ns : List Gic.Notification}
    (owing : Owing (n :: ns) base) (other : n.handler ≠ .device base ∨ n.kind ≠ .completed) :
    Owing ns base := by
  obtain ⟨k, owed, handler, kind⟩ := owing
  refine ⟨k, ?_, handler, kind⟩
  rcases List.mem_cons.mp owed with rfl | later
  · rcases other with handler' | kind'
    · exact absurd handler handler'
    · exact absurd kind kind'
  · exact later

-- All notifications that were not heard yet.
def unheard (w : Wiring δ) : List Gic.Notification := w.owed ++ w.gic.notifications

-- What keeps the interrupt of line `q` from being lost, with the distributor at `home`.
structure Guarded (home : UInt64) (q : Nat) (w : Wiring δ) : Prop where
  sound : ∀ slot ∈ w.bus.slots, sound slot.device
  lineless : ∀ slot ∈ w.bus.slots, line? slot.device = none → slot.window.base = home
  heard : ∀ slot ∈ w.bus.slots, line? slot.device = some q →
    w.gic.handlerOf q = some (.device slot.window.base)
  kept : ∀ slot ∈ w.bus.slots, line? slot.device = some q → raised slot.device = true →
    w.gic.Engaged q ∨ Owing w.unheard slot.window.base

-- What a change of the controller alone has to keep.
theorem Guarded.rewire {g : Gic} {owed : List Gic.Notification} (guarded : Guarded home q w)
    (handlers : g.handlerOf q = w.gic.handlerOf q)
    (kept : ∀ slot ∈ w.bus.slots, line? slot.device = some q →
      w.gic.Engaged q ∨ Owing w.unheard slot.window.base →
      g.Engaged q ∨ Owing (owed ++ g.notifications) slot.window.base) :
    Guarded home q ⟨w.bus, g, owed⟩ := by
  refine ⟨guarded.sound, guarded.lineless, ?_, ?_⟩
  · intro slot here own
    exact handlers.trans (guarded.heard slot here own)
  · intro slot here own up
    exact kept slot here own (guarded.kept slot here own up)

-- What a change of the controller and of the device at one base has to keep.
theorem Guarded.replace {slot : Slot δ} {d : δ} {g : Gic} {owed : List Gic.Notification}
    (guarded : Guarded home q w) (here : slot ∈ w.bus.slots) (line : line? d = line? slot.device)
    (valid : Signalling.sound d) (handlers : g.handlerOf q = w.gic.handlerOf q)
    (mine : line? slot.device = some q → raised d = true →
      g.Engaged q ∨ Owing (owed ++ g.notifications) slot.window.base)
    (others : ∀ s ∈ w.bus.slots, s.window.base ≠ slot.window.base → line? s.device = some q →
      w.gic.Engaged q ∨ Owing w.unheard s.window.base →
      g.Engaged q ∨ Owing (owed ++ g.notifications) s.window.base) :
    Guarded home q ⟨w.bus.setDevice slot.window.base d, g, owed⟩ := by
  refine ⟨?_, ?_, ?_, ?_⟩ <;> intro t present <;>
    rcases Bus.mem_setDevice present with ⟨old, other⟩ | ⟨same, device⟩
  · exact guarded.sound t old
  · rw [device]
    exact valid
  · exact guarded.lineless t old
  · intro none
    rw [device, line] at none
    rw [same]
    exact guarded.lineless slot here none
  · intro own
    exact handlers.trans (guarded.heard t old own)
  · intro own
    rw [device, line] at own
    rw [handlers, same]
    exact guarded.heard slot here own
  · intro own up
    exact others t old other own (guarded.kept t old own up)
  · intro own up
    rw [device, line] at own
    rw [device] at up
    rw [same]
    exact mine own up

-- A line has one listener, so that no two devices at different bases have it.
theorem Guarded.alone (guarded : Guarded home q w) {s t : Slot δ} (here : s ∈ w.bus.slots)
    (there : t ∈ w.bus.slots) (own : line? s.device = some q) (shares : line? t.device = some q) :
    s.window.base = t.window.base := by
  have one := (guarded.heard s here own).symm.trans (guarded.heard t there shares)
  exact Gic.Handler.device.inj (Option.some.inj one)

theorem device_guarded {slot : Slot δ} {d : δ} {g : Gic} (guarded : Guarded home q w)
    (spared : ¬ lost home q) (here : slot ∈ w.bus.slots)
    (moved : Moves (lost slot.window.base) slot.device w.gic d g) :
    Guarded home q { w with bus := w.bus.setDevice slot.window.base d, gic := g } := by
  obtain ⟨handlers, notifications⟩ := moved.step.frame q
  refine guarded.replace here moved.line moved.sound handlers ?_ ?_ <;> rw [notifications]
  · intro own up
    rcases moved.step.rises own (guarded.heard slot here own) up with ⟨before, still⟩ | busy
    · rw [still]
      exact guarded.kept slot here own before
    · exact .inl busy
  · rintro s old other own (busy | owing)
    · have allowed : line? slot.device = none → ¬ lost slot.window.base q := by
        intro none
        rw [guarded.lineless slot here none]
        exact spared
      rcases moved.step.engaged allowed busy with busy | ⟨shares, _⟩
      · exact .inl busy
      · exact absurd (guarded.alone old here own shares) other
    · exact .inr owing

theorem completed_guarded (guarded : Guarded home q w) :
    Guarded home q { w with gic := w.gic.completePresented } := by
  refine guarded.rewire (Gic.complete_handlerOf ..) ?_
  rintro slot here own (busy | ⟨n, owed, hears⟩)
  · rcases Gic.complete_engaged busy (guarded.heard slot here own) with busy | told
    · exact .inl busy
    · exact .inr ⟨_, List.mem_append_right _ told, rfl, rfl⟩
  · refine .inr ⟨n, ?_, hears⟩
    rcases List.mem_append.mp owed with taken | queued
    · exact List.mem_append_left _ taken
    · exact List.mem_append_right _ (Gic.complete_notifications _ queued)

theorem heard_guarded {n : Gic.Notification} {rest : List Gic.Notification}
    (guarded : Guarded home q w) (next : w.owed = n :: rest) :
    Guarded home q (w.hear n rest) := by
  -- What is heard here is no loss to anybody else.
  have later : ∀ base, n.handler ≠ .device base ∨ n.kind ≠ .completed →
      w.gic.Engaged q ∨ Owing w.unheard base →
      w.gic.Engaged q ∨ Owing (rest ++ w.gic.notifications) base := by
    rintro base other (busy | owing)
    · exact .inl busy
    · rw [unheard, next, List.cons_append] at owing
      exact .inr (owing.later other)
  unfold hear
  split
  · rename_i timer
    refine guarded.rewire rfl fun slot _ _ => later slot.window.base (.inl ?_)
    rw [timer]
    exact nofun
  rename_i base device
  split
  · rename_i nobody
    refine guarded.rewire rfl fun slot here _ => later slot.window.base (.inl fun same => ?_)
    rw [device] at same
    cases same
    exact absurd (List.find?_eq_none.mp nobody slot here) (by simp)
  rename_i s found
  obtain ⟨here, rfl⟩ := Bus.at_mem found
  cases kind : n.kind with
  | levelChanged level =>
      have level : n.kind ≠ .completed := by
        rw [kind]
        exact nofun
      refine guarded.replace here rfl (guarded.sound s here) rfl ?_ ?_
      · intro own up
        exact later s.window.base (.inr level) (guarded.kept s here own up)
      · intro t _ _ _
        exact later t.window.base (.inr level)
  | completed =>
      refine guarded.replace here rfl (guarded.sound s here) (reassert_handlerOf ..) ?_ ?_
      · intro own up
        exact .inl (reassert_engaged own up (guarded.heard s here own))
      · intro t _ other _ before
        rw [reassert_notifications]
        have elsewhere : n.handler ≠ .device t.window.base := by
          rw [device]
          intro same
          exact other (Gic.Handler.device.inj same).symm
        rcases later t.window.base (.inl elsewhere) before with busy | owing
        · exact .inl (reassert_keeps _ busy)
        · exact .inr owing

-- Every step keeps the guard, as long as the guest does not put the line to rest by itself.
theorem step_guarded (spared : ¬ lost home q) (guarded : Guarded home q w)
    (step : Step lost w w') : Guarded home q w' := by
  cases step with
  | device here moves => exact device_guarded guarded spared here (moves (guarded.sound _ here))
  | timer =>
      refine guarded.rewire (Gic.apply_handlerOf rfl q) ?_
      rintro slot here own (busy | owing)
      · exact .inl (Gic.apply_engaged rfl rfl busy)
      · rw [Gic.apply_notifications rfl]
        exact .inr owing
  | completed => exact completed_guarded guarded
  | arbitrated done =>
      refine guarded.rewire (Gic.arbitrate_handlerOf done q) ?_
      rintro slot here own (busy | owing)
      · exact .inl (Gic.arbitrate_engaged done busy)
      · rw [Gic.arbitrate_notifications done]
        exact .inr owing
  | taken none =>
      refine guarded.rewire rfl ?_
      rintro slot here own (busy | owing)
      · exact .inl busy
      · rw [unheard, none, List.nil_append] at owing
        refine .inr ?_
        rw [show w.gic.takeNotifications.2.notifications = [] from rfl, List.append_nil]
        exact owing
  | heard next => exact heard_guarded guarded next

end Wiring

namespace Machine

variable {ν τ η : Type} [VcpuSession ν]

theorem fitted_guarded {home : UInt64} {lines : List Nat} {bus : Bus MachineDevice} {gic : Gic}
    {owed : List Gic.Notification} (fitted : Fitted home lines bus gic) (q : Nat) :
    Guarded home q ⟨bus, gic, owed⟩ := by
  refine ⟨fitted.sound, fitted.lineless, ?_, ?_⟩
  · intro slot here own
    exact (fitted.heard slot here q own).2
  · intro slot here _ up
    rw [fitted.down slot here] at up
    cases up

variable [HostTimer τ] [HypercallHandler η] {m m' : Machine ν τ η} {q : Nat}

-- Whatever the machine went through since it was built, short of the guest itself putting line `q`
-- to rest, an event that it handled leaves the line engaged while the condition of its device is
-- raised.
theorem run_engaged [Host] {c : MachineConfig} {vcpu : ν} {hostTimer : Except HostError τ}
    {backends : Backends η} {start : Machine ν τ η} {e : MachineEvent} {slot : Slot MachineDevice}
    (built : Machine.new c vcpu hostTimer backends = .ok start)
    (run : Run (fun s => ¬ s.Withdraws c.distributorBase q) start m)
    (spared : e = .exited → ¬ m.snapshot.Withdraws c.distributorBase q)
    (handled : m.handleEvent e = .ok ⟨.ok (), m'⟩) (up : m'.exit = none)
    (here : slot ∈ m'.platform.bus.slots) (own : line? slot.device = some q)
    (condition : raised slot.device = true) :
    ∃ l, m'.board.gic.line? q = some l ∧ l.state ≠ .inactive := by
  let lost : UInt64 → Nat → Prop := fun base k => ¬ (base = c.distributorBase ∧ k = q)
  have inside : ∀ s : VcpuState, ¬ s.Withdraws c.distributorBase q →
      ∀ base k, s.Withdraws base k → lost base k := by
    rintro s kept base k withdraws ⟨rfl, rfl⟩
    exact kept withdraws
  have whole : Follows lost start m' := (run_follows inside run).trans
    (handleEvent_follows handled fun exited => inside _ (spared exited))
  obtain ⟨lines, fitted⟩ := new_fitted built
  have guarded : Guarded c.distributorBase q (m'.wiring []) :=
    (whole.steps up).keep (fun _ _ => step_guarded fun apart => apart ⟨rfl, rfl⟩)
      (fitted_guarded fitted q)
  obtain ⟨n, _, _, closed⟩ := handleEvent_ended handled up
  rcases guarded.kept slot here own condition with busy | ⟨k, owed, _⟩
  · exact busy
  · -- All notifications were heard before the guest went on.
    rw [show (m'.wiring []).unheard = [] from settle_told closed up] at owed
    cases owed

-- A guest that has just trapped on a store that unmasks what the UART received.
def unmaskingGuest : VcpuState :=
  { (VcpuState.initial.setReg 0 0x10) with
    vector := 0x400, esr := 0x91800040, far := 0x38, hpfar := 0x90000 }

theorem run_engaged_unmasked :
    ∃ (start m m' : Machine StillVcpu WallTimer NoHypercalls) (slot : Slot MachineDevice),
      Machine.new .standard (StillVcpu.new unmaskingGuest) (.ok .new)
        ⟨.accepting, none, none, .mk⟩ = .ok start ∧
      start.handleEvent (.terminalInput 0x09000000 [0x41]) = .ok ⟨.ok (), m⟩ ∧
      m.handleEvent .exited = .ok ⟨.ok (), m'⟩ ∧ m'.exit = none ∧
      slot ∈ m'.platform.bus.slots ∧ line? slot.device = some 33 ∧ raised slot.device = true ∧
      ∃ l, m'.board.gic.line? 33 = some l ∧ l.state ≠ .inactive := by
  have ran : ((Machine.new .standard (StillVcpu.new unmaskingGuest) (.ok WallTimer.new)
        ⟨.accepting, none, none, NoHypercalls.mk⟩).toOption.any fun start =>
      (start.handleEvent (.terminalInput 0x09000000 [0x41])).toOption.any fun r =>
        r.answer.isOk && (r.machine.snapshot.store? = some (0x09000038, 0x10) &&
          (r.machine.handleEvent .exited).toOption.any fun r => r.answer.isOk &&
            (r.machine.exit.isNone && r.machine.platform.bus.slots.any fun slot =>
              line? slot.device = some 33 && raised slot.device))) = true := by
    unfold Machine.new
    rw [Gic.initial_listed]
    decide +kernel
  obtain ⟨start, built, ran⟩ := Checked.ok_of_any ran
  obtain ⟨m, first, ran⟩ := done_of_any ran
  obtain ⟨stored, ran⟩ := Bool.and_eq_true_iff.mp ran
  obtain ⟨m', second, ran⟩ := done_of_any ran
  obtain ⟨up, found⟩ := Bool.and_eq_true_iff.mp ran
  have open_ : m'.exit = none := Option.isNone_iff_eq_none.mp up
  obtain ⟨slot, here, device⟩ := List.any_eq_true.mp found
  obtain ⟨line, condition⟩ := Bool.and_eq_true_iff.mp device
  have own : line? slot.device = some 33 := of_decide_eq_true line
  have spared : ¬ m.snapshot.Withdraws 0x08000000 33 := by
    rintro ⟨address, value, offset, store, lands, bank, k, which, inside, place, _⟩
    rw [of_decide_eq_true stored] at store
    cases store
    change 0x9000038 = 0x8000000 + offset at lands
    omega
  have run : Run (fun s => ¬ s.Withdraws 0x08000000 33) start m := .event _ .done nofun first
  exact ⟨start, m, m', slot, built, first, second, open_, here, own, condition,
    run_engaged built run (fun _ => spared) second open_ here own condition⟩

end Machine

end VmMonitor
