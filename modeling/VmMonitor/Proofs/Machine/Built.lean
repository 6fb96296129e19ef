import VmMonitor.Machine.Basic
import VmMonitor.Proofs.Device.Distributor
import VmMonitor.Proofs.Device.Uart
import VmMonitor.Proofs.Gic.Engaged
import VmMonitor.Proofs.Gic.Reached
import VmMonitor.Proofs.Machine.Wiring
import VmMonitor.Proofs.Virtio.Transport

/-!
What a machine looks like when it has just been put together: every device is quiet, has a line of
its own, and is the one that hears about it.
-/

namespace VmMonitor

open Signalling

namespace MachineConfig

theorem checkInterrupts_ok {l : List (String × UInt32)} (done : checkInterrupts l = .ok ()) :
    (∀ i ∈ l, i.2.toNat < Gic.numLines) ∧ (l.map (·.2.toNat)).Nodup := by
  induction l with
  | nil => exact ⟨nofun, List.nodup_nil⟩
  | cons i rest ih =>
      obtain ⟨owner, irq⟩ := i
      unfold checkInterrupts at done
      split at done
      · cases done
      rename_i shared
      split at done
      · cases done
      rename_i alone
      obtain ⟨below, apart⟩ := ih done
      refine ⟨?_, ?_⟩
      · intro j member
        rcases List.mem_cons.mp member with rfl | later
        · exact Nat.lt_of_not_le fun past => shared (.inr past)
        · exact below j later
      · refine List.nodup_cons.mpr ⟨fun again => ?_, apart⟩
        obtain ⟨j, later, same⟩ := List.mem_map.mp again
        have differs := List.find?_eq_none.mp alone j later
        exact differs (by simpa using UInt32.toNat_inj.mp same)

-- The lines of the devices, in the order in which the devices are put in place.
def lines (c : MachineConfig) : List Nat :=
  c.uart.irq.toNat :: (c.console.toList.map (·.irq.toNat) ++ c.net.toList.map (·.irq.toNat))

theorem validate_lines {c : MachineConfig} (done : c.validate = .ok ()) :
    (∀ n ∈ c.lines, n < Gic.numLines) ∧ c.lines.Nodup := by
  unfold validate at done
  dsimp only at done
  split at done
  · cases done
  split at done
  · cases done
  obtain ⟨_, _, done⟩ := Checked.bind_eq_ok.mp done
  obtain ⟨_, _, done⟩ := Checked.bind_eq_ok.mp done
  obtain ⟨_, _, done⟩ := Checked.bind_eq_ok.mp done
  obtain ⟨below, apart⟩ := checkInterrupts_ok done
  have same : c.interrupts.map (·.2.toNat) = c.lines := by
    simp [interrupts, lines, Function.comp_def]
  rw [same] at apart
  refine ⟨fun n member => ?_, apart⟩
  rw [← same] at member
  obtain ⟨i, listed, rfl⟩ := List.mem_map.mp member
  exact below i listed

theorem console_line {c : MachineConfig} (done : c.validate = .ok ()) {d : ConsoleConfig}
    (configured : c.console = some d) :
    d.irq.toNat < Gic.numLines ∧ d.irq.toNat ∉ [c.uart.irq.toNat] := by
  obtain ⟨below, apart⟩ := validate_lines done
  simp only [lines, configured, Option.toList_some, List.map_cons] at below apart
  refine ⟨below _ (by simp), fun again => ?_⟩
  exact (List.nodup_cons.mp apart).1 (by simp [List.mem_singleton.mp again])

theorem net_line {c : MachineConfig} (done : c.validate = .ok ()) {d : NetConfig}
    (configured : c.net = some d) :
    d.irq.toNat < Gic.numLines ∧
      d.irq.toNat ∉ c.console.toList.map (·.irq.toNat) ++ [c.uart.irq.toNat] := by
  obtain ⟨below, apart⟩ := validate_lines done
  simp only [lines, configured, Option.toList_some, List.map_cons] at below apart
  refine ⟨below _ (by simp), fun again => ?_⟩
  obtain ⟨uart, others⟩ := List.nodup_cons.mp apart
  rcases List.mem_append.mp again with console | same
  · exact (List.nodup_append.mp others).2.2 _ console _ List.mem_cons_self rfl
  · exact uart (by simp [List.mem_singleton.mp same])

end MachineConfig

namespace Machine

-- A device that can be put on the bus of a machine with its distributor at `base`.
structure Placement.Fresh (base : UInt64) (p : Placement) : Prop where
  line : line? p.device = p.line
  sound : sound p.device
  down : raised p.device = false
  lineless : p.line = none → p.window.base = base

-- A bus and a controller that were put together so far, with the lines given away.
structure Fitted (base : UInt64) (lines : List Nat) (bus : Bus MachineDevice) (gic : Gic) :
    Prop where
  sound : ∀ slot ∈ bus.slots, sound slot.device
  down : ∀ slot ∈ bus.slots, raised slot.device = false
  lineless : ∀ slot ∈ bus.slots, line? slot.device = none → slot.window.base = base
  heard : ∀ slot ∈ bus.slots, ∀ n, line? slot.device = some n →
    n ∈ lines ∧ gic.handlerOf n = some (.device slot.window.base)
  reached : gic.Reached
  told : gic.notifications = []

variable {base : UInt64} {lines : List Nat} {bus bus' : Bus MachineDevice} {gic gic' : Gic}

theorem empty_fitted (reached : gic.Reached) (told : gic.notifications = []) :
    Fitted base [] .empty gic :=
  ⟨nofun, nofun, nofun, nofun, reached, told⟩

-- A device that is put in place takes its window, and its line if it has one.
theorem place_parts {p : Placement} (done : place p bus gic = .ok (bus', gic')) :
    bus' = ⟨Bus.place p.window p.device bus.slots⟩ ∧
      gic' = match p.line with
        | some n => gic.apply (.setHandler n (.device p.window.base))
        | none => gic := by
  unfold place at done
  split at done
  · cases done
  rename_i inserted
  cases done
  refine ⟨?_, rfl⟩
  unfold Bus.insert at inserted
  split at inserted
  · cases inserted
  split at inserted <;> cases inserted
  rfl

theorem place_fitted {p : Placement} (fitted : Fitted base lines bus gic) (fresh : p.Fresh base)
    (own : ∀ n, p.line = some n → n < Gic.numLines ∧ n ∉ lines)
    (done : place p bus gic = .ok (bus', gic')) :
    Fitted base (p.line.toList ++ lines) bus' gic' := by
  obtain ⟨rfl, rfl⟩ := place_parts done
  have slots : ∀ t ∈ Bus.place p.window p.device bus.slots,
      (t.device = p.device ∧ t.window.base = p.window.base) ∨ t ∈ bus.slots :=
    fun t => Bus.mem_place
  refine ⟨?_, ?_, ?_, ?_, ?_, ?_⟩
  · intro t present
    rcases slots t present with ⟨same, _⟩ | old
    · exact same ▸ fresh.sound
    · exact fitted.sound t old
  · intro t present
    rcases slots t present with ⟨same, _⟩ | old
    · exact same ▸ fresh.down
    · exact fitted.down t old
  · intro t present none
    rcases slots t present with ⟨same, at_⟩ | old
    · rw [same, fresh.line] at none
      rw [at_, fresh.lineless none]
    · exact fitted.lineless t old none
  · intro t present n named
    rcases slots t present with ⟨same, at_⟩ | old
    · rw [same, fresh.line] at named
      rw [named, at_]
      exact ⟨by simp, Gic.setHandler_handlerOf_self _ (own n named).1⟩
    · obtain ⟨given, heard⟩ := fitted.heard t old n named
      refine ⟨List.mem_append_right _ given, ?_⟩
      split
      · rename_i k ours
        rw [Gic.setHandler_handlerOf_other, heard]
        rintro rfl
        exact (own n ours).2 given
      · exact heard
  · split
    · exact Gic.reached_apply fitted.reached _
    · exact fitted.reached
  · split
    · exact (Gic.setHandler_notifications ..).trans fitted.told
    · exact fitted.told

theorem distributor_fresh (c : MachineConfig) :
    (distributorPlacement c).Fresh c.distributorBase := ⟨rfl, trivial, rfl, fun _ => rfl⟩

theorem uart_fresh (c : UartConfig) (sink : Sink) : (uartPlacement c sink).Fresh base := by
  refine ⟨rfl, rfl, ?_, nofun⟩
  change ((RegisterSpace.ofSpecs Uart.layout).value Uart.ris &&&
    (RegisterSpace.ofSpecs Uart.layout).value Uart.imsc != 0) = false
  decide +kernel

theorem console_fresh (c : ConsoleConfig) (sink : Sink) : (consolePlacement c sink).Fresh base :=
  ⟨rfl, trivial, rfl, nofun⟩

theorem net_fresh (c : NetConfig) (sink : Sink) : (netPlacement c sink).Fresh base :=
  ⟨rfl, trivial, rfl, nofun⟩

section Optional

variable {κ : Type} {make : κ → Sink → Placement} {missing : BuildError} {config : Option κ}
  {sink : Option Sink}

-- A device that a layout may leave out. One that is there needs a sink, which the host may not
-- have supplied.
def placeOptional (make : κ → Sink → Placement) (missing : BuildError) (config : Option κ)
    (sink : Option Sink) (bus : Bus MachineDevice) (gic : Gic) :
    Except BuildError (Bus MachineDevice × Gic) :=
  match config, sink with
  | none, _ => .ok (bus, gic)
  | some _, none => .error missing
  | some c, some sink => place (make c sink) bus gic

theorem placeConsole_optional : placeConsole = placeOptional consolePlacement .noOutput := by
  funext config sink bus gic
  cases config <;> cases sink <;> rfl

theorem placeNet_optional : placeNet = placeOptional netPlacement .noBackend := by
  funext config sink bus gic
  cases config <;> cases sink <;> rfl

theorem placeOptional_parts
    (done : placeOptional make missing config sink bus gic = .ok (bus', gic')) :
    (config = none ∧ bus' = bus ∧ gic' = gic) ∨
      ∃ c s, config = some c ∧ place (make c s) bus gic = .ok (bus', gic') := by
  unfold placeOptional at done
  split at done
  · cases done
    exact .inl ⟨rfl, rfl, rfl⟩
  · cases done
  · exact .inr ⟨_, _, rfl, done⟩

theorem placeOptional_fitted {irq : κ → Nat} (fresh : ∀ c s, (make c s).Fresh base)
    (line : ∀ c s, (make c s).line = some (irq c)) (fitted : Fitted base lines bus gic)
    (own : ∀ c, config = some c → irq c < Gic.numLines ∧ irq c ∉ lines)
    (done : placeOptional make missing config sink bus gic = .ok (bus', gic')) :
    Fitted base (config.toList.map irq ++ lines) bus' gic' := by
  rcases placeOptional_parts done with ⟨rfl, rfl, rfl⟩ | ⟨c, s, rfl, placed⟩
  · exact fitted
  · have after := place_fitted fitted (fresh c s) (fun n named => ?_) placed
    · rw [line] at after
      exact after
    · rw [line] at named
      cases named
      exact own c rfl

end Optional

section New

variable {ν τ η : Type} [VcpuSession ν] {c : MachineConfig} {vcpu : ν}
  {hostTimer : Except HostError τ} {backends : Backends η} {m : Machine ν τ η}

-- The way to a new machine: its four devices come to the bus one after the other.
theorem new_steps [Host] (built : Machine.new c vcpu hostTimer backends = .ok m) :
    ∃ bus₁ gic₁ bus₂ gic₂ bus₃ gic₃,
      place (distributorPlacement c) .empty
        (Gic.initial.apply (.setHandler Gic.timerLine .timer)) = .ok (bus₁, gic₁) ∧
      place (uartPlacement c.uart backends.uart) bus₁ gic₁ = .ok (bus₂, gic₂) ∧
      placeOptional consolePlacement .noOutput c.console backends.console bus₂ gic₂ =
        .ok (bus₃, gic₃) ∧
      placeOptional netPlacement .noBackend c.net backends.net bus₃ gic₃ =
        .ok (m.platform.bus, m.platform.board.gic) ∧
      c.validate = .ok () ∧ m.events = [] ∧ m.platform.timer.armedAt = none ∧
      hostTimer = .ok m.platform.timer.host := by
  unfold Machine.new at built
  obtain ⟨_, valid, built⟩ := Checked.bind_eq_ok.mp built
  obtain ⟨memory, _, built⟩ := Checked.bind_eq_ok.mp built
  obtain ⟨host, supplied, built⟩ := Checked.bind_eq_ok.mp built
  obtain ⟨⟨timer, gic⟩, timed, built⟩ := Checked.bind_eq_ok.mp built
  obtain ⟨state, _, built⟩ := Checked.bind_eq_ok.mp built
  obtain ⟨⟨bus₁, gic₁⟩, distributor, built⟩ := Checked.bind_eq_ok.mp built
  obtain ⟨⟨bus₂, gic₂⟩, uart, built⟩ := Checked.bind_eq_ok.mp built
  obtain ⟨⟨bus₃, gic₃⟩, console, built⟩ := Checked.bind_eq_ok.mp built
  obtain ⟨⟨bus₄, gic₄⟩, net, built⟩ := Checked.bind_eq_ok.mp built
  cases built
  have started : timer = ⟨host, c.timerFrequency / 1000, none⟩ ∧
      gic = Gic.initial.apply (.setHandler Gic.timerLine .timer) := by
    have created := Checked.mapError_eq_ok.mp timed
    unfold VirtualTimer.new at created
    dsimp only at created
    split at created
    · cases created
    · cases created
      exact ⟨rfl, rfl⟩
  obtain ⟨rfl, rfl⟩ := started
  rw [placeConsole_optional] at console
  rw [placeNet_optional] at net
  exact ⟨bus₁, gic₁, bus₂, gic₂, bus₃, gic₃, distributor, uart, console, net,
    Checked.mapError_eq_ok.mp valid, rfl, rfl, Checked.mapError_eq_ok.mp supplied⟩

-- Every machine that can be built is fitted together in this way, and has nothing to do yet.
theorem new_parts [Host] (built : Machine.new c vcpu hostTimer backends = .ok m) :
    (∃ lines, Fitted c.distributorBase lines m.platform.bus m.platform.board.gic) ∧
      m.events = [] ∧ m.platform.timer.armedAt = none ∧ hostTimer = .ok m.platform.timer.host := by
  obtain ⟨_, _, _, _, _, _, distributor, uart, console, net, layout, rest⟩ := new_steps built
  have ownUart : c.uart.irq.toNat < Gic.numLines :=
    (MachineConfig.validate_lines layout).1 _ List.mem_cons_self
  have fitted₀ : Fitted c.distributorBase [] .empty
      (Gic.initial.apply (.setHandler Gic.timerLine .timer)) :=
    empty_fitted (Gic.reached_apply ⟨[], rfl⟩ _) (Gic.setHandler_notifications ..)
  have fitted₁ := place_fitted fitted₀ (distributor_fresh c) nofun distributor
  have fitted₂ := place_fitted fitted₁ (uart_fresh c.uart backends.uart)
    (by rintro n ⟨⟩; exact ⟨ownUart, List.not_mem_nil⟩) uart
  have fitted₃ := placeOptional_fitted console_fresh (fun _ _ => rfl) fitted₂
    (fun _ => MachineConfig.console_line layout) console
  exact ⟨⟨_, placeOptional_fitted net_fresh (fun _ _ => rfl) fitted₃
    (fun _ => MachineConfig.net_line layout) net⟩, rest⟩

theorem new_fitted [Host] (built : Machine.new c vcpu hostTimer backends = .ok m) :
    ∃ lines, Fitted c.distributorBase lines m.platform.bus m.platform.board.gic :=
  (new_parts built).1

end New

end Machine

end VmMonitor
