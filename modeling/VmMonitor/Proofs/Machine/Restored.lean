import VmMonitor.Proofs.Device.PowerOn
import VmMonitor.Proofs.Machine.Guarded
import VmMonitor.Proofs.Machine.Reset
import VmMonitor.Proofs.Virtio.Make

/-!
What a machine reads like when it has been reset: everywhere as one that was just built from the
same layout, but for the registers that outlast a reset. Those read as before.
-/

namespace VmMonitor

open PowerOn

namespace Machine

variable {ν τ η : Type}

-- The devices of two machines of one layout are of one make, and new devices are at rest.

section Build

variable {bus bus₁ bus' bus₁' : Bus MachineDevice} {gic gic₁ gic' gic₁' : Gic} {p p' : Placement}

theorem placed_alike (done : place p bus gic = .ok (bus₁, gic₁))
    (done' : place p' bus' gic' = .ok (bus₁', gic₁')) (same : Bus.Alike bus bus')
    (window : p.window = p'.window) (made : alike p.device p'.device) :
    Bus.Alike bus₁ bus₁' := by
  rw [(place_parts done).1, (place_parts done').1, ← window]
  exact Bus.place_alike same made

theorem placed_rested (rested : bus.reset = bus) (device : BusDevice.reset p.device = p.device)
    (done : place p bus gic = .ok (bus₁, gic₁)) : bus₁.reset = bus₁ := by
  have slots : bus.slots.map (Slot.map BusDevice.reset) = bus.slots := congrArg Bus.slots rested
  have placed := Bus.place_map BusDevice.reset p.window p.device bus.slots
  rw [slots, device] at placed
  rw [(place_parts done).1]
  exact congrArg Bus.mk placed.symm

theorem distributor_rested (c : MachineConfig) :
    BusDevice.reset (distributorPlacement c).device = (distributorPlacement c).device := by
  have registers : Distributor.new.registers.reset = Distributor.new.registers := by
    decide +kernel
  exact congrArg (fun registers => MachineDevice.distributor ⟨registers⟩) registers

theorem uart_rested (c : UartConfig) (sink : Sink) :
    BusDevice.reset (uartPlacement c sink).device = (uartPlacement c sink).device := by
  have registers : (RegisterSpace.ofSpecs Uart.layout).reset = .ofSpecs Uart.layout := by
    decide +kernel
  exact congrArg (fun registers => MachineDevice.uart ⟨registers, [], sink, c.irq.toNat⟩) registers

theorem distributor_alike (c : MachineConfig) :
    alike (distributorPlacement c).device (distributorPlacement c).device := by
  refine ⟨rfl, ?_⟩
  change (Distributor.new.registers.shape.map (·.1.first)).Nodup
  decide +kernel

-- A new transport has been made of the same, whatever the sink.

theorem console_alike (c : ConsoleConfig) (sink sink' : Sink) :
    alike (consolePlacement c sink).device (consolePlacement c sink').device := rfl

theorem net_alike (c : NetConfig) (sink sink' : Sink) :
    alike (netPlacement c sink).device (netPlacement c sink').device := rfl

section Optional

variable {κ : Type} {make : κ → Sink → Placement} {missing : BuildError} {config : Option κ}
  {sink sink' : Option Sink}

theorem placeOptional_alike (window : ∀ c s s', (make c s).window = (make c s').window)
    (made : ∀ c s s', alike (make c s).device (make c s').device) (same : Bus.Alike bus bus')
    (done : placeOptional make missing config sink bus gic = .ok (bus₁, gic₁))
    (done' : placeOptional make missing config sink' bus' gic' = .ok (bus₁', gic₁')) :
    Bus.Alike bus₁ bus₁' := by
  rcases placeOptional_parts done with ⟨rfl, rfl, rfl⟩ | ⟨c, s, rfl, placed⟩
  · cases done'
    exact same
  · rcases placeOptional_parts done' with ⟨none, _⟩ | ⟨c', s', here, placed'⟩
    · cases none
    · cases here
      exact placed_alike placed placed' same (window ..) (made ..)

theorem placeOptional_rested
    (device : ∀ c s, BusDevice.reset (make c s).device = (make c s).device)
    (rested : bus.reset = bus)
    (done : placeOptional make missing config sink bus gic = .ok (bus₁, gic₁)) :
    bus₁.reset = bus₁ := by
  rcases placeOptional_parts done with ⟨_, rfl, _⟩ | ⟨c, s, _, placed⟩
  · exact rested
  · exact placed_rested rested (device c s) placed

end Optional

end Build

section New

variable [VcpuSession ν] {m m' : Machine ν τ η} {c : MachineConfig} {vcpu vcpu' : ν}
  {timer timer' : Except HostError τ} {backends backends' : Backends η}

theorem new_alike [Host] (built : Machine.new c vcpu timer backends = .ok m)
    (anew : Machine.new c vcpu' timer' backends' = .ok m') :
    Bus.Alike m.platform.bus m'.platform.bus := by
  obtain ⟨_, _, _, _, _, _, distributor, uart, console, net, _⟩ := new_steps built
  obtain ⟨_, _, _, _, _, _, distributor', uart', console', net', _⟩ := new_steps anew
  have first := placed_alike distributor distributor' Bus.empty_alike rfl (distributor_alike c)
  have second := placed_alike uart uart' first rfl ⟨rfl, rfl⟩
  have third := placeOptional_alike (fun _ _ _ => rfl) console_alike second console console'
  exact placeOptional_alike (fun _ _ _ => rfl) net_alike third net net'

theorem new_rested [Host] (built : Machine.new c vcpu timer backends = .ok m) :
    m.platform.bus.reset = m.platform.bus := by
  obtain ⟨_, _, _, _, _, _, distributor, uart, console, net, _⟩ := new_steps built
  have first := placed_rested rfl (distributor_rested c) distributor
  have second := placed_rested first (uart_rested c.uart backends.uart) uart
  have third := placeOptional_rested (fun _ _ => rfl) second console
  exact placeOptional_rested (fun _ _ => rfl) third net

end New

-- What a load from an address of the bus finds.
def reads (m : Machine ν τ η) (address : UInt64) (width : Width) :
    Checked (Except BusError UInt64) := m.platform.bus.answer m.board address width

section Reads

variable [VcpuSession ν] [HostTimer τ] [HypercallHandler η]

-- Every call that ends in a reset was made for a guest that asked for one. From then on every
-- register reads as in a machine that was just built from the same layout, but for the registers
-- that show the lines of the controller and for the number of changes to the configuration space
-- of a transport. The controller is as before the reset, and these registers read as before.
theorem reset_reads [Host] {c : MachineConfig} {vcpu vcpu' : ν} {timer timer' : Except HostError τ}
    {backends backends' : Backends η} {start m fresh : Machine ν τ η} {call : Call}
    {r : Stepped ν τ η Unit} (built : Machine.new c vcpu timer backends = .ok start)
    (run : Run (fun _ => True) start m) (before : m.exit ≠ some .reset)
    (done : m.perform call = .ok r) (after : r.machine.exit = some .reset)
    (anew : Machine.new c vcpu' timer' backends' = .ok fresh) :
    ∃ n, Run (fun _ => True) m n ∧ ResetFrom n r.machine ∧ ∀ address width,
      (¬ fresh.platform.bus.Outlasts address →
        r.machine.reads address width = fresh.reads address width) ∧
      (fresh.platform.bus.Outlasts address →
        r.machine.reads address width = n.reads address width) := by
  obtain ⟨n, later, reset⟩ := perform_reset done before after
  have same : Bus.Alike n.platform.bus fresh.platform.bus :=
    run_kept (P := fun bus => Bus.Alike bus fresh.platform.bus) (Bus.alike_kept _)
      (new_alike built anew) (run.trans later)
  refine ⟨n, later, reset, fun address width => ⟨fun passing => ?_, fun lasting => ?_⟩⟩
  · have passed := mt (same.outlasts_iff address).mp passing
    unfold reads
    rw [reset.bus, same.restored passed r.machine.board fresh.board, new_rested anew]
  · have lasts := (same.outlasts_iff address).mpr lasting
    unfold reads
    rw [reset.bus]
    exact Bus.outlasting lasts reset.gic

end Reads

-- A guest that has just asked for a reset, and one that has just trapped on a store that enables
-- the line of the UART.
def resettingGuest : VcpuState :=
  { (VcpuState.initial.setReg 0 0x84000009) with vector := 0x400, esr := 0x58000000 }

def enablingGuest : VcpuState :=
  { (VcpuState.initial.setReg 0 2) with
    vector := 0x400, esr := 0x91800040, far := 0x104, hpfar := 0x80000 }

-- The machine as the guest leaves it when it traps the next time.
def trapped (m : Machine StillVcpu τ η) (s : VcpuState) : Machine StillVcpu τ η :=
  { m with vcpu := StillVcpu.new s }

theorem trapped_outside (m : Machine StillVcpu τ η) (s : VcpuState) : Outside m (m.trapped s) :=
  ⟨rfl, rfl, rfl, rfl, rfl⟩

-- The mask of the UART is back, and it was in the reset that it came back.
theorem reset_reads_unmasked :
    ∃ start m stopped : Machine StillVcpu WallTimer NoHypercalls,
      Machine.new .standard (StillVcpu.new unmaskingGuest) (.ok .new)
        ⟨.accepting, none, none, .mk⟩ = .ok start ∧
      start.perform .exit = .ok ⟨.ok (), m⟩ ∧ m.exit ≠ some .reset ∧
      m.reads 0x09000038 .word = .ok (.ok 0x10) ∧
      (m.trapped resettingGuest).perform .exit = .ok ⟨.ok (), stopped⟩ ∧
      stopped.exit = some .reset ∧ ¬ start.platform.bus.Outlasts 0x09000038 ∧
      stopped.reads 0x09000038 .word = start.reads 0x09000038 .word := by
  have ran : ((Machine.new .standard (StillVcpu.new unmaskingGuest) (.ok WallTimer.new)
        ⟨.accepting, none, none, NoHypercalls.mk⟩).toOption.any fun start =>
      ((start.platform.bus.slotFor? 0x09000038).any fun s => s.device.elim (fun _ => false)
        fun d => d.isLeft) && (start.perform .exit).toOption.any fun r => r.answer.isOk &&
          (r.machine.exit.isNone && decide (r.machine.reads 0x09000038 .word = .ok (.ok 0x10)) &&
            ((r.machine.trapped resettingGuest).perform .exit).toOption.any fun r =>
              r.answer.isOk && decide (r.machine.exit = some .reset))) = true := by
    unfold Machine.new
    rw [Gic.initial_listed]
    decide +kernel
  obtain ⟨start, built, ran⟩ := Checked.ok_of_any ran
  obtain ⟨owner, ran⟩ := Bool.and_eq_true_iff.mp ran
  obtain ⟨m, first, ran⟩ := done_of_any ran
  obtain ⟨both, ran⟩ := Bool.and_eq_true_iff.mp ran
  obtain ⟨up, unmasked⟩ := Bool.and_eq_true_iff.mp both
  obtain ⟨stopped, second, after⟩ := done_of_any ran
  have before : m.exit ≠ some .reset := by
    rw [Option.isNone_iff_eq_none.mp up]
    nofun
  have passing : ¬ start.platform.bus.Outlasts 0x09000038 := by
    rintro ⟨⟨window, device⟩, found, lasting⟩
    rw [found] at owner
    rcases device with d | u | t
    · cases owner
    · exact lasting
    · cases owner
  have run : Run (fun _ => True) start (m.trapped resettingGuest) :=
    (Run.exit .done trivial first).outside (trapped_outside m _)
  obtain ⟨n, _, _, reads⟩ :=
    reset_reads built run before second (of_decide_eq_true after) built
  exact ⟨start, m, stopped, built, first, before, of_decide_eq_true unmasked, second,
    of_decide_eq_true after, passing, (reads 0x09000038 .word).1 passing⟩

-- The line of the UART is still enabled.
theorem reset_keeps_enabled :
    ∃ start m stopped : Machine StillVcpu WallTimer NoHypercalls,
      Machine.new .standard (StillVcpu.new enablingGuest) (.ok .new)
        ⟨.accepting, none, none, .mk⟩ = .ok start ∧
      start.perform .exit = .ok ⟨.ok (), m⟩ ∧
      (m.trapped resettingGuest).perform .exit = .ok ⟨.ok (), stopped⟩ ∧
      stopped.exit = some .reset ∧
      stopped.reads 0x08000104 .word = .ok (.ok 2) ∧
      start.reads 0x08000104 .word = .ok (.ok 0) := by
  have ran : ((Machine.new .standard (StillVcpu.new enablingGuest) (.ok WallTimer.new)
        ⟨.accepting, none, none, NoHypercalls.mk⟩).toOption.any fun start =>
      decide (start.reads 0x08000104 .word = .ok (.ok 0)) &&
        (start.perform .exit).toOption.any fun r => r.answer.isOk &&
          ((r.machine.trapped resettingGuest).perform .exit).toOption.any fun r =>
            r.answer.isOk && (decide (r.machine.exit = some .reset) &&
              decide (r.machine.reads 0x08000104 .word = .ok (.ok 2)))) = true := by
    unfold Machine.new
    rw [Gic.initial_listed]
    decide +kernel
  obtain ⟨start, built, ran⟩ := Checked.ok_of_any ran
  obtain ⟨disabled, ran⟩ := Bool.and_eq_true_iff.mp ran
  obtain ⟨m, first, ran⟩ := done_of_any ran
  obtain ⟨stopped, second, ran⟩ := done_of_any ran
  obtain ⟨after, enabled⟩ := Bool.and_eq_true_iff.mp ran
  exact ⟨start, m, stopped, built, first, second, of_decide_eq_true after,
    of_decide_eq_true enabled, of_decide_eq_true disabled⟩

end Machine

end VmMonitor
