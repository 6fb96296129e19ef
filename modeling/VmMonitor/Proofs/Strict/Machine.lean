import VmMonitor.Proofs.Machine.Layout
import VmMonitor.Proofs.Machine.Screened
import VmMonitor.Proofs.Strict.Bus
import VmMonitor.Proofs.Strict.Console
import VmMonitor.Proofs.Strict.Distributor
import VmMonitor.Proofs.Strict.Net
import VmMonitor.Proofs.Strict.Transport
import VmMonitor.Proofs.Strict.Uart

/-!
The devices of a machine with every operation checked. A machine is built with devices that have
what they rely on, and nothing that they are asked takes it from them. So at any time of any history
every load, store, input and completed interrupt comes to what it comes to without the checks.
-/

namespace VmMonitor

open Checked Virtio

instance : StrictDevice Distributor where
  steady d := d.registers.Compact
  read := Distributor.strictRead
  write _ := Distributor.strictWrite
  endOfInterrupt d b _ := .ok (d, b)
  input _ d b data := BusDevice.input d b data

theorem Distributor.new_compact : Distributor.new.registers.Compact where
  tidy := by
    unfold RegisterSpace.Tidy
    decide +kernel
  low := by decide +kernel

instance : LawfulStrictDevice Distributor where
  asked {d d'} compact asks := by
    have same : PowerOn.alike d d := ⟨rfl, compact.tidy⟩
    exact compact.congr (LawfulPowerOn.asked same asks).1
  read_ok {d} compact b a := by
    obtain ⟨r, done⟩ := Distributor.read_ok compact b a
    exact ⟨r, (d.strictRead_same b a).trans done, done⟩
  write_faithful {d} compact b a value :=
    .of_same (d.strictWrite_same b a value) (Distributor.write_ok compact b a value)
  endOfInterrupt_ok _ _ _ := rfl
  levelChanged_idle _ _ _ _ := rfl
  input_faithful _ _ _ := .once ⟨_, rfl⟩

instance : StrictDevice Uart where
  steady := Uart.Steady
  read := Uart.strictRead
  write _ := Uart.strictWrite
  endOfInterrupt u b _ := u.strictEndOfInterrupt b
  input _ := Uart.strictInput

instance : LawfulStrictDevice Uart where
  asked := Uart.Steady.asked
  read_ok {u} steady b a := by
    obtain ⟨r, done⟩ := Uart.read_ok steady b a
    exact ⟨r, (Uart.strictRead_same steady b a).trans done, done⟩
  write_faithful steady b a value :=
    .of_same (Uart.strictWrite_same steady b a value) (Uart.write_ok steady b a value)
  endOfInterrupt_ok {u} _ b _ := u.strictEndOfInterrupt_ok b
  levelChanged_idle _ _ _ _ := rfl
  input_faithful steady b data :=
    .of_same (Uart.strictInput_same steady b data) (Uart.input_ok steady b data)

section Transports

variable {ν : Type} [VirtioDevice ν] [StrictVirtioDevice ν]

instance : StrictDevice (Transport ν) where
  steady := Transport.Steady
  read := Transport.strictRead
  write rounds t := t.strictWrite rounds
  endOfInterrupt t b _ := t.strictEndOfInterrupt b
  input rounds t := t.strictInput rounds

instance [Lanes ν] : LawfulStrictDevice (Transport ν) where
  asked := Transport.Steady.asked
  read_ok {t} _ b a := t.strictRead_ok b a
  write_faithful steady b a value := Transport.strictWrite_faithful steady b a value
  endOfInterrupt_ok {t} _ b _ := t.strictEndOfInterrupt_ok b
  levelChanged_idle _ _ _ _ := rfl
  input_faithful steady b data := Transport.strictInput_faithful steady b data

end Transports

namespace Bus

variable {δ : Type}

-- What a bus can come to be by what its devices are asked, each time with any board whatever.
inductive Asked [BusDevice δ] (bus : Bus δ) : Bus δ → Prop
  | none : Asked bus bus
  | next {bus' : Bus δ} {s : Slot δ} {d : δ} (before : Asked bus bus') (here : s ∈ bus'.slots)
      (asks : Asks s.device d) : Asked bus (bus'.setDevice s.window.base d)
  | reset {bus' : Bus δ} (before : Asked bus bus') : Asked bus bus'.reset

theorem asked_kept [BusDevice δ] (bus : Bus δ) : Kept bus.Asked := ⟨.next, .reset⟩

theorem Kept.all [BusDevice δ] {P : Bus δ → Prop} {bus bus' : Bus δ} (kept : Kept P)
    (holds : P bus) (asked : bus.Asked bus') : P bus' := by
  induction asked with
  | none => exact holds
  | next _ here asks ih => exact kept.asked ih here asks
  | reset _ ih => exact kept.reset ih

-- Whatever the bus is asked, no operation on the way faults. Work that takes rounds may need more
-- of them than there are, and that is all that can happen to it.
structure Safe [BusDevice δ] [StrictDevice δ] (bus : Bus δ) (b : Board) : Prop where
  reads (address : UInt64) (width : Width) :
    ∃ r, bus.strictRead b address width = .ok r ∧ bus.read b address width = .ok r
  writes (address : UInt64) (width : Width) (value : UInt64) :
    Faithful (fun rounds => bus.strictWrite rounds b address width value)
      (bus.write b address width value)
  inputs (base : UInt64) (data : List UInt8) :
    Faithful (fun rounds => bus.strictInput rounds b base data) (bus.input b base data)
  completes (base : UInt64) (n : Nat) :
    bus.strictEndOfInterrupt b base n = .ok (bus.endOfInterrupt b base n)
  changes (base : UInt64) (n : Nat) (level : Bool) :
    (bus.levelChanged b base n level).2 = (bus, b)

theorem Steady.safe [BusDevice δ] [StrictDevice δ] [LawfulStrictDevice δ] {bus : Bus δ}
    (steady : bus.Steady) (b : Board) : bus.Safe b where
  reads := strictRead_ok steady b
  writes := strictWrite_faithful steady b
  inputs := strictInput_faithful steady b
  completes := strictEndOfInterrupt_ok steady b
  changes := levelChanged_idle steady b

end Bus

namespace Machine

open StrictDevice

section Built

variable {η : Type} {c : MachineConfig} {backends : Backends η}

theorem optional_mem {κ : Type} {make : κ → Sink → Placement} {config : Option κ}
    {sink : Option Sink} {p : Placement} (given : p ∈ optional make config sink) :
    ∃ c s, p = make c s := by
  cases config with
  | none => cases given
  | some c =>
      cases sink with
      | none => cases given
      | some s => exact ⟨c, s, List.mem_singleton.mp given⟩

theorem placements_steady {p : Placement} (given : p ∈ placements c backends) :
    steady p.device := by
  rcases List.mem_append.mp given with given | net
  · rcases List.mem_append.mp given with given | console
    · rcases List.mem_cons.mp given with rfl | given
      · exact Distributor.new_compact
      · cases List.mem_singleton.mp given
        exact Uart.new_steady ..
    · obtain ⟨_, _, rfl⟩ := optional_mem console
      exact Transport.new_steady ..
  · obtain ⟨_, _, rfl⟩ := optional_mem net
    exact Transport.new_steady ..

variable {ν τ : Type} [VcpuSession ν]

theorem new_steady [Host] {vcpu : ν} {timer : Except HostError τ} {m : Machine ν τ η}
    (built : Machine.new c vcpu timer backends = .ok m) : m.platform.bus.Steady := by
  have sound : c.Sound := by
    unfold Machine.new at built
    obtain ⟨_, valid, _⟩ := Checked.bind_eq_ok.mp built
    exact MachineConfig.validate_iff.mp (Checked.mapError_eq_ok.mp valid)
  rcases new_ends sound vcpu timer backends with ⟨e, failed, _⟩ | ⟨m', done, laid, _⟩
  · rw [built] at failed
    cases failed
  rw [built] at done
  cases done
  refine ⟨laid.tiled, fun s here => ?_⟩
  obtain ⟨p, given, rfl⟩ := List.mem_map.mp (laid.slots.mem_iff.mp here)
  exact placements_steady given

end Built

variable {ν τ η : Type} [VcpuSession ν] [HostTimer τ] [HypercallHandler η]

-- At any time of a run, also between two questions to the devices while an event is handled, and
-- with any controller and any guest memory.
theorem access_safe [Host] {c : MachineConfig} {vcpu : ν} {timer : Except HostError τ}
    {backends : Backends η} {start m : Machine ν τ η}
    (built : Machine.new c vcpu timer backends = .ok start)
    (run : Run (fun _ => True) start m) {bus : Bus MachineDevice}
    (asked : m.platform.bus.Asked bus) (b : Board) : bus.Safe b := by
  have ready := run_kept Bus.steady_kept (new_steady built) run
  exact (Bus.steady_kept.all ready asked).safe b

-- The guest has set the mask of the UART, and someone has read it back.
theorem access_safe_unmasked :
    ∃ (start m : Machine StillVcpu WallTimer NoHypercalls)
      (r : Answered (Bus MachineDevice) UInt64),
      Machine.new .standard (StillVcpu.new unmaskingGuest) (.ok .new)
        ⟨.accepting, none, none, .mk⟩ = .ok start ∧
      start.perform .exit = .ok ⟨.ok (), m⟩ ∧
      m.platform.bus.read m.board 0x09000038 .word = .ok r ∧
      m.platform.bus.Asked r.device ∧ r.device.Safe r.board ∧
      (r.device.strictRead r.board 0x09000038 .word).toOption.any
        (·.answer.toOption = some 0x10) = true := by
  have ran : ((Machine.new .standard (StillVcpu.new unmaskingGuest) (.ok WallTimer.new)
        ⟨.accepting, none, none, NoHypercalls.mk⟩).toOption.any fun start =>
      (start.perform .exit).toOption.any fun r => r.answer.isOk &&
        (r.machine.platform.bus.read r.machine.board 0x09000038 .word).toOption.any fun r =>
          (r.device.strictRead r.board 0x09000038 .word).toOption.any
            (·.answer.toOption = some 0x10)) = true := by
    unfold Machine.new
    rw [Gic.initial_listed]
    decide +kernel
  obtain ⟨start, built, ran⟩ := Checked.ok_of_any ran
  obtain ⟨m, first, ran⟩ := done_of_any ran
  obtain ⟨r, loaded, again⟩ := Checked.ok_of_any ran
  have asked : m.platform.bus.Asked r.device := (Bus.asked_kept _).read .none loaded
  exact ⟨start, m, r, built, first, loaded, asked,
    access_safe built (Run.exit .done trivial first) asked r.board, again⟩

end Machine

end VmMonitor
