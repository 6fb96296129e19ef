import VmMonitor.Proofs.Bus.Owner
import VmMonitor.Proofs.Machine.Built
import VmMonitor.Proofs.Virtio.Programmed

/-!
Layouts and the machines built from them. The checks of a layout and the tests of the bus are
written apart from each other and see windows in ways of their own; they agree on every layout. So
what is left to fail in building a machine is what the host supplies, and in the machine every
address of a device leads to that device.
-/

namespace VmMonitor

namespace MachineConfig

variable {c : MachineConfig}

def memoryWindow (c : MachineConfig) : Window := ⟨c.memoryBase, c.memorySize⟩

-- The windows of the devices, in the order in which the devices are put in place.
def deviceWindows (c : MachineConfig) : List Window :=
  ⟨c.distributorBase, Distributor.windowSize⟩ :: ⟨c.uart.base, Uart.windowSize⟩ ::
    (c.console.toList.map (fun d => ⟨d.base, Transport.windowSize⟩) ++
      c.net.toList.map fun d => ⟨d.base, Transport.windowSize⟩)

def windows (c : MachineConfig) : List Window := c.memoryWindow :: c.deviceWindows

def queues (c : MachineConfig) : List UInt16 :=
  c.console.toList.map (·.queueSize) ++ c.net.toList.map (·.queueSize)

-- A layout that a machine can have.
structure Sound (c : MachineConfig) : Prop where
  memory : c.memorySize ≠ 0
  frequency : 1000 ≤ c.timerFrequency.toNat
  bounded : ∀ w ∈ c.windows, w.base.toNat + w.len.toNat < 2 ^ 64
  apart : c.windows.Pairwise Window.Apart
  queues : ∀ size ∈ c.queues, size.toNat.isPowerOfTwo ∧ 1 ≤ size.toNat ∧ size.toNat ≤ 32768
  shared : ∀ n ∈ c.lines, 32 ≤ n ∧ n ≤ 1019
  own : c.lines.Nodup

-- Each check against the part of a sound layout that it stands for.

theorem claims_windows (c : MachineConfig) : c.claims.map (·.window) = c.windows := by
  simp [claims, windows, deviceWindows, memoryWindow, consoleClaim, netClaim, Function.comp_def]

theorem checkBounds_iff {l : List Claim} :
    checkBounds l = .ok () ↔ ∀ c ∈ l, c.last < UInt64.size := by
  induction l with
  | nil => exact ⟨fun _ => nofun, fun _ => rfl⟩
  | cons c rest ih =>
      unfold checkBounds
      rw [List.forall_mem_cons, ← ih]
      split
      · rename_i room
        exact ⟨fun done => ⟨room, done⟩, fun both => both.2⟩
      · rename_i wraps
        exact ⟨nofun, fun both => absurd both.1 wraps⟩

theorem checkDisjoint_iff {l : List Claim} :
    checkDisjoint l = .ok () ↔ l.Pairwise fun c d => c.meets d = false := by
  induction l with
  | nil => exact ⟨fun _ => .nil, fun _ => rfl⟩
  | cons c rest ih =>
      unfold checkDisjoint
      rw [List.pairwise_cons, ← ih]
      split
      · rename_i d found
        have meets := List.find?_some found
        refine ⟨nofun, fun both => ?_⟩
        rw [both.1 d (List.mem_of_find?_eq_some found)] at meets
        cases meets
      · rename_i none
        have apart := fun d here => Bool.not_eq_true _ ▸ List.find?_eq_none.mp none d here
        exact ⟨fun done => ⟨apart, done⟩, fun both => both.2⟩

theorem checkQueueSizes_iff {l : List (String × UInt16)} : checkQueueSizes l = .ok () ↔
    ∀ q ∈ l, q.2.toNat.isPowerOfTwo ∧ 1 ≤ q.2.toNat ∧ q.2.toNat ≤ 32768 := by
  induction l with
  | nil => exact ⟨fun _ => nofun, fun _ => rfl⟩
  | cons q rest ih =>
      obtain ⟨owner, size⟩ := q
      have valid : (isPowerOfTwo size && decide (size ≤ maxQueueSize)) = true ↔
          size.toNat.isPowerOfTwo ∧ 1 ≤ size.toNat ∧ size.toNat ≤ 32768 := by
        rw [Bool.and_eq_true, QueueConfig.isPowerOfTwo_iff, decide_eq_true_iff,
          UInt16.le_iff_toNat_le]
        exact ⟨fun both => ⟨both.1, Nat.pos_of_isPowerOfTwo both.1, both.2⟩,
          fun all => ⟨all.1, all.2.2⟩⟩
      unfold checkQueueSizes
      rw [List.forall_mem_cons, ← ih]
      split
      · rename_i fine
        exact ⟨fun done => ⟨valid.mp fine, done⟩, fun both => both.2⟩
      · rename_i wrong
        exact ⟨nofun, fun both => absurd (valid.mpr both.1) wrong⟩

theorem checkInterrupts_iff {l : List (String × UInt32)} : checkInterrupts l = .ok () ↔
    (∀ i ∈ l, 32 ≤ i.2.toNat ∧ i.2.toNat ≤ 1019) ∧ (l.map (·.2.toNat)).Nodup := by
  induction l with
  | nil => exact ⟨fun _ => ⟨fun _ here => absurd here List.not_mem_nil, .nil⟩, fun _ => rfl⟩
  | cons i rest ih =>
      obtain ⟨owner, irq⟩ := i
      unfold checkInterrupts
      rw [List.forall_mem_cons, List.map_cons, List.nodup_cons]
      unfold Gic.numPrivate Gic.numLines
      split
      · rename_i outside
        constructor
        · intro done
          cases done
        · intro all
          dsimp only at all
          omega
      rename_i inside
      split
      · rename_i name other shared
        have here := List.mem_of_find?_eq_some shared
        have same : other = irq := by simpa using List.find?_some shared
        constructor
        · intro done
          cases done
        · intro all
          exact absurd (List.mem_map.mpr ⟨_, here, congrArg UInt32.toNat same⟩) all.2.1
      · rename_i alone
        have fresh : irq.toNat ∉ rest.map (·.2.toNat) := fun again => by
          obtain ⟨j, here, same⟩ := List.mem_map.mp again
          exact List.find?_eq_none.mp alone j here (decide_eq_true (UInt32.toNat_inj.mp same))
        exact ⟨fun done => ⟨⟨by dsimp only; omega, (ih.mp done).1⟩, fresh, (ih.mp done).2⟩,
          fun all => ih.mpr ⟨all.1.2, all.2.2⟩⟩

-- Two claims meet where both their ends are exact and none is empty, or they are apart.
theorem meets_iff {c d : Claim} (some : c.window.len ≠ 0) (some' : d.window.len ≠ 0) :
    c.meets d = false ↔ c.window.Apart d.window := by
  rw [Window.apart_iff]
  simp only [Claim.meets, Bool.and_eq_false_iff, decide_eq_false_iff_not, some, some', false_or]
  unfold Claim.last
  omega

theorem deviceWindows_real : ∀ w ∈ c.deviceWindows, w.len ≠ 0 ∧ w.len.toNat < 2 ^ 32 := by
  intro w listed
  have sizes : w.len = 0x1000 ∨ w.len = 0x200 := by
    simp only [deviceWindows, List.mem_cons, List.mem_append, List.mem_map] at listed
    rcases listed with rfl | rfl | ⟨_, _, rfl⟩ | ⟨_, _, rfl⟩
    · exact .inl rfl
    · exact .inl rfl
    · exact .inr rfl
    · exact .inr rfl
  rcases sizes with same | same <;> rw [same] <;> decide

theorem checkBounds_claims : checkBounds c.claims = .ok () ↔
    ∀ w ∈ c.windows, w.base.toNat + w.len.toNat < 2 ^ 64 := by
  rw [checkBounds_iff, ← claims_windows, List.forall_mem_map]
  rfl

theorem checkDisjoint_claims (some : c.memorySize ≠ 0) :
    checkDisjoint c.claims = .ok () ↔ c.windows.Pairwise Window.Apart := by
  have real : ∀ d ∈ c.claims, d.window.len ≠ 0 := fun d listed => by
    have window : d.window ∈ c.windows :=
      claims_windows c ▸ List.mem_map_of_mem (f := Claim.window) listed
    rcases List.mem_cons.mp window with same | device
    · rw [same]
      exact some
    · exact (deviceWindows_real _ device).1
  rw [checkDisjoint_iff, ← claims_windows, List.pairwise_map]
  exact List.Pairwise.iff_of_mem fun {c d} one two => meets_iff (real c one) (real d two)

theorem checkQueueSizes_queues : checkQueueSizes c.queueSizes = .ok () ↔
    ∀ size ∈ c.queues, size.toNat.isPowerOfTwo ∧ 1 ≤ size.toNat ∧ size.toNat ≤ 32768 := by
  have same : c.queueSizes.map (·.2) = c.queues := by
    simp [queueSizes, queues, Function.comp_def]
  rw [checkQueueSizes_iff, ← same, List.forall_mem_map]

theorem checkInterrupts_lines : checkInterrupts c.interrupts = .ok () ↔
    (∀ n ∈ c.lines, 32 ≤ n ∧ n ≤ 1019) ∧ c.lines.Nodup := by
  have same : c.interrupts.map (·.2.toNat) = c.lines := by
    simp [interrupts, lines, Function.comp_def]
  rw [checkInterrupts_iff, same, ← same, List.forall_mem_map]

theorem andThen_eq_ok {ε : Type} {x y : Except ε Unit} :
    (x >>= fun _ => y) = .ok () ↔ x = .ok () ∧ y = .ok () :=
  Checked.bind_eq_ok.trans ⟨fun ⟨_, first, second⟩ => ⟨first, second⟩,
    fun ⟨first, second⟩ => ⟨(), first, second⟩⟩

theorem validate_iff : c.validate = .ok () ↔ c.Sound := by
  unfold validate
  dsimp only
  split
  · rename_i none
    exact ⟨nofun, fun sound => absurd none sound.memory⟩
  rename_i some
  split
  · rename_i low
    have slow : c.timerFrequency.toNat < 1000 := UInt64.lt_iff_toNat_lt.mp low
    exact ⟨nofun, fun sound => absurd sound.frequency (Nat.not_le.mpr slow)⟩
  rename_i high
  have fast : 1000 ≤ c.timerFrequency.toNat :=
    Nat.not_lt.mp fun low => high (UInt64.lt_iff_toNat_lt.mpr low)
  change (checkBounds c.claims >>= fun _ => checkDisjoint c.claims >>= fun _ =>
    checkQueueSizes c.queueSizes >>= fun _ => checkInterrupts c.interrupts) = _ ↔ _
  rw [andThen_eq_ok, andThen_eq_ok, andThen_eq_ok, checkBounds_claims, checkDisjoint_claims some,
    checkQueueSizes_queues, checkInterrupts_lines]
  exact ⟨fun ⟨bounded, apart, queues, shared, own⟩ => ⟨some, fast, bounded, apart, queues, shared,
    own⟩, fun sound => ⟨sound.bounded, sound.apart, sound.queues, sound.shared, sound.own⟩⟩

end MachineConfig

namespace Machine

def Placement.slot (p : Placement) : Slot MachineDevice := ⟨p.window, p.device⟩

-- A placement that no bus refuses for its own sake.
structure Placement.Proper (p : Placement) : Prop where
  real : p.window.len ≠ 0
  fits : p.window.Fits
  listed : ∀ n, p.line = some n → n < Gic.numLines

-- Two placements that share no address and no line.
structure Placement.Beside (p q : Placement) : Prop where
  apart : p.window.Apart q.window
  lines : ∀ n, p.line = some n → q.line ≠ some n

-- Placements that can all be made, one after the other.
structure Fitting (placements : List Placement) : Prop where
  proper : ∀ p ∈ placements, p.Proper
  beside : placements.Pairwise Placement.Beside

-- What was placed has its window to itself, and hears about its line.
structure Laid (placed : List Placement) (bus : Bus MachineDevice) (gic : Gic) : Prop where
  tiled : Bus.Tiled bus.slots
  slots : bus.slots.Perm (placed.map Placement.slot)
  heard : ∀ p ∈ placed, ∀ n, p.line = some n →
    gic.handlerOf n = some (.device p.window.base)

variable {placed later : List Placement} {p : Placement} {bus : Bus MachineDevice} {gic : Gic}

theorem Fitting.earlier (fitting : Fitting (placed ++ later)) : Fitting placed :=
  ⟨fun p given => fitting.proper p (List.mem_append_left _ given),
    (List.pairwise_append.mp fitting.beside).1⟩

theorem empty_laid (gic : Gic) : Laid [] .empty gic := ⟨Bus.empty_tiled, .refl _, nofun⟩

theorem place_laid (laid : Laid placed bus gic) (fitting : Fitting (placed ++ [p])) :
    ∃ bus' gic', place p bus gic = .ok (bus', gic') ∧ Laid (placed ++ [p]) bus' gic' := by
  have proper := fitting.proper p (List.mem_append_right _ List.mem_cons_self)
  have beside : ∀ q ∈ placed, q.Beside p := fun q given =>
    (List.pairwise_append.mp fitting.beside).2.2 q given p List.mem_cons_self
  have room : Bus.Admits bus.slots p.slot := by
    refine ⟨proper.real, fun t here => ?_⟩
    obtain ⟨q, given, rfl⟩ := List.mem_map.mp (laid.slots.mem_iff.mp here)
    exact (beside q given).apart.symm
  have inserted : bus.insert p.device p.window =
      .ok ⟨Bus.place p.window p.device bus.slots⟩ := by
    rcases Bus.insert_parts (s := p.slot) laid.tiled proper.fits with ⟨_, done⟩ | ⟨full, _⟩
    · exact done
    · exact absurd room full
  have done : ∃ gic', place p bus gic =
      .ok (⟨Bus.place p.window p.device bus.slots⟩, gic') := by
    unfold place
    rw [inserted]
    exact ⟨_, rfl⟩
  obtain ⟨gic', done⟩ := done
  obtain ⟨perm, tiled⟩ := Bus.place_tiled (s := p.slot) laid.tiled proper.fits room
  refine ⟨_, gic', done, tiled, ?_, fun q given n named => ?_⟩
  · rw [List.map_append]
    exact perm.trans ((laid.slots.cons p.slot).trans (List.perm_append_singleton ..).symm)
  rw [(place_parts done).2]
  rcases List.mem_append.mp given with old | new
  · have heard := laid.heard q old n named
    split
    · rename_i k ours
      rw [Gic.setHandler_handlerOf_other, heard]
      rintro rfl
      exact (beside q old).lines n named ours
    · exact heard
  · cases List.mem_singleton.mp new
    rw [named]
    exact Gic.setHandler_handlerOf_self _ (proper.listed n named)

-- A device that is in the layout, as far as the host supplies what it needs.
def optional {κ : Type} (make : κ → Sink → Placement) (config : Option κ) (sink : Option Sink) :
    List Placement :=
  match config, sink with
  | some c, some sink => [make c sink]
  | _, _ => []

def Supplied {κ : Type} (config : Option κ) (sink : Option Sink) : Prop :=
  config.isSome → sink.isSome

theorem placeOptional_laid {κ : Type} {make : κ → Sink → Placement} {missing : BuildError}
    {config : Option κ} {sink : Option Sink} (laid : Laid placed bus gic)
    (fitting : Fitting (placed ++ optional make config sink)) :
    (placeOptional make missing config sink bus gic = .error missing ∧ ¬ Supplied config sink) ∨
      ∃ bus' gic', placeOptional make missing config sink bus gic = .ok (bus', gic') ∧
        Supplied config sink ∧ Laid (placed ++ optional make config sink) bus' gic' := by
  cases config with
  | none =>
      refine .inr ⟨bus, gic, rfl, nofun, ?_⟩
      rw [show optional make none sink = [] from rfl, List.append_nil]
      exact laid
  | some c =>
      cases sink with
      | none => exact .inl ⟨rfl, fun supplied => nomatch supplied rfl⟩
      | some sink =>
          obtain ⟨bus', gic', done, laid'⟩ := place_laid laid fitting
          exact .inr ⟨bus', gic', done, fun _ => rfl, laid'⟩

theorem optional_supplied {κ α : Type} (make : κ → Sink → Placement) (f : Placement → α)
    (g : κ → α) (own : ∀ c sink, f (make c sink) = g c) {config : Option κ} {sink : Option Sink}
    (supplied : Supplied config sink) :
    (optional make config sink).map f = config.toList.map g := by
  cases config with
  | none => rfl
  | some c =>
      obtain ⟨sink, rfl⟩ := Option.isSome_iff_exists.mp (supplied rfl)
      exact congrArg (fun a => [a]) (own c sink)

theorem optional_sublist {κ α : Type} (make : κ → Sink → Placement) (f : Placement → α)
    (g : κ → α) (own : ∀ c sink, f (make c sink) = g c) (config : Option κ)
    (sink : Option Sink) : ((optional make config sink).map f).Sublist (config.toList.map g) := by
  by_cases supplied : Supplied config sink
  · rw [optional_supplied make f g own supplied]
  · obtain ⟨_, missing⟩ := Classical.not_imp.mp supplied
    rw [Bool.not_eq_true, Option.isSome_eq_false_iff, Option.isNone_iff_eq_none] at missing
    rw [missing, show optional make config none = [] by cases config <;> rfl]
    exact List.nil_sublist _

section Placements

variable {η : Type} (c : MachineConfig) (backends : Backends η)

def placements : List Placement :=
  [distributorPlacement c, uartPlacement c.uart backends.uart] ++
    optional consolePlacement c.console backends.console ++
    optional netPlacement c.net backends.net

theorem placements_windows :
    ((placements c backends).map (·.window)).Sublist c.deviceWindows := by
  rw [placements, List.map_append, List.map_append, List.append_assoc]
  refine .append (.refl [_, _]) (.append ?_ ?_)
  · exact optional_sublist consolePlacement (·.window) _ (fun _ _ => rfl) ..
  · exact optional_sublist netPlacement (·.window) _ (fun _ _ => rfl) ..

theorem placements_lines :
    ((placements c backends).map (·.line)).Sublist (none :: c.lines.map some) := by
  have lines : none :: c.lines.map some = [none, some c.uart.irq.toNat] ++
      (c.console.toList.map (some ·.irq.toNat) ++ c.net.toList.map (some ·.irq.toNat)) := by
    simp [MachineConfig.lines, Function.comp_def]
  rw [placements, List.map_append, List.map_append, List.append_assoc, lines]
  refine .append (.refl [_, _]) (.append ?_ ?_)
  · exact optional_sublist consolePlacement (·.line) _ (fun _ _ => rfl) ..
  · exact optional_sublist netPlacement (·.line) _ (fun _ _ => rfl) ..

end Placements

variable {η : Type} {c : MachineConfig} {backends : Backends η}

theorem placements_supplied (console : Supplied c.console backends.console)
    (net : Supplied c.net backends.net) :
    (placements c backends).map (·.window) = c.deviceWindows := by
  rw [placements, List.map_append, List.map_append, List.append_assoc,
    optional_supplied consolePlacement (·.window) _ (fun _ _ => rfl) console,
    optional_supplied netPlacement (·.window) _ (fun _ _ => rfl) net]
  rfl

theorem placements_fitting (sound : c.Sound) (backends : Backends η) :
    Fitting (placements c backends) := by
  have windows := placements_windows c backends
  have lines := placements_lines c backends
  have alone : (none :: c.lines.map some).Pairwise
      fun k l : Option Nat => ∀ n, k = some n → l ≠ some n := by
    refine List.pairwise_cons.mpr ⟨fun _ _ => nofun, List.pairwise_map.mpr ?_⟩
    exact sound.own.imp fun differ n one two => differ (Option.some.inj (one.trans two.symm))
  have apart := List.pairwise_map.mp ((List.pairwise_cons.mp sound.apart).2.sublist windows)
  refine ⟨fun p given => ?_, apart.imp₂ (fun _ _ apart lines => ⟨apart, lines⟩)
    (List.pairwise_map.mp (alone.sublist lines))⟩
  have device := windows.subset (List.mem_map_of_mem given)
  have line := lines.subset (List.mem_map_of_mem given)
  obtain ⟨real, short⟩ := MachineConfig.deviceWindows_real _ device
  refine ⟨real, ⟨sound.bounded _ (List.mem_cons_of_mem _ device), short⟩, fun n named => ?_⟩
  rw [named] at line
  have own : n ∈ c.lines := by simpa using line
  exact Nat.lt_of_le_of_lt (sound.shared n own).2 (by decide)

section New

variable {ν τ : Type} [VcpuSession ν]

-- The ways in which the host can fail to supply what a layout asks for.
inductive Unsupplied [Host] (c : MachineConfig) (vcpu : ν) (hostTimer : Except HostError τ)
    (backends : Backends η) : BuildError → Prop
  | memory {cause : MemoryError}
      (refused : GuestMemory.new [(c.memoryBase, c.memorySize)] = .error cause) :
      Unsupplied c vcpu hostTimer backends (.memory cause)
  | hostTimer {cause : HostError} (refused : hostTimer = .error cause) :
      Unsupplied c vcpu hostTimer backends (.hostTimer cause)
  | register {name : String}
      (unknown : SysReg.setUp c.overrides.toList (VcpuSession.state vcpu) = .error name) :
      Unsupplied c vcpu hostTimer backends (.cpu (.unknownRegisterName name))
  | output (missing : ¬ Supplied c.console backends.console) :
      Unsupplied c vcpu hostTimer backends .noOutput
  | backend (missing : ¬ Supplied c.net backends.net) :
      Unsupplied c vcpu hostTimer backends .noBackend

theorem new_ends [Host] (sound : c.Sound) (vcpu : ν) (hostTimer : Except HostError τ)
    (backends : Backends η) :
    (∃ e, Machine.new c vcpu hostTimer backends = .error e ∧
      Unsupplied c vcpu hostTimer backends e) ∨
    ∃ m, Machine.new c vcpu hostTimer backends = .ok m ∧
      Laid (placements c backends) m.platform.bus m.platform.board.gic ∧
      Supplied c.console backends.console ∧ Supplied c.net backends.net := by
  have fitting := placements_fitting sound backends
  have ticks : c.timerFrequency / 1000 ≠ 0 := fun zero => by
    have quotient := congrArg UInt64.toNat zero
    have bound := sound.frequency
    rw [UInt64.toNat_div, show (1000 : UInt64).toNat = 1000 from rfl,
      show (0 : UInt64).toNat = 0 from rfl] at quotient
    omega
  -- The distributor and the UART always find their place; what comes before and after them depends
  -- on the host.
  obtain ⟨bus₁, gic₁, distributor, laid₁⟩ := place_laid
    (empty_laid (Gic.initial.apply (.setHandler Gic.timerLine .timer)))
    fitting.earlier.earlier.earlier
  obtain ⟨bus₂, gic₂, uart, laid₂⟩ := place_laid laid₁ fitting.earlier.earlier
  unfold Machine.new VirtualTimer.new
  simp only [MachineConfig.validate_iff.mpr sound, if_neg ticks]
  cases memory : GuestMemory.new [(c.memoryBase, c.memorySize)] with
  | error cause => exact .inl ⟨_, rfl, .memory memory⟩
  | ok mapped =>
  cases timer : hostTimer with
  | error cause => exact .inl ⟨_, rfl, .hostTimer rfl⟩
  | ok host =>
  cases registers : SysReg.setUp c.overrides.toList (VcpuSession.state vcpu) with
  | error name => exact .inl ⟨_, rfl, .register registers⟩
  | ok state =>
  simp only [Except.mapError, bind, Except.bind, distributor, uart, placeConsole_optional,
    placeNet_optional]
  rcases placeOptional_laid laid₂ fitting.earlier with
    ⟨failed, missing⟩ | ⟨bus₃, gic₃, console, supplied, laid₃⟩
  · rw [failed]
    exact .inl ⟨_, rfl, .output missing⟩
  rw [console]
  dsimp only
  rcases placeOptional_laid laid₃ fitting with
    ⟨failed, missing⟩ | ⟨bus₄, gic₄, net, supplied', laid₄⟩
  · rw [failed]
    exact .inl ⟨_, rfl, .backend missing⟩
  · rw [net]
    exact .inr ⟨_, rfl, laid₄, supplied, supplied'⟩

-- Every address of a device leads to that device.
theorem Laid.owned (laid : Laid placed bus gic) (given : p ∈ placed) {address : UInt64}
    (inside : p.window.Covers address.toNat) :
    bus.slotFor? address = some p.slot ∧ ∀ direction, bus.route address .byte direction =
      .ok (.ok (p.slot, ⟨address - p.window.base, address, .byte⟩)) := by
  have here : p.slot ∈ bus.slots := laid.slots.mem_iff.mpr (List.mem_map_of_mem given)
  have holds : p.slot.window.Holds address .byte := Window.holds_iff.mpr inside
  exact ⟨Bus.slotFor_covers laid.tiled here inside, fun _ =>
    Bus.route_owner (Nat.mod_one _) laid.tiled here holds⟩

theorem Laid.unowned (laid : Laid placed bus gic) {address : UInt64}
    (nobody : ∀ p ∈ placed, ¬ p.window.Covers address.toNat) :
    bus.slotFor? address = none ∧ ∀ width direction, ∃ e,
      bus.route address width direction = .ok (.error e) := by
  have free : ∀ s ∈ bus.slots, ¬ s.window.Covers address.toNat := fun s here => by
    obtain ⟨p, given, rfl⟩ := List.mem_map.mp (laid.slots.mem_iff.mp here)
    exact nobody p given
  refine ⟨Option.eq_none_iff_forall_ne_some.mpr fun s found => ?_, fun width direction => ?_⟩
  · obtain ⟨here, inside⟩ := Bus.slotFor_parts laid.tiled found
    exact free s here inside
  by_cases aligned : address.toNat % width.bytes = 0
  · refine ⟨_, Bus.route_ownerless aligned laid.tiled fun s here holds => ?_⟩
    exact free s here (holds _ (Nat.le_refl _) (Nat.lt_add_of_pos_right width.bytes_pos))
  · exact ⟨_, Bus.route_misaligned aligned⟩

-- A machine in which every address leads where the layout says.
structure Routed (c : MachineConfig) (backends : Backends η) (m : Machine ν τ η) : Prop where
  windows : (placements c backends).map (·.window) = c.deviceWindows
  slots : m.platform.bus.slots.Perm ((placements c backends).map Placement.slot)
  devices : ∀ p ∈ placements c backends, ∀ address : UInt64, p.window.Covers address.toNat →
    m.platform.bus.slotFor? address = some p.slot ∧
    ∀ direction, m.platform.bus.route address .byte direction =
      .ok (.ok (p.slot, ⟨address - p.window.base, address, .byte⟩))
  memory : ∀ address : UInt64, c.memoryWindow.Covers address.toNat →
    m.platform.bus.slotFor? address = none ∧
    ∀ width direction, ∃ e, m.platform.bus.route address width direction = .ok (.error e)
  heard : ∀ p ∈ placements c backends, ∀ n, p.line = some n →
    m.platform.board.gic.handlerOf n = some (.device p.window.base)

-- The layouts that pass the checks are the sound ones, and a sound one can be built as soon as the
-- host supplies what it asks for: neither the bus nor the timer has anything against it.
theorem layout_routed [Host] (c : MachineConfig) (vcpu : ν) (hostTimer : Except HostError τ)
    (backends : Backends η) :
    (c.validate = .ok () ↔ c.Sound) ∧ (c.Sound →
      (∀ e, Machine.new c vcpu hostTimer backends = .error e →
        Unsupplied c vcpu hostTimer backends e) ∧
      ∀ m, Machine.new c vcpu hostTimer backends = .ok m → Routed c backends m) := by
  refine ⟨MachineConfig.validate_iff, fun sound => ?_⟩
  rcases new_ends sound vcpu hostTimer backends with
    ⟨e, failed, missing⟩ | ⟨m, built, laid, console, net⟩
  · rw [failed]
    exact ⟨fun _ same => Except.error.inj same ▸ missing, nofun⟩
  rw [built]
  refine ⟨nofun, fun _ same => Except.ok.inj same ▸ ?_⟩
  refine ⟨placements_supplied console net, laid.slots, fun p given _ => laid.owned given,
    fun address inside => laid.unowned fun p given => ?_, laid.heard⟩
  have device : p.window ∈ c.deviceWindows :=
    (placements_windows c backends).subset (List.mem_map_of_mem given)
  exact (List.pairwise_cons.mp sound.apart).1 _ device _ inside

end New

-- Memory and four devices, wall to wall.
def crowded : MachineConfig where
  memoryBase := 0x40000000
  memorySize := 0x8000000
  distributorBase := 0x3fffe000
  timerFrequency := 1000
  uart := ⟨0x3ffff000, 32⟩
  console := some ⟨0x48000000, 1019, 1⟩
  net := some ⟨0x48000200, 33, 32768, ⟨[2, 0, 0, 0, 0, 1], rfl⟩⟩
  overrides := {}
  log := "info"

theorem layout_routed_crowded :
    crowded.validate = .ok () ∧ ∃ m : Machine StillVcpu WallTimer NoHypercalls,
      Machine.new crowded (StillVcpu.new .initial) (.ok .new)
        ⟨.accepting, some .accepting, some .accepting, .mk⟩ = .ok m ∧
      m.platform.bus.slotFor? 0x3fffffff = some (uartPlacement crowded.uart .accepting).slot ∧
      m.platform.bus.slotFor? 0x40000000 = none ∧
      m.platform.board.gic.handlerOf 1019 = some (.device 0x48000000) := by
  obtain ⟨accepts, built⟩ := layout_routed crowded (StillVcpu.new .initial)
    (.ok WallTimer.new) ⟨.accepting, some .accepting, some .accepting, NoHypercalls.mk⟩
  have valid : crowded.validate = .ok () := by decide
  obtain ⟨failed, routed⟩ := built (accepts.mp valid)
  have supplied : (GuestMemory.new [(crowded.memoryBase, crowded.memorySize)]).toOption.isSome ∧
      (SysReg.setUp crowded.overrides.toList VcpuState.initial).toOption.isSome := by
    decide +kernel
  cases ends : Machine.new crowded (StillVcpu.new .initial) (.ok WallTimer.new)
    ⟨.accepting, some .accepting, some .accepting, NoHypercalls.mk⟩ with
  | error e =>
      cases failed e ends with
      | memory refused => rw [refused] at supplied; cases supplied.1
      | hostTimer refused => cases refused
      | register unknown =>
          have known := supplied.2
          rw [show SysReg.setUp crowded.overrides.toList VcpuState.initial = _ from unknown]
            at known
          cases known
      | output missing => exact absurd (fun _ => rfl) missing
      | backend missing => exact absurd (fun _ => rfl) missing
  | ok m =>
      have layout := routed m ends
      refine ⟨valid, m, rfl, (layout.devices _ ?_ _ ?_).1, (layout.memory _ ?_).1,
        layout.heard (consolePlacement ⟨0x48000000, 1019, 1⟩ .accepting) ?_ 1019 rfl⟩
      · exact List.mem_append_left _ (List.mem_append_left _ (List.mem_pair.mpr (.inr rfl)))
      · exact ⟨by decide, by decide⟩
      · exact ⟨by decide, by decide⟩
      · exact List.mem_append_left _ (List.mem_append_right _ List.mem_cons_self)

end Machine

end VmMonitor
