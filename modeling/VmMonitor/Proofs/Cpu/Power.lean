import VmMonitor.Proofs.Cpu.Refused
import VmMonitor.Proofs.Cpu.Trap

/-!
The power interface. A function goes by one number or by two, one for each calling convention, and
all of its numbers are set aside for the interface. The feature query owns up to just those that are
ever answered. A call under a number of the 32-bit convention does not look at the upper halves of its
arguments, unless it asks for an affinity.
-/

namespace VmMonitor

open Bits

namespace Psci

variable {id : UInt32} {f : Function} {x x' y y' : UInt64}

-- The numbers that stand for a function.
def Function.ids : Function → List UInt32
  | version => [0x84000000]
  | cpuSuspend => [0x84000001, 0xc4000001]
  | cpuOff => [0x84000002]
  | cpuOn => [0x84000003, 0xc4000003]
  | affinityInfo => [0x84000004, 0xc4000004]
  | migrateInfoType => [0x84000006]
  | systemOff => [0x84000008]
  | systemReset => [0x84000009]
  | features => [0x8400000a]

theorem ofId?_iff : Function.ofId? id = some f ↔ id ∈ f.ids := by
  constructor
  · intro named
    unfold Function.ofId? at named
    cases f <;> grind [Function.ids]
  · intro listed
    have known : f.ids.all (Function.ofId? · = some f) = true := by cases f <;> decide
    exact of_decide_eq_true (List.all_eq_true.mp known id listed)

theorem ids_inRange (named : Function.ofId? id = some f) : inRange id = true := by
  have inside : f.ids.all inRange = true := by cases f <;> decide
  exact List.all_eq_true.mp inside id (ofId?_iff.mp named)

-- The functions that are there for more than to be refused.
def Function.answered : Function → Bool
  | version | affinityInfo | migrateInfoType | systemOff | systemReset | features => true
  | cpuSuspend | cpuOff | cpuOn => false

-- The list of the feature query has just the numbers of these.
theorem supported_answered (id : UInt32) :
    supported id = (Function.ofId? id).any Function.answered := by
  cases named : Function.ofId? id with
  | none =>
      unfold Function.ofId? at named
      grind [supported]
  | some f =>
      have listed : f.ids.all (supported · = f.answered) = true := by cases f <;> decide
      exact of_decide_eq_true (List.all_eq_true.mp listed id (ofId?_iff.mp named))

theorem supported_inRange (owned : supported id = true) : inRange id = true := by
  rw [supported_answered] at owned
  obtain ⟨f, named, _⟩ := (Option.any_eq_true ..).mp owned
  exact ids_inRange named

-- What is owned up to is what some call gets an answer from.
theorem supported_iff : supported id = true ↔ ∃ x y, call id x y ≠ .value notSupported := by
  rw [supported_answered]
  unfold call
  cases Function.ofId? id with
  | none => simp
  | some f =>
      cases f with
      | cpuSuspend | cpuOff | cpuOn => simp [Function.answered]
      | version | affinityInfo | migrateInfoType | systemOff | systemReset =>
          exact ⟨fun _ => ⟨0, 0, by decide⟩, fun _ => rfl⟩
      | features => exact ⟨fun _ => ⟨0x84000000, 0, by decide⟩, fun _ => rfl⟩

theorem call_features (x y : UInt64) :
    call 0x8400000a x y = .value (if supported x.toUInt32 then success else notSupported) := rfl

end Psci

-- The exit stands for a call of this function.
def VcpuState.Calls (s : VcpuState) (id : UInt32) : Prop :=
  s.vector = 0x400 ∧ field s.esr.toNat 26 6 = 0x16 ∧ (s.reg 0).toUInt32 = id

namespace Platform

variable {δ τ η : Type} {p : Platform δ τ η} {s : VcpuState} {id : UInt32}

-- What comes of a call within the power interface. No handler has a part in it.
def powered (p : Platform δ τ η) (s : VcpuState) (id : UInt32) : Exited δ τ η TrapOutcome :=
  let p := { p with board := p.board.logAll (Psci.complaints id) }
  match Psci.call id (s.reg 1) (s.reg 2) with
  | .value v => ⟨.ok .resume, s.setReg 0 v.toUInt64, p⟩
  | .power event => ⟨.ok (.shutdown event), s, p⟩

theorem powered_hypercalls (p : Platform δ τ η) (s : VcpuState) (id : UInt32) :
    (p.powered s id).platform.hypercalls = p.hypercalls := by
  unfold powered
  dsimp only
  split <;> rfl

theorem handleExit_powered [BusDevice δ] [HostTimer τ] [HypercallHandler η] (calls : s.Calls id)
    (inside : Psci.inRange id = true) : p.handleExit s = .ok (p.powered s id) := by
  obtain ⟨taken, code, named⟩ := calls
  have trapped : s.syndrome.class? = some .hypercall := VcpuState.class?_of_code code
  rw [handleExit_synchronous taken]
  unfold synchronous
  rw [trapped]
  change Except.ok (p.hypercall s) = _
  unfold hypercall powered
  rw [named]
  dsimp only
  cases Psci.call id (s.reg 1) (s.reg 2) <;> exact congrArg Except.ok (if_pos inside)

end Platform

namespace Psci

variable {id : UInt32} {f : Function} {x x' y y' : UInt64}

-- The feature query tells what can be called, and what it owns up to is answered here: the handler
-- of the other hypercalls does not see such a call, whatever handler it is.
theorem features_discover {f : UInt32} (asked : x.toUInt32 = f) (y : UInt64) :
    (call 0x8400000a x y = .value success ↔ ∃ x' y', call f x' y' ≠ .value notSupported) ∧
    (call 0x8400000a x y = .value notSupported ↔ ∀ x' y', call f x' y' = .value notSupported) ∧
    (call 0x8400000a x y = .value success → inRange f = true ∧
      ∀ {δ τ η : Type} [BusDevice δ] [HostTimer τ] (p : Platform δ τ η) (s : VcpuState),
        s.Calls f → ∃ r, r.platform.hypercalls = p.hypercalls ∧
          ∀ [HypercallHandler η], p.handleExit s = .ok r) := by
  subst asked
  have unowned : supported x.toUInt32 = false ↔
      ∀ x' y', call x.toUInt32 x' y' = .value notSupported := by
    rw [← Bool.not_eq_true, supported_iff]
    simp only [ne_eq, not_exists, not_not]
  rw [call_features]
  cases owned : supported x.toUInt32 with
  | false =>
      have silent := unowned.mp owned
      refine ⟨⟨fun same => absurd same (by decide), ?_⟩, ⟨fun _ => silent, fun _ => rfl⟩,
        fun same => absurd same (by decide)⟩
      rintro ⟨x', y', answered⟩
      exact absurd (silent x' y') answered
  | true =>
      have inside := supported_inRange owned
      refine ⟨⟨fun _ => supported_iff.mp owned, fun _ => rfl⟩, ⟨fun same => absurd same (by decide),
        fun silent => ?_⟩, fun _ => ⟨inside, fun p s calls => ?_⟩⟩
      · obtain ⟨x', y', answered⟩ := supported_iff.mp owned
        exact absurd (silent x' y') answered
      · exact ⟨p.powered s _, p.powered_hypercalls s _, Platform.handleExit_powered calls inside⟩

-- A guest that turns the machine off, after it has found out that it can.
def turningOff : VcpuState :=
  { VcpuState.initial with vector := 0x400, esr := 0x5a000000 }.setReg 0 0x84000008

theorem features_discover_off :
    (0xffffffff84000008 : UInt64).toUInt32 = 0x84000008 ∧
    call 0x8400000a 0xffffffff84000008 7 = .value success ∧
    (∃ x y, call 0x84000008 x y ≠ .value notSupported) ∧ inRange 0x84000008 = true ∧
    turningOff.Calls 0x84000008 ∧
    ∃ r, (Platform.bare SimulatedTimer.new).handleExit turningOff = .ok r ∧
      r.platform.hypercalls = .mk := by
  have asked : (0xffffffff84000008 : UInt64).toUInt32 = 0x84000008 := by decide
  obtain ⟨owned, _, answered⟩ := features_discover asked 7
  have success : call 0x8400000a 0xffffffff84000008 7 = .value success := by decide
  obtain ⟨inside, exits⟩ := answered success
  have calls : turningOff.Calls 0x84000008 := ⟨by decide, by decide, by decide⟩
  obtain ⟨r, kept, runs⟩ := exits (Platform.bare SimulatedTimer.new) turningOff calls
  exact ⟨asked, success, owned.mp success, inside, calls, r, runs, kept⟩

-- Only affinity zero is on. Its three lower levels are in the low half of an argument, and the fourth
-- is the lowest byte of the upper half.
theorem affinity_zero (x : UInt64) :
    x &&& affinityMask = 0 ↔ field x.toNat 0 24 = 0 ∧ field x.toNat 32 8 = 0 := by
  have parts : affinityMask.toNat = ((2 ^ 24 - 1) <<< 0) ||| ((2 ^ 8 - 1) <<< 32) := by decide
  have split : (x &&& affinityMask).toNat =
      field x.toNat 0 24 * 2 ^ 0 ||| field x.toNat 32 8 * 2 ^ 32 := by
    rw [UInt64.toNat_and, parts, Nat.and_or_distrib_left, and_shifted, and_shifted]
  rw [← UInt64.toNat_inj, split, UInt64.toNat_zero, Nat.or_eq_zero_iff]
  simp

theorem call_affinity (named : Function.ofId? id = some .affinityInfo) (x y : UInt64) :
    call id x y = .value (if field x.toNat 0 24 = 0 ∧ field x.toNat 32 8 = 0 then affinityOn
      else invalidParameters) := by
  unfold call
  rw [named]
  simp only [affinity_zero]

-- No other function looks above the low half of its first argument, or at the second one at all.
theorem call_low (other : Function.ofId? id ≠ some .affinityInfo) (low : x.toUInt32 = x'.toUInt32)
    (y y' : UInt64) : call id x y = call id x' y' := by
  unfold call
  split
  case h_4 named => exact absurd named other
  case h_3 => rw [low]
  all_goals rfl

-- Two calls by a number of the 32-bit convention whose arguments agree in their low halves have the
-- same answer. But the affinity query reads the fourth affinity level from the upper half, so that
-- there the answers are the same just if that does not decide.
theorem narrow_call (narrow : id.toNat.testBit 30 = false) (low : x.toUInt32 = x'.toUInt32)
    (y y' : UInt64) :
    (id ≠ 0x84000004 → call id x y = call id x' y') ∧
    (id = 0x84000004 →
      call id x y = .value (if field x.toNat 0 24 = 0 ∧ field x.toNat 32 8 = 0 then affinityOn
        else invalidParameters) ∧
      (call id x y = call id x' y' ↔
        (field x.toNat 0 24 = 0 → (field x.toNat 32 8 = 0 ↔ field x'.toNat 32 8 = 0)))) := by
  constructor
  · intro other
    refine call_low (fun named => ?_) low y y'
    rcases List.mem_cons.mp (ofId?_iff.mp named) with short | long
    · exact other short
    · cases List.mem_singleton.mp long
      exact absurd narrow (by decide)
  · rintro rfl
    have named : Function.ofId? 0x84000004 = some .affinityInfo := rfl
    have same : field x.toNat 0 24 = field x'.toNat 0 24 := by
      have halves := congrArg UInt32.toNat low
      rw [UInt64.toNat_toUInt32, UInt64.toNat_toUInt32] at halves
      rw [← field_low (k := 32) (by decide), halves, field_low (by decide)]
    refine ⟨call_affinity named x y, ?_⟩
    rw [call_affinity named, call_affinity named, ← same]
    by_cases level : field x.toNat 0 24 = 0
    · by_cases on : field x.toNat 32 8 = 0 <;> by_cases on' : field x'.toNat 32 8 = 0 <;>
        simp [level, on, on', affinityOn, invalidParameters]
    · simp [level]

theorem narrow_call_query :
    (0x8400000a : UInt32).toNat.testBit 30 = false ∧
    (0x84000008 : UInt64).toUInt32 = (0xffffffff84000008 : UInt64).toUInt32 ∧
    call 0x8400000a 0x84000008 0 = call 0x8400000a 0xffffffff84000008 0x500000000 := by
  have narrow : (0x8400000a : UInt32).toNat.testBit 30 = false := by decide
  have low : (0x84000008 : UInt64).toUInt32 = (0xffffffff84000008 : UInt64).toUInt32 := by decide
  exact ⟨narrow, low, (narrow_call narrow low 0 0x500000000).1 (by decide)⟩

-- A bit of the upper half turns the answer of the 32-bit affinity query.
theorem affinity_upper_half :
    ¬ ∀ (id : UInt32) (x x' y y' : UInt64), id.toNat.testBit 30 = false →
      x.toUInt32 = x'.toUInt32 → y.toUInt32 = y'.toUInt32 → call id x y = call id x' y' := by
  intro same
  exact absurd (same 0x84000004 0x100000000 0 0 0 (by decide) (by decide) rfl) (by decide)

end Psci

end VmMonitor
