import VmMonitor.Proofs.Device.PowerOn
import VmMonitor.Proofs.Strict.Controller
import VmMonitor.Proofs.Strict.Registers

/-!
The distributor with every operation checked. What an offset names is told from its distance to the
start of a bank, and a register holds at most 32 lines; so no bit or byte of it lies outside of the
word, and the lines of the last bank end well within 32 bits.
-/

namespace VmMonitor

open Checked

namespace Distributor

-- The first line of the register at `offset`, in a bank from `base` on with `bits` bits a line.
def strictFirst (offset base bits : Nat) : Checked Nat := do
  return (← product 64 (← subNat offset base) 8) / bits

def Bank.strictOf (offset : Nat) : Checked Bank :=
  if offset = 0x0 ∨ offset = 0x4 ∨ offset = 0x8 then .ok .plain
  else if 0xfd0 ≤ offset ∧ offset ≤ 0xfff then .ok .plain
  else if 0x80 ≤ offset ∧ offset < 0x100 then .ok .group
  else if 0x100 ≤ offset ∧ offset < 0x180 then (strictFirst offset 0x100 1).map .setEnable
  else if 0x180 ≤ offset ∧ offset < 0x200 then (strictFirst offset 0x180 1).map .clearEnable
  else if 0x200 ≤ offset ∧ offset < 0x280 then (strictFirst offset 0x200 1).map .setPending
  else if 0x280 ≤ offset ∧ offset < 0x300 then (strictFirst offset 0x280 1).map .clearPending
  else if 0x300 ≤ offset ∧ offset < 0x380 then (strictFirst offset 0x300 1).map .setActive
  else if 0x380 ≤ offset ∧ offset < 0x400 then (strictFirst offset 0x380 1).map .clearActive
  else if 0x400 ≤ offset ∧ offset < 0x800 then (strictFirst offset 0x400 8).map .priority
  else if 0x800 ≤ offset ∧ offset < 0xc00 then (strictFirst offset 0x800 8).map .target
  else if 0xc00 ≤ offset ∧ offset < 0xd00 then (strictFirst offset 0xc00 2).map .trigger
  else if offset = 0xf00 then .ok .software
  else if 0xf10 ≤ offset ∧ offset < 0xf30 then .ok .software
  else .ok .unknown

-- The bits of a register, of which the lines from `first` on have one each.
def strictReadBits (g : Gic) (first : Nat) (p : Gic.Line → Bool) : Checked UInt64 :=
  (List.range 32).foldlM (fun acc i => do
    let line ← g.strictLine? (← sum 32 first i)
    if line.any p then return acc ||| (← shiftLeft 1 i) else return acc) 0

def strictReadBytes (g : Gic) (first count : Nat) (f : Gic.Line → UInt8) : Checked UInt64 :=
  (List.range count).foldlM (fun acc i => do
    let line ← g.strictLine? (← sum 32 first i)
    return acc ||| (← shiftLeft (line.elim 0 f).toUInt64 (← product 64 8 i))) 0

def strictReadTriggers (g : Gic) (first : Nat) : Checked UInt64 :=
  if Gic.Kind.of first = .software then .ok softwareTriggers
  else (List.range 16).foldlM (fun acc i => do
    let line ← g.strictLine? (← sum 32 first i)
    if line.any (·.trigger = .edge) then return acc ||| (← shiftLeft 2 (← product 32 2 i))
    else return acc) 0

def Bank.strictLineValue (bank : Bank) (g : Gic) (width : Width) : Checked UInt64 :=
  match bank with
  | .setEnable first | .clearEnable first => strictReadBits g first (·.enabled)
  | .setPending first | .clearPending first => strictReadBits g first (·.state.isPending)
  | .setActive first | .clearActive first => strictReadBits g first (·.state.isActive)
  | .priority first => strictReadBytes g first width.bytes (·.priority)
  | .target first => strictReadBytes g first width.bytes lineTarget
  | .trigger first => strictReadTriggers g first
  | .plain | .group | .software | .unknown => .ok 0

-- What a register asks of each of the lines it holds.
def strictRequests (count : Nat) (pick : Nat → Checked (Option Gic.Request)) (b : Board) :
    Checked Board :=
  (List.range count).foldlM (fun b i => do
    match ← pick i with
    | some r => b.strictRequest r
    | none => return b) b

-- A request for the line `first + i`, if there is that line and it is one of the `wanted`.
def strictPick (first i : Nat) (wanted : Nat → Bool) (r : Nat → Gic.Request) :
    Checked (Option Gic.Request) := do
  let n ← sum 32 first i
  return if wanted n && n < Gic.numLines then some (r n) else none

def strictPickBit (first : Nat) (value : UInt64) (r : Nat → Gic.Request) (i : Nat) :
    Checked (Option Gic.Request) := do
  let set := value &&& (← shiftLeft 1 i) != 0
  strictPick first i (fun _ => set) r

def strictPickByte (first : Nat) (value : UInt64) (wanted : Nat → Bool)
    (r : Nat → UInt8 → Gic.Request) (i : Nat) : Checked (Option Gic.Request) := do
  let byte ← shiftRight value (← product 32 8 i)
  strictPick first i wanted fun n => r n byte.toUInt8

def strictPickTrigger (first : Nat) (value : UInt64) (i : Nat) :
    Checked (Option Gic.Request) := do
  let set := value &&& (← shiftLeft 2 (← product 32 2 i)) != 0
  strictPick first i (fun _ => true) fun n => .setTrigger n (if set then .edge else .level)

def Bank.strictRequests (bank : Bank) (width : Width) (value : UInt64) (b : Board) :
    Checked Board :=
  match bank with
  | .setEnable first => Distributor.strictRequests 32 (strictPickBit first value .enable) b
  | .clearEnable first => Distributor.strictRequests 32 (strictPickBit first value .disable) b
  | .setPending first => Distributor.strictRequests 32 (strictPickBit first value .assert) b
  | .clearPending first =>
      Distributor.strictRequests 32 (strictPickBit first value .clearPending) b
  | .setActive first => Distributor.strictRequests 32 (strictPickBit first value .acknowledge) b
  | .clearActive first => Distributor.strictRequests 32 (strictPickBit first value .deactivate) b
  | .priority first =>
      Distributor.strictRequests width.bytes
        (strictPickByte first value (fun _ => true) .setPriority) b
  | .target first =>
      Distributor.strictRequests width.bytes
        (strictPickByte first value (Gic.numPrivate ≤ ·) .setTarget) b
  | .trigger first =>
      if Gic.Kind.of first = .software then .ok b
      else Distributor.strictRequests 16 (strictPickTrigger first value) b
  | .plain | .group | .software | .unknown => .ok b

def strictRead (d : Distributor) (b : Board) (a : Access) :
    Checked (Answered Distributor UInt64) := do
  let bank ← Bank.strictOf a.offset.toNat
  if !bank.allows a.width then return ⟨.error (a.unsupported .read), d, b⟩
  match bank with
  | .plain =>
      match ← d.registers.read a.offset a.width with
      | .ok value => return ⟨.ok value, d, b⟩
      | .error e => return ⟨.ok 0, d, b.warn s!"gicd: {e.message}"⟩
  | .software =>
      return ⟨.ok 0, d, b.warn s!"gicd: SGI register {Text.hex a.offset} read as zero"⟩
  | .unknown =>
      return ⟨.ok 0, d, b.warn s!"gicd: read of unknown offset {Text.hex a.offset}"⟩
  | bank => return ⟨.ok (← bank.strictLineValue b.gic a.width), d, b⟩

def strictWritePlain (d : Distributor) (b : Board) (a : Access) (value : UInt64) :
    Checked (Distributor × Board) := do
  match ← d.registers.write a.offset a.width value with
  | .error e => return (d, b.warn s!"gicd: {e.message}")
  | .ok (written, registers) =>
      let d := { d with registers := registers }
      if written = ctlr then
        if registers.value ctlr &&& ctlrEnable != 0 then
          return (d, ← b.strictRequest .enableDistributor)
        else return (d, ← b.strictRequest .disableDistributor)
      else return (d, b)

def strictWrite (d : Distributor) (b : Board) (a : Access) (value : UInt64) :
    Checked (Answered Distributor Unit) := do
  let bank ← Bank.strictOf a.offset.toNat
  if !bank.allows a.width then return ⟨.error (a.unsupported .write), d, b⟩
  match bank with
  | .plain =>
      let (d, b) ← d.strictWritePlain b a value
      return ⟨.ok (), d, b⟩
  | .software =>
      return ⟨.ok (), d, b.warn <|
        s!"gicd: ignoring SGI register write {Text.hex a.offset} <- {Text.hex value}"⟩
  | .unknown =>
      return ⟨.ok (), d, b.warn <|
        s!"gicd: write of unknown offset {Text.hex a.offset} <- {Text.hex value}"⟩
  | bank => return ⟨.ok (), d, ← bank.strictRequests a.width value b⟩

-- The first line that a bank covers at its offset.
def Bank.first : Bank → Nat
  | .setEnable first | .clearEnable first | .setPending first | .clearPending first
  | .setActive first | .clearActive first | .priority first | .target first | .trigger first =>
      first
  | .plain | .group | .software | .unknown => 0

variable {g : Gic} {b : Board} {bank : Bank} {first count offset base bits : Nat} {value : UInt64}

theorem strictFirst_ok (le : base ≤ offset) (near : offset < 0x1000) :
    strictFirst offset base bits = .ok ((offset - base) * 8 / bits) := by
  unfold strictFirst
  rw [bind_ok (subNat_ok le), bind_ok (product_ok (by omega))]
  rfl

-- The bank is told, and it ends below the 1024 lines that a bit map has room for.
structure Decodes (x : Checked Bank) (bank : Bank) : Prop where
  told : x = .ok bank
  near : bank.first < 1024

theorem Decodes.ite {c : Prop} [Decidable c] {x y : Checked Bank} {bank bank' : Bank}
    (yes : c → Decodes x bank) (no : ¬ c → Decodes y bank') :
    Decodes (if c then x else y) (if c then bank else bank') := by
  split
  · rename_i holds
    exact yes holds
  · rename_i fails
    exact no fails

theorem Bank.strictOf_decodes (offset : Nat) : Decodes (strictOf offset) (of offset) := by
  have bit (base : Nat) (within : base ≤ offset ∧ offset < base + 0x80)
      (low : base < 0x400) {make : Nat → Bank} (same : ∀ n, (make n).first = n) :
      Decodes ((strictFirst offset base 1).map make) (make ((offset - base) * 8)) := by
    refine ⟨?_, by rw [same]; omega⟩
    rw [strictFirst_ok within.1 (by omega), Nat.div_one]
    rfl
  have byte (base : Nat) (within : base ≤ offset ∧ offset < base + 0x400)
      (low : base < 0xc00) {make : Nat → Bank} (same : ∀ n, (make n).first = n) :
      Decodes ((strictFirst offset base 8).map make) (make (offset - base)) := by
    refine ⟨?_, by rw [same]; omega⟩
    rw [strictFirst_ok within.1 (by omega), Nat.mul_div_cancel _ (by decide)]
    rfl
  have none {bank : Bank} (zero : bank.first = 0) : Decodes (.ok bank) bank :=
    ⟨rfl, by rw [zero]; decide⟩
  unfold strictOf of
  refine .ite (fun _ => none rfl) fun _ => ?_
  refine .ite (fun _ => none rfl) fun _ => ?_
  refine .ite (fun _ => none rfl) fun _ => ?_
  refine .ite (fun within => bit 0x100 within (by decide) fun _ => rfl) fun _ => ?_
  refine .ite (fun within => bit 0x180 within (by decide) fun _ => rfl) fun _ => ?_
  refine .ite (fun within => bit 0x200 within (by decide) fun _ => rfl) fun _ => ?_
  refine .ite (fun within => bit 0x280 within (by decide) fun _ => rfl) fun _ => ?_
  refine .ite (fun within => bit 0x300 within (by decide) fun _ => rfl) fun _ => ?_
  refine .ite (fun within => bit 0x380 within (by decide) fun _ => rfl) fun _ => ?_
  refine .ite (fun within => byte 0x400 within (by decide) fun _ => rfl) fun _ => ?_
  refine .ite (fun within => byte 0x800 within (by decide) fun _ => rfl) fun _ => ?_
  refine .ite (fun within => ?_) fun _ => ?_
  · refine ⟨?_, by change (offset - 0xc00) * 8 / 2 < 1024; omega⟩
    rw [strictFirst_ok within.1 (by omega)]
    rfl
  refine .ite (fun _ => none rfl) fun _ => ?_
  exact .ite (fun _ => none rfl) fun _ => none rfl

theorem strictReadBits_ok (near : first < 1024) (p : Gic.Line → Bool) :
    strictReadBits g first p = .ok (readBits g first p) := by
  refine foldlM_ok (fun acc i within => ?_) 0
  have small := List.mem_range.mp within
  rw [bind_ok (sum_ok (by omega)), bind_ok (g.strictLine_ok _)]
  cases (g.line? (first + i)).any p with
  | false => exact congrArg Except.ok UInt64.or_zero.symm
  | true =>
      rw [if_pos rfl, bind_ok (shiftLeft_ok (by omega))]
      rfl

theorem strictReadBytes_ok (near : first < 1024) (few : count ≤ 8) (f : Gic.Line → UInt8) :
    strictReadBytes g first count f = .ok (readBytes g first count f) := by
  refine foldlM_ok (fun acc i within => ?_) 0
  have small := List.mem_range.mp within
  rw [bind_ok (sum_ok (by omega)), bind_ok (g.strictLine_ok _), bind_ok (product_ok (by omega)),
    bind_ok (shiftLeft_ok (by omega))]
  rfl

-- The upper one of the two bits of a line.
theorem edge_bit : ∀ i < 16, (2 : UInt64) <<< UInt64.ofNat (2 * i) = bit true (2 * i + 1) := by
  decide

theorem strictReadTriggers_ok (near : first < 1024) :
    strictReadTriggers g first = .ok (readTriggers g first) := by
  unfold strictReadTriggers readTriggers
  split
  · rfl
  refine foldlM_ok (fun acc i within => ?_) 0
  have small := List.mem_range.mp within
  rw [bind_ok (sum_ok (by omega)), bind_ok (g.strictLine_ok _)]
  cases (g.line? (first + i)).any (·.trigger = .edge) with
  | false => exact congrArg Except.ok UInt64.or_zero.symm
  | true =>
      rw [if_pos rfl, bind_ok (product_ok (by omega)), bind_ok (shiftLeft_ok (by omega)),
        edge_bit i small]
      rfl

theorem Bank.strictLineValue_ok (near : bank.first < 1024) (width : Width) :
    bank.strictLineValue g width = .ok (bank.lineValue g width) := by
  have few : width.bytes ≤ 8 := by cases width <;> decide
  cases bank with
  | setEnable first | clearEnable first | setPending first | clearPending first
  | setActive first | clearActive first => exact strictReadBits_ok near _
  | priority first | target first => exact strictReadBytes_ok near few _
  | trigger first => exact strictReadTriggers_ok near
  | plain | group | software | unknown => rfl

theorem strictRequests_ok {pick : Nat → Checked (Option Gic.Request)} {p : Nat → Bool}
    {r : Nat → Gic.Request}
    (picked : ∀ i < count, pick i = .ok (if p i then some (r i) else none)) (b : Board) :
    strictRequests count pick b =
      .ok ((((List.range count).filter p).map r).foldl Board.request b) := by
  rw [List.foldl_map, List.foldl_filter]
  refine foldlM_ok (fun b i within => ?_) b
  rw [bind_ok (picked i (List.mem_range.mp within))]
  cases p i with
  | false => rfl
  | true => exact b.strictRequest_ok (r i)

theorem strictPick_ok {i : Nat} (near : first + i < 2 ^ 32) (wanted : Nat → Bool)
    (r : Nat → Gic.Request) :
    strictPick first i wanted r =
      .ok (if wanted (first + i) && first + i < Gic.numLines then some (r (first + i))
        else none) := by
  unfold strictPick
  rw [bind_ok (sum_ok near)]
  rfl

theorem bitRequests_strict (near : first < 1024) (value : UInt64) (r : Nat → Gic.Request)
    (b : Board) :
    strictRequests 32 (strictPickBit first value r) b =
      .ok ((bitRequests first value r).foldl Board.request b) := by
  refine strictRequests_ok (fun i small => ?_) b
  unfold strictPickBit
  rw [bind_ok (shiftLeft_ok (by omega)), strictPick_ok (by omega)]
  rfl

theorem strictPickByte_ok {i : Nat} (near : first + i < 2 ^ 32) (small : i < 8)
    (wanted : Nat → Bool) (r : Nat → UInt8 → Gic.Request) :
    strictPickByte first value wanted r i =
      .ok (if wanted (first + i) && first + i < Gic.numLines then
        some (r (first + i) (byteOf value i)) else none) := by
  unfold strictPickByte
  rw [bind_ok (product_ok (by omega)), bind_ok (shiftRight_ok (by omega)), strictPick_ok near]
  rfl

theorem strictPickTrigger_ok {i : Nat} (near : first + i < 2 ^ 32) (small : i < 16) :
    strictPickTrigger first value i =
      .ok (if first + i < Gic.numLines then
        some (.setTrigger (first + i)
          (if value &&& bit true (2 * i + 1) != 0 then .edge else .level)) else none) := by
  unfold strictPickTrigger
  rw [bind_ok (product_ok (by omega)), bind_ok (shiftLeft_ok (by omega)), edge_bit i small,
    strictPick_ok near]
  simp only [Bool.true_and, decide_eq_true_eq]

theorem Bank.strictRequests_ok (near : bank.first < 1024) (width : Width) (value : UInt64)
    (b : Board) :
    bank.strictRequests width value b =
      .ok ((bank.requests width value).foldl Board.request b) := by
  have few : width.bytes ≤ 8 := by cases width <;> decide
  cases bank with
  | setEnable first | clearEnable first | setPending first | clearPending first
  | setActive first | clearActive first => exact bitRequests_strict near value _ b
  | priority first =>
      change first < 1024 at near
      refine Distributor.strictRequests_ok (fun i within => ?_) b
      rw [strictPickByte_ok (by omega) (by omega), Bool.true_and]
  | target first =>
      change first < 1024 at near
      refine Distributor.strictRequests_ok (fun i within => ?_) b
      rw [strictPickByte_ok (by omega) (by omega)]
  | trigger first =>
      change first < 1024 at near
      unfold strictRequests requests triggerRequests
      dsimp only
      split
      · rfl
      · refine Distributor.strictRequests_ok (fun i within => ?_) b
        rw [strictPickTrigger_ok (by omega) within]
        simp only [decide_eq_true_eq]
  | plain | group | software | unknown => rfl

variable {d : Distributor}

theorem strictRead_same (d : Distributor) (b : Board) (a : Access) :
    d.strictRead b a = d.read b a := by
  have near := (Bank.strictOf_decodes a.offset.toNat).near
  have lines := Bank.strictLineValue_ok (g := b.gic) near a.width
  unfold strictRead read
  rw [bind_ok (Bank.strictOf_decodes _).told]
  generalize Bank.of a.offset.toNat = bank at lines ⊢
  cases bank with
  | plain | software | unknown => rfl
  | group | setEnable first | clearEnable first | setPending first | clearPending first
  | setActive first | clearActive first | priority first | target first | trigger first =>
      dsimp only
      rw [bind_ok lines]

theorem strictWritePlain_same (d : Distributor) (b : Board) (a : Access) (value : UInt64) :
    d.strictWritePlain b a value = d.writePlain b a value := by
  unfold strictWritePlain writePlain
  cases d.registers.write a.offset a.width value with
  | error fault => rfl
  | ok answer =>
      rcases answer with e | ⟨written, registers⟩
      · rfl
      · simp only [Board.strictRequest_ok, ok_bind]

theorem strictWrite_same (d : Distributor) (b : Board) (a : Access) (value : UInt64) :
    d.strictWrite b a value = d.write b a value := by
  have asked := Bank.strictRequests_ok (Bank.strictOf_decodes a.offset.toNat).near a.width value b
  unfold strictWrite write
  rw [bind_ok (Bank.strictOf_decodes _).told, strictWritePlain_same]
  generalize Bank.of a.offset.toNat = bank at asked ⊢
  cases bank with
  | plain | software | unknown => rfl
  | group | setEnable first | clearEnable first | setPending first | clearPending first
  | setActive first | clearActive first | priority first | target first | trigger first =>
      dsimp only
      rw [bind_ok asked]

-- The registers are the only thing of it that could fail.

theorem read_ok (compact : d.registers.Compact) (b : Board) (a : Access) :
    ∃ r, d.read b a = .ok r := by
  obtain ⟨answer, accessed⟩ := compact.read_ok a.offset a.width
  unfold read
  dsimp only
  split
  · exact ⟨_, rfl⟩
  split
  · rw [bind_ok accessed]
    cases answer <;> exact ⟨_, rfl⟩
  all_goals exact ⟨_, rfl⟩

theorem write_ok (compact : d.registers.Compact) (b : Board) (a : Access) (value : UInt64) :
    ∃ r, d.write b a value = .ok r := by
  obtain ⟨answer, accessed⟩ := compact.write_ok a.offset value a.width
  unfold write
  dsimp only
  split
  · exact ⟨_, rfl⟩
  split
  · unfold writePlain
    rw [bind_ok accessed]
    cases answer with
    | error e => exact ⟨_, rfl⟩
    | ok found =>
        dsimp only
        split
        · split <;> exact ⟨_, rfl⟩
        · exact ⟨_, rfl⟩
  all_goals exact ⟨_, rfl⟩

end Distributor

end VmMonitor
