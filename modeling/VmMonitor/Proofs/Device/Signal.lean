import VmMonitor.Bus.Device
import VmMonitor.Proofs.Gic.Engaged

/-!
The interrupt condition of a device, and what a device does with its line. A device that raises its
condition asserts the line in the same call, and it takes the line back only once the condition is
gone.
-/

namespace VmMonitor

class Signalling (δ : Type) where
  -- The line of a device that has one.
  line? : δ → Option Nat
  raised : δ → Bool
  -- What has to hold of the device for its condition to mean anything.
  sound : δ → Prop

namespace Signalling

instance {δ ε : Type} [Signalling δ] [Signalling ε] : Signalling (δ ⊕ ε) where
  line?
    | .inl d => line? d
    | .inr d => line? d
  raised
    | .inl d => raised d
    | .inr d => raised d
  sound
    | .inl d => sound d
    | .inr d => sound d

-- What a device with this line may do to the controller while its condition goes from `before` to
-- `after`. Only a device without a line of its own makes requests for other lines, and of these
-- only the lines in `lost` may come to rest.
inductive LineStep (line : Option Nat) (lost : Nat → Prop) (before after : Bool) (g : Gic) :
    Gic → Prop
  | still (kept : after = true → before = true) : LineStep line lost before after g g
  | asserted {q : Nat} (own : line = some q) :
      LineStep line lost before after g (g.apply (.assert q))
  | lowered {q : Nat} (own : line = some q) (down : after = false) :
      LineStep line lost before after g (g.apply (.clearPending q))
  | requested {rs : List Gic.Request} (none : line = none)
      (silent : ∀ r ∈ rs, r.silent = true) (spared : ∀ r ∈ rs, ∀ q, r.drops q = true → lost q) :
      LineStep line lost before after g (rs.foldl Gic.apply g)

-- The outcome of one call to a device.
structure Moves {δ : Type} [Signalling δ] (lost : Nat → Prop) (d : δ) (g : Gic) (d' : δ)
    (g' : Gic) : Prop where
  line : line? d' = line? d
  sound : sound d'
  step : LineStep (line? d) lost (raised d) (raised d') g g'

-- What a device does on hearing that its interrupt was completed.
def reassert {δ : Type} [Signalling δ] (d : δ) (g : Gic) : Gic :=
  match line? d with
  | some q => if raised d then g.apply (.assert q) else g
  | none => g

end Signalling

open Signalling

-- The writes to the distributor block that can put line `q` to rest: a one for the line among the
-- bits that clear what is pending, or among those that clear what is active.
def Distributor.Withdraws (offset : Nat) (value : UInt64) (q : Nat) : Prop :=
  ∃ bank k, (bank = 0x280 ∨ bank = 0x380) ∧ k < 0x80 ∧ offset = bank + k ∧ 8 * k ≤ q ∧
    value.toNat.testBit (q - 8 * k) = true

class LawfulSignalling (δ : Type) [BusDevice δ] [Signalling δ] : Prop where
  read_moves {d : δ} {b : Board} {a : Access} {r : Answered δ UInt64} (valid : sound d)
    (done : BusDevice.read d b a = .ok r) : Moves (fun _ => False) d b.gic r.device r.board.gic
  write_moves {d : δ} {b : Board} {a : Access} {value : UInt64} {r : Answered δ Unit}
    (valid : sound d) (done : BusDevice.write d b a value = .ok r) :
    Moves (Distributor.Withdraws a.offset.toNat value) d b.gic r.device r.board.gic
  input_moves {d : δ} {b : Board} {data : List UInt8} {r : Answered δ Unit} (valid : sound d)
    (done : BusDevice.input d b data = .ok r) :
    Moves (fun _ => False) d b.gic r.device r.board.gic
  endOfInterrupt_device (d : δ) (b : Board) (n : Nat) : (BusDevice.endOfInterrupt d b n).1 = d
  endOfInterrupt_gic (d : δ) (b : Board) (n : Nat) :
    (BusDevice.endOfInterrupt d b n).2.gic = reassert d b.gic
  levelChanged_device (d : δ) (b : Board) (n : Nat) (level : Bool) :
    (BusDevice.levelChanged d b n level).1 = d
  levelChanged_gic (d : δ) (b : Board) (n : Nat) (level : Bool) :
    (BusDevice.levelChanged d b n level).2.gic = b.gic

namespace Signalling

variable {δ : Type} [Signalling δ] {lost : Nat → Prop} {d : δ} {g : Gic}

theorem LineStep.mono {line : Option Nat} {more : Nat → Prop} {before after : Bool} {g' : Gic}
    (wider : ∀ q, lost q → more q) (step : LineStep line lost before after g g') :
    LineStep line more before after g g' := by
  cases step with
  | still kept => exact .still kept
  | asserted own => exact .asserted own
  | lowered own down => exact .lowered own down
  | requested none silent spared =>
      exact .requested none silent fun r asked q drops => wider q (spared r asked q drops)

theorem Moves.mono {more : Nat → Prop} {d' : δ} {g' : Gic} (wider : ∀ q, lost q → more q)
    (moves : Moves lost d g d' g') : Moves more d g d' g' :=
  ⟨moves.line, moves.sound, moves.step.mono wider⟩

end Signalling

-- A sum has the laws of its parts.

theorem Signalling.Moves.inl {δ ε : Type} [Signalling δ] [Signalling ε] {lost : Nat → Prop}
    {d d' : δ} {g g' : Gic} (moves : Moves lost d g d' g') :
    Moves lost (.inl d : δ ⊕ ε) g (.inl d') g' := ⟨moves.line, moves.sound, moves.step⟩

theorem Signalling.Moves.inr {δ ε : Type} [Signalling δ] [Signalling ε] {lost : Nat → Prop}
    {d d' : ε} {g g' : Gic} (moves : Moves lost d g d' g') :
    Moves lost (.inr d : δ ⊕ ε) g (.inr d') g' := ⟨moves.line, moves.sound, moves.step⟩

instance {δ ε : Type} [BusDevice δ] [BusDevice ε] [Signalling δ] [Signalling ε]
    [LawfulSignalling δ] [LawfulSignalling ε] : LawfulSignalling (δ ⊕ ε) where
  read_moves {d b a r} valid done := by
    cases d with
    | inl d =>
        obtain ⟨r, answered, done⟩ := Checked.bind_eq_ok.mp done
        cases done
        exact (LawfulSignalling.read_moves (show sound d from valid) answered).inl
    | inr d =>
        obtain ⟨r, answered, done⟩ := Checked.bind_eq_ok.mp done
        cases done
        exact (LawfulSignalling.read_moves (show sound d from valid) answered).inr
  write_moves {d b a value r} valid done := by
    cases d with
    | inl d =>
        obtain ⟨r, answered, done⟩ := Checked.bind_eq_ok.mp done
        cases done
        exact (LawfulSignalling.write_moves (show sound d from valid) answered).inl
    | inr d =>
        obtain ⟨r, answered, done⟩ := Checked.bind_eq_ok.mp done
        cases done
        exact (LawfulSignalling.write_moves (show sound d from valid) answered).inr
  input_moves {d b data r} valid done := by
    cases d with
    | inl d =>
        obtain ⟨r, answered, done⟩ := Checked.bind_eq_ok.mp done
        cases done
        exact (LawfulSignalling.input_moves (show sound d from valid) answered).inl
    | inr d =>
        obtain ⟨r, answered, done⟩ := Checked.bind_eq_ok.mp done
        cases done
        exact (LawfulSignalling.input_moves (show sound d from valid) answered).inr
  endOfInterrupt_device d b n := by
    cases d with
    | inl d => exact congrArg Sum.inl (LawfulSignalling.endOfInterrupt_device d b n)
    | inr d => exact congrArg Sum.inr (LawfulSignalling.endOfInterrupt_device d b n)
  endOfInterrupt_gic d b n := by
    cases d with
    | inl d => exact LawfulSignalling.endOfInterrupt_gic d b n
    | inr d => exact LawfulSignalling.endOfInterrupt_gic d b n
  levelChanged_device d b n level := by
    cases d with
    | inl d => exact congrArg Sum.inl (LawfulSignalling.levelChanged_device d b n level)
    | inr d => exact congrArg Sum.inr (LawfulSignalling.levelChanged_device d b n level)
  levelChanged_gic d b n level := by
    cases d with
    | inl d => exact LawfulSignalling.levelChanged_gic d b n level
    | inr d => exact LawfulSignalling.levelChanged_gic d b n level

end VmMonitor
