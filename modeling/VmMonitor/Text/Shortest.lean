/-!
Floating point numbers as decimal text: the fewest digits that read back as the same number, and
of those the nearest. A number is a significand times a power of two; all the reals that round to
it form an interval, whose ends belong to it when the significand is even.
-/

namespace VmMonitor.Text

-- A decimal number `digits * 10 ^ exponent`.
structure Decimal where
  digits : Nat
  exponent : Int
  deriving DecidableEq, Repr

-- The reals that round to a number, in quarters of its last binary place: the number itself is
-- `center * 2 ^ scale`.
structure RoundingInterval where
  low : Nat
  center : Nat
  high : Nat
  closed : Bool
  scale : Int
  deriving DecidableEq, Repr

namespace RoundingInterval

-- The smallest significand of full length.
def fullSignificand : Nat := 0x10000000000000

-- The interval of `m * 2 ^ q`. Below a power of two the neighbours lie twice as close, except
-- where the exponent is the smallest.
def of (m : Nat) (q : Int) (smallest : Bool) : RoundingInterval where
  low := if m = fullSignificand ∧ !smallest then 4 * m - 1 else 4 * m - 2
  center := 4 * m
  high := 4 * m + 2
  closed := m % 2 = 0
  scale := q - 2

-- Factors that put the grid of step `10 ^ e` and the interval on one scale.
def gridUnit (r : RoundingInterval) (e : Int) : Nat :=
  Nat.pow 10 e.toNat * Nat.pow 2 (-r.scale).toNat

def ownUnit (r : RoundingInterval) (e : Int) : Nat :=
  Nat.pow 10 (-e).toNat * Nat.pow 2 r.scale.toNat

def contains (r : RoundingInterval) (digits : Nat) (e : Int) : Bool :=
  let point := digits * r.gridUnit e
  let unit := r.ownUnit e
  if r.closed then r.low * unit ≤ point && point ≤ r.high * unit
  else r.low * unit < point && point < r.high * unit

-- How far a grid point is from the number.
def distance (r : RoundingInterval) (digits : Nat) (e : Int) : Nat :=
  let point := digits * r.gridUnit e
  let own := r.center * r.ownUnit e
  (point - own) + (own - point)

-- The grid point in the interval that is nearest to the number, if there is one. Only the two
-- neighbours of the number can be it; a tie goes to the even one.
def onGrid? (r : RoundingInterval) (e : Int) : Option Nat :=
  let below := r.center * r.ownUnit e / r.gridUnit e
  let hits := [below, below + 1].filter fun d => d ≠ 0 && r.contains d e
  match hits with
  | [a, b] =>
      if r.distance a e < r.distance b e then some a
      else if r.distance b e < r.distance a e then some b
      else some (if a % 2 = 0 then a else b)
  | hits => hits.head?

-- Tries the grids from the coarsest to the finest.
def search (r : RoundingInterval) : Nat → Int → Decimal
  | 0, e => ⟨0, e⟩
  | fuel + 1, e =>
      match r.onGrid? e with
      | some d => ⟨d, e⟩
      | none => search r fuel (e - 1)

-- The largest number is below `10 ^ 309`, and the smallest reads back from one digit at
-- `10 ^ -324`.
def shortest (r : RoundingInterval) : Decimal := r.search 634 309

end RoundingInterval

-- Between these exponents of the first digit a number is written without a power of ten.
def fixedFrom : Int := -5
def fixedTo : Int := 15

def Decimal.display (d : Decimal) : String :=
  let digits := toString d.digits
  let first := d.exponent + digits.length - 1
  let point := (first + 1).toNat
  if fixedFrom ≤ first ∧ first ≤ fixedTo then
    if 0 ≤ d.exponent then digits ++ String.ofList (List.replicate d.exponent.toNat '0') ++ ".0"
    else if 0 ≤ first then
      String.ofList (digits.toList.take point) ++ "." ++ String.ofList (digits.toList.drop point)
    else "0." ++ String.ofList (List.replicate (-first - 1).toNat '0') ++ digits
  else
    let rest := String.ofList (digits.toList.drop 1)
    String.ofList (digits.toList.take 1) ++ (if rest.isEmpty then "" else "." ++ rest) ++
      (if first < 0 then "e-" else "e+") ++ toString first.natAbs

-- A finite number; a zero keeps its sign.
def floatText (f : Float) : String :=
  let bits := f.toBits.toNat
  let sign := if bits >>> 63 = 1 then "-" else ""
  let fraction := bits % RoundingInterval.fullSignificand
  let biased : Nat := (bits >>> 52) % 0x800
  let power : Int := biased - 1075
  if biased = 0 ∧ fraction = 0 then sign ++ "0.0"
  else if biased = 0 then
    sign ++ (RoundingInterval.of fraction (-1074) true).shortest.display
  else
    let significand := RoundingInterval.fullSignificand + fraction
    sign ++ (RoundingInterval.of significand power (biased = 1)).shortest.display

end VmMonitor.Text
