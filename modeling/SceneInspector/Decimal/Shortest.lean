import SceneInspector.Decimal.Literal

namespace SceneInspector.Decimal

inductive Tie where
  | even
  | up
deriving DecidableEq, Repr

-- The reals that round to a number, in quarters of a unit, with the ends included or not.
structure Interval where
  low : Nat
  high : Nat
  closed : Bool

-- Below a power of two the neighbour is half as far. The ends round to the number when its last
-- significant bit is zero.
def Interval.around (units : Nat) : Interval :=
  let gap := Binary64.spacing units
  let below := if 1 < gap ∧ units = Binary64.powerOfTwo units.log2 then gap else 2 * gap
  ⟨4 * units - below, 4 * units + 2 * gap, (units / gap) % 2 == 0⟩

-- Both sides of a comparison are whole numbers once the decimal 10^power is cleared.
def Interval.contains (interval : Interval) (coefficient : Nat) (power : Int) : Bool :=
  let decimal := coefficient * 4 * Binary64.unitsPerOne * powerOfTen power.toNat
  let scale := powerOfTen (-power).toNat
  let low := interval.low * scale
  let high := interval.high * scale
  if interval.closed then low ≤ decimal && decimal ≤ high else low < decimal && decimal < high

def decimalMagnitude (units : Nat) : Int :=
  digitCount (units * powerOfTen 400 / Binary64.unitsPerOne) - 400

def onGrid? (tie : Tie) (units : Nat) (power : Int) : Option Literal :=
  let numerator := units * powerOfTen (-power).toNat
  let denominator := Binary64.unitsPerOne * powerOfTen power.toNat
  let floor := numerator / denominator
  let twice := 2 * (numerator % denominator)
  let interval := Interval.around units
  let below := interval.contains floor power
  let above := interval.contains (floor + 1) power
  let takeAbove := denominator < twice ||
    (twice == denominator && (match tie with | .even => floor % 2 == 1 | .up => true))
  if below && above then some ⟨false, if takeAbove then floor + 1 else floor, power⟩
  else if below then some ⟨false, floor, power⟩
  else if above then some ⟨false, floor + 1, power⟩
  else none

-- The fewest digits that read back as the number, and of those the nearest. Seventeen always do.
def shortest (tie : Tie) (units : Nat) : Literal :=
  let magnitude := decimalMagnitude units
  let found := (List.range 17).findSome? fun fewer => onGrid? tie units (magnitude - (fewer + 1 : Nat))
  found.getD ⟨false, units, 0⟩

end SceneInspector.Decimal
