namespace SceneInspector

-- A binary64 number by its exact value. Every finite one is a whole multiple of 2^-1074, and its
-- magnitude is kept as that count, so equal values have one form (the two zeros apart).
inductive Binary64 where
  | nan
  | infinite (negative : Bool)
  | finite (negative : Bool) (units : Nat)
deriving DecidableEq, Repr, Inhabited

namespace Binary64

def powerOfTwo (exponent : Nat) : Nat := Nat.pow 2 exponent

def unitsPerOne : Nat := powerOfTwo 1074

def overflow : Nat := powerOfTwo 2098

-- The distance between neighbours at a magnitude: 53 significant bits fit, the rest is zero.
def spacing (units : Nat) : Nat := powerOfTwo (units.log2 + 1 - 53)

def roundHalfEven (numerator denominator : Nat) : Nat :=
  let quotient := numerator / denominator
  let twice := 2 * (numerator % denominator)
  if twice < denominator then quotient
  else if denominator < twice then quotient + 1
  else quotient + quotient % 2

def nearestUnits (numerator denominator : Nat) : Nat :=
  let gap := spacing (numerator / denominator)
  gap * roundHalfEven numerator (denominator * gap)

def ofUnits (negative : Bool) (units : Nat) : Binary64 :=
  if units < overflow then .finite negative units else .infinite negative

def nearest (negative : Bool) (numerator denominator : Nat) : Binary64 :=
  ofUnits negative (nearestUnits (numerator * unitsPerOne) denominator)

def timesUnits (units factor : Nat) : Nat := nearestUnits (units * factor) unitsPerOne

def dividedUnits (units divisor : Nat) : Nat := nearestUnits (units * unitsPerOne) divisor

def zero : Binary64 := .finite false 0

def one : Binary64 := .finite false unitsPerOne

def ofInt (value : Int) : Binary64 := nearest (value < 0) value.natAbs 1

def isFinite : Binary64 → Bool
  | .finite .. => true
  | _ => false

def isZero : Binary64 → Bool
  | .finite _ units => units == 0
  | _ => false

end SceneInspector.Binary64
