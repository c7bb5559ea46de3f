import SceneInspector.Decimal.Literal
import SceneInspector.Json.Basic

namespace SceneInspector.Json.Reader

def gathered (word : Nat) : List Char → Nat × List Char
  | [] => (word, [])
  | digit :: rest =>
    let longer := 10 * word + Text.digitValue digit
    if longer ≤ Text.maxUInt64 then gathered longer rest else (word, digit :: rest)

def maxPower : Nat := 308

def unitsOfTen (power : Nat) : Nat :=
  Binary64.nearestUnits (Decimal.powerOfTen power * Binary64.unitsPerOne) 1

-- Nothing is left of a word that is divided twice by the largest power.
def lowered (units power : Nat) : Nat :=
  if power ≤ maxPower then Binary64.dividedUnits units (unitsOfTen power)
  else if power ≤ 2 * maxPower then
    let divided := Binary64.dividedUnits units (unitsOfTen maxPower)
    Binary64.dividedUnits divided (unitsOfTen (power - maxPower))
  else 0

-- A word times a power of ten. The word, the power and the result are each rounded, so the number
-- may be a neighbour of the nearest one.
def scaled? (negative : Bool) (word : Nat) (exponent : Int) : Option Binary64 :=
  let units := Binary64.nearestUnits (word * Binary64.unitsPerOne) 1
  if units = 0 then some (.finite negative 0)
  else match exponent with
    | .ofNat power =>
      if maxPower < power then none
      else
        let value := Binary64.ofUnits negative (Binary64.timesUnits units (unitsOfTen power))
        if value.isFinite then some value else none
    | .negSucc power => some (.finite negative (lowered units (power + 1)))

-- Digits before the point that do not fit are made up for by the exponent; behind it they are lost.
def real? (negative : Bool) (whole fraction : List Char) (exponent : Int) : Option Binary64 :=
  let (word, wholeLeft) := gathered 0 whole
  let (word, fractionLeft) := gathered word fraction
  let point : Int := wholeLeft.length - (fraction.length - fractionLeft.length : Nat)
  scaled? negative word (point + exponent)

def integer? (negative : Bool) (whole : List Char) : Option Number :=
  let magnitude := Text.digitsValue whole
  if negative then
    if magnitude = 0 ∨ -(magnitude : Int) < Text.minInt64 then (real? true whole [] 0).map .real
    else some (.integer (-magnitude))
  else if magnitude ≤ Text.maxUInt64 then some (.integer magnitude)
  else (real? false whole [] 0).map .real

-- No sign but a minus, no leading zero, and a digit on each side of the point.
def number? (text : List Char) : Option (Number × List Char) :=
  let (negative, unsigned) := match text with
    | '-' :: rest => (true, rest)
    | rest => (false, rest)
  let whole := unsigned.takeWhile Char.isDigit
  let afterWhole := unsigned.dropWhile Char.isDigit
  if whole = [] ∨ (whole.head? = some '0' ∧ whole ≠ ['0']) then none
  else
    let fraction? : Option (List Char × List Char) := match afterWhole with
      | '.' :: rest =>
        let digits := rest.takeWhile Char.isDigit
        if digits = [] then none else some (digits, rest.dropWhile Char.isDigit)
      | rest => some ([], rest)
    match fraction? with
    | none => none
    | some (fraction, afterFraction) =>
      match Decimal.exponent? afterFraction with
      | none => none
      | some (power, rest) =>
        let number :=
          if rest.length = afterWhole.length then integer? negative whole
          else (real? negative whole fraction power).map .real
        number.map (·, rest)

end SceneInspector.Json.Reader
