import SceneInspector.Decimal.Binary64
import SceneInspector.Text.Numeral

namespace SceneInspector.Decimal

structure Literal where
  negative : Bool
  coefficient : Nat
  exponent : Int
deriving DecidableEq, Repr

def powerOfTen (exponent : Nat) : Nat := Nat.pow 10 exponent

def digitCount (n : Nat) : Nat := (Nat.toDigits 10 n).length

-- The nearest binary64 number. A numeral far outside the range is settled by its magnitude alone,
-- so a long exponent costs nothing.
def Literal.value (literal : Literal) : Binary64 :=
  let magnitude := digitCount literal.coefficient + literal.exponent
  if literal.coefficient = 0 then .finite literal.negative 0
  else if 310 < magnitude then .infinite literal.negative
  else if magnitude < -330 then .finite literal.negative 0
  else match literal.exponent with
    | .ofNat power => .nearest literal.negative (literal.coefficient * powerOfTen power) 1
    | .negSucc power => .nearest literal.negative literal.coefficient (powerOfTen (power + 1))

def exponent? : List Char → Option (Int × List Char)
  | [] => some (0, [])
  | mark :: rest =>
    if mark = 'e' ∨ mark = 'E' then
      let (negative, unsigned) := match rest with
        | '-' :: digits => (true, digits)
        | '+' :: digits => (false, digits)
        | digits => (false, digits)
      let digits := unsigned.takeWhile Char.isDigit
      if digits = [] then none
      else
        let power : Int := Text.digitsValue digits
        some (if negative then -power else power, unsigned.dropWhile Char.isDigit)
    else some (0, mark :: rest)

def lowercased (text : List Char) : List Char := text.map Char.toLower

def magnitude? (negative : Bool) (text : List Char) : Option Binary64 :=
  let name := lowercased text
  if name = "inf".toList ∨ name = "infinity".toList then some (.infinite negative)
  else if name = "nan".toList then some .nan
  else
    let whole := text.takeWhile Char.isDigit
    let afterWhole := text.dropWhile Char.isDigit
    let (fraction, afterFraction) := match afterWhole with
      | '.' :: rest => (rest.takeWhile Char.isDigit, rest.dropWhile Char.isDigit)
      | rest => ([], rest)
    if whole = [] ∧ fraction = [] then none
    else match exponent? afterFraction with
      | some (power, []) =>
        some (Literal.value ⟨negative, Text.digitsValue (whole ++ fraction), power - fraction.length⟩)
      | _ => none

def number? (text : List Char) : Option Binary64 :=
  match text with
  | '-' :: rest => magnitude? true rest
  | '+' :: rest => magnitude? false rest
  | rest => magnitude? false rest

end SceneInspector.Decimal
