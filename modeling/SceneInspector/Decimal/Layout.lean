import SceneInspector.Decimal.Shortest

namespace SceneInspector.Decimal

structure Layout where
  exponents : Option (Int × Int)
  wholeSuffix : List Char
  tie : Tie

def Layout.positional (layout : Layout) (exponent : Int) : Bool :=
  match layout.exponents with
  | none => true
  | some (lowest, highest) => lowest ≤ exponent && exponent ≤ highest

def withoutTrailingZeros (digits : List Char) : List Char :=
  (digits.reverse.dropWhile (· = '0')).reverse

def positionalText (layout : Layout) (digits : List Char) (exponent : Int) : List Char :=
  let wholeDigits := exponent + 1
  if wholeDigits ≤ 0 then '0' :: '.' :: List.replicate (-wholeDigits).toNat '0' ++ digits
  else
    let count := wholeDigits.toNat
    if digits.length ≤ count then
      digits ++ List.replicate (count - digits.length) '0' ++ layout.wholeSuffix
    else digits.take count ++ '.' :: digits.drop count

def scientificText (digits : List Char) (exponent : Int) : List Char :=
  let mantissa := match digits with
    | first :: second :: rest => first :: '.' :: second :: rest
    | one => one
  let sign := if exponent < 0 then '-' else '+'
  mantissa ++ 'e' :: sign :: Nat.toDigits 10 exponent.natAbs

def Layout.magnitudeText (layout : Layout) (units : Nat) : List Char :=
  if units = 0 then '0' :: layout.wholeSuffix
  else
    let literal := shortest layout.tie units
    let exponent := digitCount literal.coefficient - 1 + literal.exponent
    let digits := withoutTrailingZeros (Nat.toDigits 10 literal.coefficient)
    if layout.positional exponent then positionalText layout digits exponent
    else scientificText digits exponent

def Layout.text (layout : Layout) : Binary64 → List Char
  | .nan => "NaN".toList
  | .infinite negative => if negative then "-inf".toList else "inf".toList
  | .finite negative units =>
    (if negative then ['-'] else []) ++ layout.magnitudeText units

def document : Layout := ⟨some (-5, 15), ['.', '0'], .even⟩

def plain : Layout := ⟨none, [], .up⟩

end SceneInspector.Decimal
