import SceneInspector.Colour.Names
import SceneInspector.Text.Blank
import SceneInspector.Text.DecimalDigit
import SceneInspector.Text.Numeral

namespace SceneInspector.Colour

structure Rgb where
  red : UInt8
  green : UInt8
  blue : UInt8
deriving DecidableEq, Repr

def Rgb.components (colour : Rgb) : List UInt8 := [colour.red, colour.green, colour.blue]

def Rgb.decimals (colour : Rgb) : List String := colour.components.map fun c => toString c.toNat

def Rgb.text (colour : Rgb) : String := "rgb(" ++ String.intercalate ", " colour.decimals ++ ")"

def Rgb.tight (colour : Rgb) : String := "rgb(" ++ String.intercalate "," colour.decimals ++ ")"

def hexDigit? (c : Char) : Option Nat :=
  if '0' ≤ c ∧ c ≤ '9' then some (c.toNat - '0'.toNat)
  else if 'a' ≤ c ∧ c ≤ 'f' then some (c.toNat - 'a'.toNat + 10)
  else if 'A' ≤ c ∧ c ≤ 'F' then some (c.toNat - 'A'.toNat + 10)
  else none

-- The byte that digits in base sixteen write. As before any unsigned number a plus sign may stand.
def hexByte? (text : List Char) : Option UInt8 := do
  let digits := match text with
    | '+' :: rest => rest
    | digits => digits
  if digits = [] then none
  else
    let values ← digits.mapM hexDigit?
    let value := values.foldl (fun value digit => 16 * value + digit) 0
    if value ≤ Text.maxUInt8 then some (UInt8.ofNat value) else none

def channel? (high low : Char) : Option UInt8 := hexByte? [high, low]

-- What a colour in base sixteen is looked for by: the letters up to F in either case, and the
-- decimal digits of any script.
def isHexSign (c : Char) : Bool :=
  ('a' ≤ c && c ≤ 'f') || ('A' ≤ c && c ≤ 'F') || Text.isDecimalDigit c

def unmarked : List Char → List Char
  | '#' :: digits => digits
  | digits => digits

def hexSigns? (count : Nat) (text : List Char) : Option (List Char) :=
  let signs := unmarked text
  if signs.length = count ∧ signs.all isHexSign then some signs else none

def expanded (text : List Char) : List Char :=
  match hexSigns? 3 text with
  | some signs => signs.flatMap fun c => [c, c]
  | none => text

def hex? (text : List Char) : Option Rgb :=
  match hexSigns? 6 (expanded text) with
  | some [a, b, c, d, e, f] => do pure ⟨← channel? a b, ← channel? c d, ← channel? e f⟩
  | _ => none

def component? (text : List Char) : Option (List Char × List Char) :=
  let digits := text.takeWhile Text.isDecimalDigit
  if digits = [] then none else some (digits, text.dropWhile Text.isDecimalDigit)

def afterComma? : List Char → Option (List Char)
  | ',' :: c :: rest => some (if Text.isBlank c then rest else c :: rest)
  | [','] => some []
  | _ => none

def tupleHere? (text : List Char) : Option (List Char × List Char × List Char) := do
  let 'r' :: 'g' :: 'b' :: '(' :: text := text | none
  let (red, text) ← component? text
  let (green, text) ← component? (← afterComma? text)
  let (blue, text) ← component? (← afterComma? text)
  let ')' :: _ := text | none
  pure (red, green, blue)

def tuple? : List Char → Option (List Char × List Char × List Char)
  | [] => none
  | c :: rest => (tupleHere? (c :: rest)).or (tuple? rest)

def byte? (digits : List Char) : Option UInt8 :=
  (Text.unsigned? Text.maxUInt8 digits).map UInt8.ofNat

-- A picked colour. A triple decides alone, also when a component is out of range; then a hash
-- sign; then the names.
def parse? (text : String) : Option Rgb :=
  match tuple? text.toList with
  | some (red, green, blue) => do pure ⟨← byte? red, ← byte? green, ← byte? blue⟩
  | none =>
    match text.toList with
    | '#' :: digits => hex? ('#' :: digits)
    | _ => do hex? (← named? text).toList

end SceneInspector.Colour
