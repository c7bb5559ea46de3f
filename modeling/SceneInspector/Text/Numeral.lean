namespace SceneInspector.Text

def digitValue (c : Char) : Nat := c.toNat - '0'.toNat

def digitsValue (digits : List Char) : Nat :=
  digits.foldl (fun value c => 10 * value + digitValue c) 0

def natural? (text : List Char) : Option Nat :=
  if text ≠ [] ∧ text.all Char.isDigit then some (digitsValue text) else none

def unsigned? (limit : Nat) (text : List Char) : Option Nat :=
  let digits := match text with
    | '+' :: rest => rest
    | digits => digits
  (natural? digits).filter (· ≤ limit)

def maxUInt8 : Nat := 255
def maxUInt32 : Nat := 4294967295
def maxUInt64 : Nat := 18446744073709551615

def minInt64 : Int := -9223372036854775808
def maxInt64 : Int := 9223372036854775807

def inInt64? (value : Int) : Option Int :=
  if minInt64 ≤ value ∧ value ≤ maxInt64 then some value else none

end SceneInspector.Text
