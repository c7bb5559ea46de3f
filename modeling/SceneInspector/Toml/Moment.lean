import SceneInspector.Text.Numeral
import SceneInspector.Toml.Basic

namespace SceneInspector.Toml

def field? (count low high : Nat) (text : List Char) : Option (List Char × List Char) :=
  let digits := text.take count
  let value := Text.digitsValue digits
  if digits.length = count ∧ digits.all Char.isDigit ∧ low ≤ value ∧ value ≤ high then
    some (digits, text.drop count)
  else none

def isLeapYear (year : Nat) : Bool := (year % 4 == 0 && year % 100 != 0) || year % 400 == 0

def daysInMonth (year month : Nat) : Nat :=
  if month = 2 then (if isLeapYear year then 29 else 28)
  else if month ∈ [4, 6, 9, 11] then 30
  else 31

def date? (text : List Char) : Option (List Char × List Char) := do
  let (year, '-' :: text) ← field? 4 0 9999 text | none
  let (month, '-' :: text) ← field? 2 1 12 text | none
  let (day, text) ← field? 2 1 (daysInMonth (Text.digitsValue year) (Text.digitsValue month)) text
  pure (year ++ '-' :: month ++ '-' :: day, text)

-- At most nine digits of a fraction count, and zeros at its end do not.
def fraction (text : List Char) : List Char × List Char :=
  match text with
  | '.' :: rest =>
    let digits := rest.takeWhile Char.isDigit
    if digits = [] then ([], text)
    else
      let kept := ((digits.take 9).reverse.dropWhile (· = '0')).reverse
      (if kept = [] then [] else '.' :: kept, rest.drop digits.length)
  | text => ([], text)

def time? (text : List Char) : Option (List Char × List Char) := do
  let (hour, ':' :: text) ← field? 2 0 23 text | none
  let (minute, ':' :: text) ← field? 2 0 59 text | none
  let (second, text) ← field? 2 0 60 text
  let (fraction, text) := fraction text
  pure (hour ++ ':' :: minute ++ ':' :: second ++ fraction, text)

def offset? (text : List Char) : Option (Option (List Char × List Char)) :=
  match text with
  | 'Z' :: rest | 'z' :: rest => some (some (['Z'], rest))
  | '+' :: rest => some (minutes '+' rest)
  | '-' :: rest => some (minutes '-' rest)
  | _ => none
where
  -- An offset of nothing is never negative.
  minutes (mark : Char) (text : List Char) : Option (List Char × List Char) := do
    let (hour, ':' :: text) ← field? 2 0 23 text | none
    let (minute, text) ← field? 2 0 59 text
    let isZero := Text.digitsValue hour = 0 ∧ Text.digitsValue minute = 0
    pure ((if isZero then '+' else mark) :: hour ++ ':' :: minute, text)

def timeOfDate (date : List Char) (text : List Char) : Option (List Char × List Char) :=
  match text with
  | mark :: rest =>
    if mark = 'T' ∨ mark = 't' ∨ mark = ' ' then
      match time? rest with
      | none => some (date, text)
      | some (time, rest) =>
        match offset? rest with
        | none => some (date ++ 'T' :: time, rest)
        | some none => none
        | some (some (offset, rest)) => some (date ++ 'T' :: time ++ offset, rest)
    else some (date, text)
  | [] => some (date, [])

def moment? (text : List Char) : Option (Toml × List Char) :=
  let found := match date? text with
    | some (date, rest) => timeOfDate date rest
    | none => time? text
  found.map fun (text, rest) => (.moment (String.ofList text), rest)

end SceneInspector.Toml
