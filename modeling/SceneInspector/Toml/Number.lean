import SceneInspector.Decimal.Literal
import SceneInspector.Toml.Text

namespace SceneInspector.Toml

def digits? (isDigit : Char → Bool) : List Char → Option (List Char × List Char)
  | [] => none
  | c :: rest =>
    if isDigit c then
      match rest with
      | '_' :: next =>
        match digits? isDigit next with
        | some (others, rest) => some (c :: others, rest)
        | none => none
      | next =>
        match digits? isDigit next with
        | some (others, rest) => some (c :: others, rest)
        | none => some ([c], next)
    else none

def sign (text : List Char) : Bool × List Char :=
  match text with
  | '-' :: rest => (true, rest)
  | '+' :: rest => (false, rest)
  | rest => (false, rest)

def whole? (text : List Char) : Option (List Char × List Char) :=
  match text with
  | '0' :: rest => some (['0'], rest)
  | text => digits? Char.isDigit text

def prefixed? (base : Nat) (text : List Char) : Option (Toml × List Char) :=
  let isDigit (c : Char) : Bool := match hexDigit? c with
    | some value => value < base
    | none => false
  match digits? isDigit text with
  | none => none
  | some (digits, rest) =>
    let value := (digits.filterMap hexDigit?).foldl (fun value digit => base * value + digit) 0
    (Text.inInt64? value).map fun value => (.integer value, rest)

def exponentMark? (text : List Char) : Option (List Char) :=
  match text with
  | 'e' :: rest | 'E' :: rest => some rest
  | _ => none

def tail? (text : List Char) : Option (List Char × Int × List Char) :=
  let fraction? : Option (List Char × List Char) := match text with
    | '.' :: rest => digits? Char.isDigit rest
    | rest => some ([], rest)
  match fraction? with
  | none => none
  | some (fraction, rest) =>
    match exponentMark? rest with
    | none => if fraction = [] then none else some (fraction, 0, rest)
    | some exponent =>
      let (negative, unsigned) := sign exponent
      match digits? Char.isDigit unsigned with
      | none => none
      | some (digits, rest) =>
        let power : Int := Text.digitsValue digits
        some (fraction, if negative then -power else power, rest)

-- A number too large for its type is refused, but only on the positive side.
def real? (negative : Bool) (whole : List Char) (text : List Char) : Option (Toml × List Char) :=
  match tail? text with
  | none => none
  | some (fraction, power, rest) =>
    let value := Decimal.Literal.value
      ⟨negative, Text.digitsValue (whole ++ fraction), power - fraction.length⟩
    if value = .infinite false then none else some (.real value, rest)

def number? (text : List Char) : Option (Toml × List Char) :=
  match text with
  | '0' :: 'x' :: rest => prefixed? 16 rest
  | '0' :: 'o' :: rest => prefixed? 8 rest
  | '0' :: 'b' :: rest => prefixed? 2 rest
  | text =>
    let (negative, unsigned) := sign text
    match unsigned with
    | 'i' :: 'n' :: 'f' :: rest => some (.real (.infinite negative), rest)
    | 'n' :: 'a' :: 'n' :: rest => some (.real .nan, rest)
    | unsigned =>
      match whole? unsigned with
      | none => none
      | some (whole, rest) =>
        match real? negative whole rest with
        | some found => some found
        | none =>
          let value : Int := Text.digitsValue whole
          (Text.inInt64? (if negative then -value else value)).map fun value => (.integer value, rest)

end SceneInspector.Toml
