import SceneInspector.Json.Numeral

namespace SceneInspector.Json.Reader

def isSpace (c : Char) : Bool := c = ' ' || c = '\t' || c = '\n' || c = '\r'

def skipSpace (text : List Char) : List Char := text.dropWhile isSpace

def hexDigit? (c : Char) : Option Nat :=
  let point := c.toNat
  if '0' ≤ c ∧ c ≤ '9' then some (point - '0'.toNat)
  else if 'a' ≤ c ∧ c ≤ 'f' then some (point - 'a'.toNat + 10)
  else if 'A' ≤ c ∧ c ≤ 'F' then some (point - 'A'.toNat + 10)
  else none

def codeUnit? (a b c d : Char) : Option Nat := do
  let high := 16 * (← hexDigit? a) + (← hexDigit? b)
  let low := 16 * (← hexDigit? c) + (← hexDigit? d)
  pure (256 * high + low)

def escaped? : Char → Option Char
  | '"' => some '"'
  | '\\' => some '\\'
  | '/' => some '/'
  | 'b' => some '\x08'
  | 'f' => some '\x0c'
  | 'n' => some '\n'
  | 'r' => some '\r'
  | 't' => some '\t'
  | _ => none

-- A surrogate stands only in a pair. The characters read so far are kept in reverse.
def quoted? (read : List Char) : List Char → Option (String × List Char)
  | [] => none
  | '"' :: rest => some (String.ofList read.reverse, rest)
  | '\\' :: 'u' :: a :: b :: c :: d :: rest =>
    match codeUnit? a b c d with
    | none => none
    | some high =>
      if 0xDC00 ≤ high ∧ high ≤ 0xDFFF then none
      else if 0xD800 ≤ high ∧ high ≤ 0xDBFF then
        match rest with
        | '\\' :: 'u' :: e :: f :: g :: h :: rest =>
          match codeUnit? e f g h with
          | none => none
          | some low =>
            if 0xDC00 ≤ low ∧ low ≤ 0xDFFF then
              quoted? (Char.ofNat (0x10000 + 0x400 * (high - 0xD800) + (low - 0xDC00)) :: read) rest
            else none
        | _ => none
      else quoted? (Char.ofNat high :: read) rest
  | '\\' :: c :: rest =>
    match escaped? c with
    | none => none
    | some plain => quoted? (plain :: read) rest
  | c :: rest => if c.toNat < 0x20 then none else quoted? (c :: read) rest

mutual
-- `depth` counts the containers that may still be opened. `fuel` bounds the steps and is never
-- reached from `Json.read?`, which gives two for each character.
def value? (fuel depth : Nat) (text : List Char) : Option (Json × List Char) :=
  match fuel with
  | 0 => none
  | fuel + 1 =>
    match skipSpace text with
    | 'n' :: 'u' :: 'l' :: 'l' :: rest => some (.null, rest)
    | 't' :: 'r' :: 'u' :: 'e' :: rest => some (.bool true, rest)
    | 'f' :: 'a' :: 'l' :: 's' :: 'e' :: rest => some (.bool false, rest)
    | '"' :: rest => (quoted? [] rest).map fun (text, rest) => (.string text, rest)
    | '[' :: rest =>
      match depth with
      | 0 => none
      | depth + 1 =>
        match skipSpace rest with
        | ']' :: rest => some (.array [], rest)
        | rest => items? fuel depth [] rest
    | '\x7b' :: rest =>
      match depth with
      | 0 => none
      | depth + 1 =>
        match skipSpace rest with
        | '\x7d' :: rest => some (.object [], rest)
        | rest => members? fuel depth [] rest
    | rest => (number? rest).map fun (numeral, rest) => (.number numeral, rest)
termination_by structural fuel

def items? (fuel depth : Nat) (read : List Json) (text : List Char) : Option (Json × List Char) :=
  match fuel with
  | 0 => none
  | fuel + 1 =>
    match value? fuel depth text with
    | none => none
    | some (item, rest) =>
      match skipSpace rest with
      | ',' :: rest => items? fuel depth (item :: read) rest
      | ']' :: rest => some (.array (item :: read).reverse, rest)
      | _ => none
termination_by structural fuel

def members? (fuel depth : Nat) (read : List (String × Json)) (text : List Char) :
    Option (Json × List Char) :=
  match fuel with
  | 0 => none
  | fuel + 1 =>
    match skipSpace text with
    | '"' :: rest =>
      match quoted? [] rest with
      | none => none
      | some (name, rest) =>
        match skipSpace rest with
        | ':' :: rest =>
          match value? fuel depth rest with
          | none => none
          | some (value, rest) =>
            match skipSpace rest with
            | ',' :: rest => members? fuel depth ((name, value) :: read) rest
            | '\x7d' :: rest => some (.object ((name, value) :: read).reverse, rest)
            | _ => none
        | _ => none
    | _ => none
termination_by structural fuel
end

def maxDepth : Nat := 127

end Reader

def read? (text : String) : Option Json :=
  match Reader.value? (2 * text.length + 2) Reader.maxDepth text.toList with
  | some (value, rest) => if Reader.skipSpace rest = [] then some value else none
  | none => none

end SceneInspector.Json
