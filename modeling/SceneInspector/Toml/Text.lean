import SceneInspector.Toml.Basic

namespace SceneInspector.Toml

def hexDigit? (c : Char) : Option Nat :=
  if '0' ≤ c ∧ c ≤ '9' then some (c.toNat - '0'.toNat)
  else if 'a' ≤ c ∧ c ≤ 'f' then some (c.toNat - 'a'.toNat + 10)
  else if 'A' ≤ c ∧ c ≤ 'F' then some (c.toNat - 'A'.toNat + 10)
  else none

def codePoint? (digits : List Char) : Option Char := do
  let values ← digits.mapM hexDigit?
  let point := values.foldl (fun value digit => 16 * value + digit) 0
  if point < 0xD800 ∨ (0xDFFF < point ∧ point < 0x110000) then some (Char.ofNat point) else none

def escaped? : Char → Option Char
  | 'b' => some '\x08'
  | 't' => some '\t'
  | 'n' => some '\n'
  | 'f' => some '\x0c'
  | 'r' => some '\r'
  | '"' => some '"'
  | '\\' => some '\\'
  | _ => none

def escape? (text : List Char) : Option (Char × List Char) :=
  match text with
  | 'u' :: rest =>
    if rest.length < 4 then none else (codePoint? (rest.take 4)).map (·, rest.drop 4)
  | 'U' :: rest =>
    if rest.length < 8 then none else (codePoint? (rest.take 8)).map (·, rest.drop 8)
  | c :: rest => (escaped? c).map (·, rest)
  | [] => none

def made (read : List Char) : String := String.ofList read.reverse

-- The readers below keep what they have read in reverse. Fuel is the length of the text.

def basic? (fuel : Nat) (read : List Char) (text : List Char) : Option (String × List Char) :=
  match fuel with
  | 0 => none
  | fuel + 1 =>
    match text with
    | '"' :: rest => some (made read, rest)
    | '\\' :: rest =>
      match escape? rest with
      | some (c, rest) => basic? fuel (c :: read) rest
      | none => none
    | c :: rest => if isCommentChar c then basic? fuel (c :: read) rest else none
    | [] => none

def literal? (text : List Char) : Option (String × List Char) :=
  let body := text.takeWhile fun c => c ≠ '\'' && isCommentChar c
  match text.drop body.length with
  | '\'' :: rest => some (String.ofList body, rest)
  | _ => none

-- A run of quotes in a text of several lines. Fewer than three belong to the text; three close it,
-- and up to two before those belong to it too.
def quotes? (mark : Char) (text : List Char) : Nat × Bool × List Char :=
  let count := (text.takeWhile (· = mark)).length
  if count < 3 then (count, false, text.drop count)
  else
    let kept := min (count - 3) 2
    (kept, true, text.drop (kept + 3))

def joinLines? (text : List Char) : Option (List Char) :=
  match newline? (skipSpace text) with
  | none => none
  | some rest => some (afterBlanks rest.length rest)
where
  afterBlanks (fuel : Nat) (text : List Char) : List Char :=
    match fuel with
    | 0 => text
    | fuel + 1 =>
      match newline? (skipSpace text) with
      | some next => afterBlanks fuel next
      | none => skipSpace text

def multiline? (fuel : Nat) (mark : Char) (read : List Char) (text : List Char) :
    Option (String × List Char) :=
  match fuel with
  | 0 => none
  | fuel + 1 =>
    match newline? text with
    | some rest => multiline? fuel mark ('\n' :: read) rest
    | none =>
      match text with
      | [] => none
      | c :: rest =>
        if c = mark then
          let (kept, closed, rest) := quotes? mark (c :: rest)
          let read := List.replicate kept mark ++ read
          if closed then some (made read, rest) else multiline? fuel mark read rest
        else if c = '\\' ∧ mark = '"' then
          match joinLines? rest with
          | some next => multiline? fuel mark read next
          | none =>
            match escape? rest with
            | some (c, rest) => multiline? fuel mark (c :: read) rest
            | none => none
        else if isCommentChar c then multiline? fuel mark (c :: read) rest
        else none

def withoutFirstNewline (text : List Char) : List Char := (newline? text).getD text

def text? (text : List Char) : Option (String × List Char) :=
  match text with
  | '"' :: '"' :: '"' :: rest => multiline? (rest.length + 1) '"' [] (withoutFirstNewline rest)
  | '"' :: rest => basic? (rest.length + 1) [] rest
  | '\'' :: '\'' :: '\'' :: rest => multiline? (rest.length + 1) '\'' [] (withoutFirstNewline rest)
  | '\'' :: rest => literal? rest
  | _ => none

def isBareKeyChar (c : Char) : Bool := c.isAlphanum || c = '_' || c = '-'

def keyPart? (text : List Char) : Option (String × List Char) :=
  match text with
  | '"' :: rest => basic? (rest.length + 1) [] rest
  | '\'' :: rest => literal? rest
  | text =>
    let bare := text.takeWhile isBareKeyChar
    if bare = [] then none else some (String.ofList bare, text.drop bare.length)

def key? (fuel : Nat) (text : List Char) : Option (List String × List Char) :=
  match fuel with
  | 0 => none
  | fuel + 1 =>
    match keyPart? (skipSpace text) with
    | none => none
    | some (part, rest) =>
      match skipSpace rest with
      | '.' :: rest =>
        match key? fuel rest with
        | some (others, rest) => some (part :: others, rest)
        | none => none
      | rest => some ([part], rest)

end SceneInspector.Toml
