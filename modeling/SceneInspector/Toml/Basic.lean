import SceneInspector.Decimal.Binary64

namespace SceneInspector

-- A value of a configuration file. A moment is kept as its text in one spelling.
inductive Toml where
  | string (value : String)
  | integer (value : Int)
  | real (value : Binary64)
  | bool (value : Bool)
  | moment (text : String)
  | array (items : List Toml)
  | table (entries : List (String × Toml))
deriving Inhabited, Repr

namespace Toml

-- A reader answers with what it found and the characters after it.

def isSpace (c : Char) : Bool := c = ' ' || c = '\t'

def skipSpace (text : List Char) : List Char := text.dropWhile isSpace

def isCommentChar (c : Char) : Bool := c = '\t' || (0x20 ≤ c.toNat && c.toNat ≠ 0x7F)

def skipComment : List Char → List Char
  | '#' :: rest => rest.dropWhile isCommentChar
  | text => text

def newline? : List Char → Option (List Char)
  | '\n' :: rest => some rest
  | '\r' :: '\n' :: rest => some rest
  | _ => none

def endOfLine? (text : List Char) : Option (List Char) :=
  match skipComment (skipSpace text) with
  | [] => some []
  | rest => newline? rest

-- Blanks, comments and line ends between the parts of an array. Each step takes a line end.
def skipLines (fuel : Nat) (text : List Char) : List Char :=
  match fuel with
  | 0 => text
  | fuel + 1 =>
    let rest := skipComment (skipSpace text)
    match newline? rest with
    | some next => skipLines fuel next
    | none => rest

end SceneInspector.Toml
