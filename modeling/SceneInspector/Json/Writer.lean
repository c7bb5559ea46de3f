import SceneInspector.Decimal.Layout
import SceneInspector.Json.Basic

namespace SceneInspector.Json

def escapeHex (point : Nat) : List Char :=
  let digits := Nat.toDigits 16 point
  '\\' :: 'u' :: List.replicate (4 - digits.length) '0' ++ digits

def escape (c : Char) : List Char :=
  match c with
  | '"' => ['\\', '"']
  | '\\' => ['\\', '\\']
  | '\x08' => ['\\', 'b']
  | '\t' => ['\\', 't']
  | '\n' => ['\\', 'n']
  | '\x0c' => ['\\', 'f']
  | '\r' => ['\\', 'r']
  | c => if c.toNat < 0x20 then escapeHex c.toNat else [c]

def quote (text : String) : String :=
  String.ofList ('"' :: text.toList.flatMap escape ++ ['"'])

def Number.text : Number → String
  | .integer value => toString value
  | .real value => String.ofList (Decimal.document.text value)

mutual
def compact : Json → String
  | .null => "null"
  | .bool value => if value then "true" else "false"
  | .number value => value.text
  | .string value => quote value
  | .array items => "[" ++ String.intercalate "," (compactItems items) ++ "]"
  | .object members => "\x7b" ++ String.intercalate "," (compactMembers members) ++ "\x7d"
termination_by structural value => value
def compactItems : List Json → List String
  | [] => []
  | item :: rest => item.compact :: compactItems rest
termination_by structural items => items
def compactMembers : List (String × Json) → List String
  | [] => []
  | (name, value) :: rest => (quote name ++ ":" ++ value.compact) :: compactMembers rest
termination_by structural members => members
end

def newline (indent : Nat) : String := "\n" ++ String.ofList (List.replicate (2 * indent) ' ')

def bracketed (opening closing : String) (indent : Nat) : List String → String
  | [] => opening ++ closing
  | entries =>
    opening ++ String.intercalate "," (entries.map (newline (indent + 1) ++ ·)) ++
      newline indent ++ closing

mutual
def indented (indent : Nat) : Json → String
  | .array items => bracketed "[" "]" indent (indentedItems (indent + 1) items)
  | .object members => bracketed "\x7b" "\x7d" indent (indentedMembers (indent + 1) members)
  | .null => "null"
  | .bool value => if value then "true" else "false"
  | .number value => value.text
  | .string value => quote value
termination_by structural value => value
def indentedItems (indent : Nat) : List Json → List String
  | [] => []
  | item :: rest => item.indented indent :: indentedItems indent rest
termination_by structural items => items
def indentedMembers (indent : Nat) : List (String × Json) → List String
  | [] => []
  | (name, value) :: rest =>
    (quote name ++ ": " ++ value.indented indent) :: indentedMembers indent rest
termination_by structural members => members
end

def pretty (value : Json) : String := value.indented 0

end SceneInspector.Json
