import SceneInspector.Toml.Draft
import SceneInspector.Toml.Moment
import SceneInspector.Toml.Number

namespace SceneInspector.Toml

-- How deep arrays and inline tables may be nested, and how many parts a key may have.
def depthLimit : Nat := 80

def splitKey? (parts : List String) : Option (List String × String) :=
  if depthLimit ≤ parts.length then none
  else parts.getLast?.map fun last => (parts.dropLast, last)

def scalar? (text : List Char) : Option (Toml × List Char) :=
  match text with
  | '"' :: _ | '\'' :: _ => (text? text).map fun (value, rest) => (.string value, rest)
  | 't' :: 'r' :: 'u' :: 'e' :: rest => some (.bool true, rest)
  | 'f' :: 'a' :: 'l' :: 's' :: 'e' :: rest => some (.bool false, rest)
  | text => (moment? text).or (number? text)

mutual
-- `depth` counts the containers that may still be opened.
def value? (fuel depth : Nat) (text : List Char) : Option (Toml × List Char) :=
  match fuel with
  | 0 => none
  | fuel + 1 =>
    match text with
    | '[' :: rest =>
      match depth with
      | 0 => none
      | depth + 1 => items? fuel depth [] rest
    | '\x7b' :: rest =>
      match depth with
      | 0 => none
      | depth + 1 =>
        match skipSpace rest with
        | '\x7d' :: rest => some (.table [], rest)
        | rest => entries? fuel depth {} rest
    | text => scalar? text
termination_by structural fuel

def items? (fuel depth : Nat) (read : List Toml) (text : List Char) : Option (Toml × List Char) :=
  match fuel with
  | 0 => none
  | fuel + 1 =>
    match skipLines text.length text with
    | ']' :: rest => some (.array read.reverse, rest)
    | text =>
      match value? fuel depth text with
      | none => none
      | some (item, rest) =>
        match skipLines rest.length rest with
        | ',' :: rest => items? fuel depth (item :: read) rest
        | ']' :: rest => some (.array (item :: read).reverse, rest)
        | _ => none
termination_by structural fuel

def entries? (fuel depth : Nat) (table : Table) (text : List Char) : Option (Toml × List Char) :=
  match fuel with
  | 0 => none
  | fuel + 1 =>
    match (key? (text.length + 1) text).bind fun (parts, rest) => (splitKey? parts).map (·, rest) with
    | some ((path, name), '=' :: rest) =>
      match value? fuel depth (skipSpace rest) with
      | none => none
      | some (value, rest) =>
        match table.add path name value with
        | none => none
        | some table =>
          match skipSpace rest with
          | ',' :: rest => entries? fuel depth table rest
          | '\x7d' :: rest => some (.table (frozenEntries table.entries), rest)
          | _ => none
    | _ => none
termination_by structural fuel
end

structure Document where
  root : Table := {}
  current : List String := []

def keyedBy? (text : List Char) : Option ((List String × String) × List Char) :=
  (key? (text.length + 1) text).bind fun (parts, rest) => (splitKey? parts).map (·, rest)

def Document.header? (document : Document) (text : List Char) : Option (Document × List Char) :=
  match text with
  | '[' :: '[' :: rest => do
    let ((path, name), ']' :: ']' :: rest) ← keyedBy? rest | none
    pure (⟨← document.root.openNext path name, path ++ [name]⟩, ← endOfLine? rest)
  | '[' :: rest => do
    let ((path, name), ']' :: rest) ← keyedBy? rest | none
    pure (⟨← document.root.openTable path name, path ++ [name]⟩, ← endOfLine? rest)
  | _ => none

def Document.entry? (document : Document) (text : List Char) : Option (Document × List Char) := do
  let ((path, name), '=' :: rest) ← keyedBy? text | none
  let (value, rest) ← value? (2 * rest.length + 2) (depthLimit - 1) (skipSpace rest)
  let root ← document.root.descend false (Table.add path name value) document.current
  pure ({ document with root }, ← endOfLine? rest)

-- Lines one after another. Each takes at least one character.
def Document.lines? (fuel : Nat) (document : Document) (text : List Char) : Option Document :=
  match fuel with
  | 0 => none
  | fuel + 1 =>
    match skipSpace text with
    | [] => some document
    | '#' :: rest => (endOfLine? ('#' :: rest)).bind (lines? fuel document)
    | '\n' :: rest => lines? fuel document rest
    | '\r' :: rest => (newline? ('\r' :: rest)).bind (lines? fuel document)
    | '[' :: rest => (document.header? ('[' :: rest)).bind fun (read, rest) => lines? fuel read rest
    | line => (document.entry? line).bind fun (read, rest) => lines? fuel read rest

def withoutByteOrderMark (text : List Char) : List Char :=
  match text with
  | '\uFEFF' :: rest => rest
  | text => text

def read? (text : String) : Option (List (String × Toml)) :=
  let chars := withoutByteOrderMark text.toList
  (Document.lines? (chars.length + 1) {} chars).map fun document =>
    frozenEntries document.root.entries

end SceneInspector.Toml
