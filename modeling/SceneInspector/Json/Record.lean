import SceneInspector.Json.Basic

namespace SceneInspector.Json

abbrev Members := List (String × Json)

inductive Presence where
  | absent
  | once (value : Json)
  | repeated
deriving DecidableEq

def presence (name : String) : Members → Presence
  | [] => .absent
  | (other, value) :: rest =>
    if other = name then
      match presence name rest with
      | .absent => .once value
      | _ => .repeated
    else presence name rest

def required {α : Type} (members : Members) (name : String) (read : Json → Option α) : Option α :=
  match presence name members with
  | .once value => read value
  | _ => none

-- A member with a default. An explicit null is not the default.
def defaulted {α : Type} (members : Members) (name : String) (read : Json → Option α)
    (default : α) : Option α :=
  match presence name members with
  | .absent => some default
  | .once value => read value
  | .repeated => none

def nullable {α : Type} (members : Members) (name : String) (read : Json → Option α) :
    Option (Option α) :=
  match presence name members with
  | .absent => some none
  | .once .null => some none
  | .once value => (read value).map some
  | .repeated => none

def string? : Json → Option String
  | .string value => some value
  | _ => none

def bool? : Json → Option Bool
  | .bool value => some value
  | _ => none

def items? : Json → Option (List Json)
  | .array items => some items
  | _ => none

def members? : Json → Option Members
  | .object members => some members
  | _ => none

def list? {α : Type} (read : Json → Option α) (value : Json) : Option (List α) := do
  (← value.items?).mapM read

def real? : Json → Option Binary64
  | .number value => if value.toBinary64.isFinite then some value.toBinary64 else none
  | _ => none

def signed? : Json → Option Int
  | .number (.integer value) => Text.inInt64? value
  | _ => none

def count? (value : Json) : Option Nat := value.bounded? Text.maxUInt64

-- The members of a record. An array may list the values instead, in the order of the fields, and
-- may end before the optional ones.
def fields? (needed optional : List String) : Json → Option Members
  | .object members => some members
  | .array items =>
    let names := needed ++ optional
    if needed.length ≤ items.length ∧ items.length ≤ names.length then some (names.zip items)
    else none
  | _ => none

-- A record with nothing in it. The members of an object are ignored, but an array has to be empty.
def bare? (value : Json) : Option Unit := (value.fields? [] []).map fun _ => ()

def single? {α : Type} (name : String) (read : Json → Option α) (value : Json) : Option α := do
  required (← value.fields? [name] []) name read

-- The tag that says which variant a value is, and what is left to read the variant from. The tag
-- stands once among the members, at any place, or first in an array.
def tagged? (tag : String) : Json → Option (Json × Json)
  | .object members =>
    match presence tag members with
    | .once value => some (value, .object (members.filter fun member => member.1 ≠ tag))
    | _ => none
  | .array (value :: items) => some (value, .array items)
  | _ => none

-- By its position a variant may only be told below the outermost value of a text.
inductive Tagging where
  | byName
  | byNameOrPosition
deriving DecidableEq

def variant? (tagging : Tagging) (names : List String) : Json → Option String
  | .string name => if name ∈ names then some name else none
  | .number (.integer value) =>
    match tagging with
    | .byName => none
    | .byNameOrPosition => if 0 ≤ value then names[value.toNat]? else none
  | _ => none

def chosen? {α : Type} (tagging : Tagging) (tag : String) (names : List String)
    (read : String → Json → Option α) (value : Json) : Option α := do
  let (told, rest) ← value.tagged? tag
  read (← variant? tagging names told) rest

end SceneInspector.Json
