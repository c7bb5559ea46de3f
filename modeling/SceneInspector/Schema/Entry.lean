import SceneInspector.Json.Record

namespace SceneInspector.Schema

inductive ValueKind where
  | bool
  | number
  | string
  | colour
  | action
  | unsupported
deriving DecidableEq, Repr

namespace ValueKind

def name : ValueKind → String
  | .bool => "Bool"
  | .number => "Number"
  | .string => "String"
  | .colour => "Color"
  | .action => "Action"
  | .unsupported => "Unsupported"

def ofName (name : String) : ValueKind :=
  if name = "Bool" then .bool
  else if name = "Number" then .number
  else if name = "String" then .string
  else if name = "Color" then .colour
  else if name = "Action" then .action
  else .unsupported

def ofJson? (value : Json) : Option ValueKind := value.string?.map ofName

def toJson (kind : ValueKind) : Json := .string kind.name

end ValueKind

structure Entry where
  name : String
  member : String
  verb : String
  kind : ValueKind
  quoted : Bool
deriving DecidableEq, Repr

namespace Entry

def plain (name : String) (kind : ValueKind) : Entry :=
  ⟨name, "f" ++ name, "Set" ++ name, kind, false⟩

def bool (name : String) : Entry := plain name .bool

def number (name : String) : Entry := plain name .number

def string (name : String) : Entry := plain name .string

def action (name verb : String) : Entry :=
  { plain name .action with member := "fElementId", verb }

def colour (stem : String) : Entry :=
  { plain stem .colour with verb := "Set" ++ stem ++ "RGB" }

def mainColour (label : String) (commonSetter : Bool) : Entry :=
  { plain label .colour with
    member := "fMainColor"
    verb := "Set" ++ (if commonSetter then "MainColor" else label) ++ "RGB" }

def inQuotes (entry : Entry) : Entry := { entry with quoted := true }

def readFrom (entry : Entry) (member : String) : Entry := { entry with member }

def calling (entry : Entry) (verb : String) : Entry := { entry with verb }

def toJson (entry : Entry) : Json :=
  .object [("name", .string entry.name), ("backing_field", .string entry.member),
    ("invocation_verb", .string entry.verb), ("value_kind", entry.kind.toJson),
    ("quoted", .bool entry.quoted)]

end Entry

-- The entries of one element type, after those of the types it inherits from.
structure Class where
  parents : List String := []
  entries : List Entry
deriving DecidableEq, Repr

end SceneInspector.Schema
