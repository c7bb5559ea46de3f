import SceneInspector.Colour.Index
import SceneInspector.Json.Writer
import SceneInspector.Schema.Entry

namespace SceneInspector.Editor
open Schema

-- The present value of one property. A colour is unset when its index is unknown.
inductive Value where
  | bool (value : Bool)
  | number (value : Binary64)
  | string (value : String)
  | colour (value : Option String)
  | action
  | unsupported (raw : Json)
deriving DecidableEq, Repr

namespace Value

def boolOf : Option Json → Bool
  | some (.bool value) => value
  | some (.number value) => !value.toBinary64.isZero
  | _ => false

def numberOf : Option Json → Binary64
  | some (.number value) => value.toBinary64
  | some (.string text) => (Decimal.number? (Text.trimmed text.toList)).getD .zero
  | some (.bool value) => if value then .one else .zero
  | _ => .zero

def stringOf : Option Json → String
  | some (.string text) => text
  | some .null | none => ""
  | some other => other.compact

def colourOf (colours : Colour.Index) : Option Json → Option String
  | some (.string text) => some text
  | some value => value.word?.bind colours.lookup?
  | none => none

def ofMember (colours : Colour.Index) (kind : ValueKind) (raw : Option Json) : Value :=
  match kind with
  | .bool => .bool (boolOf raw)
  | .number => .number (numberOf raw)
  | .string => .string (stringOf raw)
  | .colour => .colour (colourOf colours raw)
  | .action => .action
  | .unsupported => .unsupported (raw.getD .null)

def kind : Value → ValueKind
  | .bool _ => .bool
  | .number _ => .number
  | .string _ => .string
  | .colour _ => .colour
  | .action => .action
  | .unsupported _ => .unsupported

@[simp] theorem kind_ofMember (colours : Colour.Index) (wanted : ValueKind) (raw : Option Json) :
    (ofMember colours wanted raw).kind = wanted := by
  cases wanted <;> rfl

def toJson : Value → Json
  | .bool value => .object [("kind", .string "Bool"), ("value", .bool value)]
  | .number value => .object [("kind", .string "Number"), ("value", .real value)]
  | .string value => .object [("kind", .string "String"), ("value", .string value)]
  | .colour value => .object [("kind", .string "Color"), ("value", .optional .string value)]
  | .action => .object [("kind", .string "Action")]
  | .unsupported raw => .object [("kind", .string "Unsupported"), ("value", raw)]

end SceneInspector.Editor.Value
