import SceneInspector.Fault
import SceneInspector.Schema.Registry
import SceneInspector.Text.Blank

namespace SceneInspector.Schema

structure EntryDefinition where
  name : String
  member : Option String := none
  verb : Option String := none
  kind : ValueKind
  quoted : Bool := false
deriving DecidableEq, Repr

structure Definition where
  className : String
  parents : List String := []
  entries : List EntryDefinition := []
deriving DecidableEq, Repr

inductive Definition.Flaw where
  | unnamedClass
  | unnamedEntry (className : String) (kind : ValueKind)
deriving DecidableEq, Repr

def Definition.Flaw.fault : Definition.Flaw → Fault
  | .unnamedClass => .schema "<unnamed>" "class name is empty"
  | .unnamedEntry className kind =>
    .schema className ("entry with empty name (type " ++ kind.name ++ ")")

def EntryDefinition.entry (definition : EntryDefinition) : Entry :=
  { Entry.plain definition.name definition.kind with
    member := definition.member.getD ("f" ++ definition.name)
    verb := definition.verb.getD ("Set" ++ definition.name)
    quoted := definition.quoted }

def Definition.schema (definition : Definition) : Class :=
  ⟨definition.parents, definition.entries.map EntryDefinition.entry⟩

def Definition.flaw? (definition : Definition) : Option Definition.Flaw :=
  if Text.allBlank definition.className then some .unnamedClass
  else (definition.entries.find? fun entry => Text.allBlank entry.name).map
    fun entry => .unnamedEntry definition.className entry.kind

def Registry.define (registry : Registry) : List Definition → Except Definition.Flaw Registry
  | [] => .ok registry
  | definition :: rest =>
    match definition.flaw? with
    | some flaw => .error flaw
    | none =>
      define (registry.insert (Element.shortTypeName definition.className) definition.schema) rest

namespace EntryDefinition
open Json

def ofJson? (value : Json) : Option EntryDefinition := do
  let members ← value.members?
  pure ⟨← required members "name" string?, ← nullable members "member" string?,
    ← nullable members "srv" string?, ← required members "type" ValueKind.ofJson?,
    ← defaulted members "quote" bool? false⟩

def toJson (definition : EntryDefinition) : Json :=
  .object ([("name", .string definition.name)] ++
    (definition.member.map fun member => ("member", .string member)).toList ++
    (definition.verb.map fun verb => ("srv", .string verb)).toList ++
    [("type", definition.kind.toJson), ("quote", .bool definition.quoted)])

end EntryDefinition

namespace Definition
open Json

def ofJson? (value : Json) : Option Definition := do
  let members ← value.members?
  pure ⟨← required members "class" string?, ← defaulted members "sub" (list? string?) [],
    ← defaulted members "entries" (list? EntryDefinition.ofJson?) []⟩

def toJson (definition : Definition) : Json :=
  .object [("class", .string definition.className), ("sub", strings definition.parents),
    ("entries", .array (definition.entries.map EntryDefinition.toJson))]

end SceneInspector.Schema.Definition
