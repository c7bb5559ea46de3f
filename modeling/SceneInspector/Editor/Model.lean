import SceneInspector.Editor.Value
import SceneInspector.Element.Basic

namespace SceneInspector.Editor
open Schema

structure Record where
  label : String
  value : Value
  entry : Entry
deriving DecidableEq, Repr

-- What an editor shows of one element. The type name is the full one, as a call needs it.
structure Model where
  element : ElementId
  typeName : String
  title : String
  records : List Record
  maxLabelWidth : Nat
deriving DecidableEq, Repr

def Record.ofEntry (colours : Colour.Index) (element : Element) (entry : Entry) : Record :=
  ⟨entry.name, .ofMember colours entry.kind (element.field? entry.member), entry⟩

def widestLabel (entries : List Entry) : Nat :=
  entries.foldl (fun width entry => max width entry.name.length) 0

def Model.ofEntries (colours : Colour.Index) (element : Element) (entries : List Entry) : Model where
  element := element.id
  typeName := element.typeName
  title := element.name ++ " (" ++ element.shortType ++ ")"
  records := entries.map (Record.ofEntry colours element)
  maxLabelWidth := widestLabel entries

def Record.toJson (record : Record) : Json :=
  .object [("label", .string record.label), ("value", record.value.toJson),
    ("entry", record.entry.toJson)]

def Model.toJson (model : Model) : Json :=
  .object [("element_id", .natural model.element.toNat), ("element_type", .string model.typeName),
    ("title", .string model.title), ("records", .array (model.records.map Record.toJson)),
    ("max_label_width", .natural model.maxLabelWidth)]

end SceneInspector.Editor
