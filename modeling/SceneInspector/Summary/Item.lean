import SceneInspector.Editor.Panel
import SceneInspector.Summary.Path

namespace SceneInspector.Summary

inductive Kind where
  | active
  | detailAndActive
deriving DecidableEq, Repr

inductive Paint where
  | plain
  | highlighted
  | selected
deriving DecidableEq, Repr

def highlightName : String := "Global Highlight"

def Paint.ofSelection (selection : Element) : Paint :=
  if selection.name = highlightName then .highlighted else .selected

def Paint.background : Paint → String
  | .plain => ""
  | .highlighted => "rgb(230, 230, 230)"
  | .selected => "rgb(66, 124, 172)"

def Paint.name : Paint → String
  | .plain => "None"
  | .highlighted => "Highlighted"
  | .selected => "Selected"

def Kind.name : Kind → String
  | .active => "Active"
  | .detailAndActive => "DetailAndActive"

structure Item where
  element : ElementId
  master : ElementId
  position : Position
  name : String
  title : String
  kind : Kind := .active
  paint : Paint := .plain
  mainColour : String := ""
  selected : Bool := false
deriving DecidableEq, Repr

namespace Item

def path (item : Item) : String := String.ofList (Path.render item.position)

def visible (item : Item) : Bool := item.name ≠ ""

-- Reads an element anew. The colour and the mark are those of editable elements, and the mark is
-- read only where a colour is set; index zero sets none.
def refreshed (catalogue : Catalogue) (element : Element) (item : Item) : Item :=
  let shown := { item with
    name := element.name
    title := element.displayTitle
    master := element.effectiveMaster }
  if catalogue.registry.isEditable element.typeName then
    match element.mainColour.filter (· ≠ 0) with
    | some index =>
      { shown with
        kind := .detailAndActive
        mainColour := (catalogue.colours.lookup? index).getD ""
        selected := element.rendersSelf.getD false }
    | none => { shown with kind := .detailAndActive, mainColour := "" }
  else { shown with kind := .active }

def ofElement (catalogue : Catalogue) (position : Position) (element : Element) : Item :=
  refreshed catalogue element
    ⟨element.id, element.effectiveMaster, position, "", "", .active, .plain, "", false⟩

def toJson (item : Item) (children : Option (List Json)) : Json :=
  .object ([("name", .string item.name), ("title", .string item.title),
    ("element_id", .natural item.element.toNat), ("master_id", .natural item.master.toNat),
    ("path", .string item.path), ("item_type", .string item.kind.name),
    ("visible", .bool item.visible), ("highlight", .string item.paint.name),
    ("background", .string item.paint.background), ("main_color", .string item.mainColour),
    ("selected", .bool item.selected)] ++
    match children with
    | none => []
    | some children => [("children", .array children)])

end SceneInspector.Summary.Item

namespace SceneInspector

-- An item that nothing is below has no list of children.
def Forest.itemsJson : Forest Summary.Item → List Json
  | .empty => []
  | .cons root children rest =>
    root.toJson (if children.isEmpty then none else some children.itemsJson) :: rest.itemsJson

def Tree.itemJson (tree : Tree Summary.Item) : Json :=
  tree.root.toJson (if tree.children.isEmpty then none else some tree.children.itemsJson)

end SceneInspector
