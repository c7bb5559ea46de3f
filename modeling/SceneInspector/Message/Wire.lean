import SceneInspector.Json.Reader
import SceneInspector.Message.Basic
import SceneInspector.Text.Blank

namespace SceneInspector.Message
open Json

def SceneNotice.names : List String :=
  ["manager_init", "begin_changes", "element_changed", "elements_removed", "end_changes"]

def SceneNotice.ofVariant? (name : String) (value : Json) : Option SceneNotice := do
  match name with
  | "manager_init" => pure (.managerInit (← value.single? "roots" Element.forestOfJson?))
  | "begin_changes" => value.bare?.map fun _ => .beginChanges
  | "element_changed" => pure (.elementChanged (← Element.Change.ofJson? value))
  | "elements_removed" => pure (.elementsRemoved (← value.single? "ids" (list? word?)))
  | "end_changes" => value.bare?.map fun _ => .endChanges
  | _ => none

def SceneNotice.ofJson? (tagging : Tagging) : Json → Option SceneNotice :=
  chosen? tagging "kind" names ofVariant?

def SceneNotice.toMembers : SceneNotice → Members
  | .managerInit roots =>
    [("kind", .string "manager_init"), ("roots", .array roots.elementsJson)]
  | .beginChanges => [("kind", .string "begin_changes")]
  | .elementChanged change => ("kind", .string "element_changed") :: change.toMembers
  | .elementsRemoved ids =>
    [("kind", .string "elements_removed"), ("ids", .array (ids.map fun id => .natural id.toNat))]
  | .endChanges => [("kind", .string "end_changes")]

def Ticked.ofJson? (value : Json) : Option Ticked := do
  let members ← value.fields? ["path", "selected"] []
  pure ⟨← required members "path" string?, ← required members "selected" bool?⟩

def Ticked.toJson (item : Ticked) : Json :=
  .object [("path", .string item.path), ("selected", .bool item.selected)]

def names : List String := ["scene", "panel", "select_element", "unselect_element",
  "selection_changed", "detail_pressed", "mouse_enter", "mouse_leave", "control_edited",
  "close_editor", "fit", "quit"]

def ofVariant? (name : String) (value : Json) : Option Message := do
  match name with
  | "scene" => pure (.scene (← SceneNotice.ofJson? .byNameOrPosition value))
  | "panel" => pure (.panel (← value.single? "text" string?))
  | "select_element" => do
    let pair ← value.fields? ["selection_id", "element_id"] []
    pure (.selectElement (← required pair "selection_id" word?) (← required pair "element_id" word?))
  | "unselect_element" => do
    let pair ← value.fields? ["selection_id", "element_id"] []
    pure (.unselectElement (← required pair "selection_id" word?)
      (← required pair "element_id" word?))
  | "selection_changed" =>
    pure (.selectionChanged (← value.single? "items" (list? Ticked.ofJson?)))
  | "detail_pressed" => pure (.detailPressed (← value.single? "path" string?))
  | "mouse_enter" => pure (.mouseEnter (← value.single? "element_id" word?))
  | "mouse_leave" => value.bare?.map fun _ => .mouseLeave
  | "control_edited" => do
    let edit ← value.fields? ["index", "event"] []
    pure (.controlEdited (← required edit "index" count?)
      (← required edit "event" (Editor.Control.Event.ofJson? .byNameOrPosition)))
  | "close_editor" => value.bare?.map fun _ => .closeEditor
  | "fit" => pure (.fit (← Fit.Command.ofJson? .byNameOrPosition value))
  | "quit" => value.bare?.map fun _ => .quit
  | _ => none

def ofJson? : Json → Option Message := chosen? .byName "type" names ofVariant?

def toMembers : Message → Members
  | .scene notice => ("type", .string "scene") :: notice.toMembers
  | .panel text => [("type", .string "panel"), ("text", .string text)]
  | .selectElement selection element =>
    [("type", .string "select_element"), ("selection_id", .natural selection.toNat),
      ("element_id", .natural element.toNat)]
  | .unselectElement selection element =>
    [("type", .string "unselect_element"), ("selection_id", .natural selection.toNat),
      ("element_id", .natural element.toNat)]
  | .selectionChanged items =>
    [("type", .string "selection_changed"), ("items", .array (items.map Ticked.toJson))]
  | .detailPressed path => [("type", .string "detail_pressed"), ("path", .string path)]
  | .mouseEnter element =>
    [("type", .string "mouse_enter"), ("element_id", .natural element.toNat)]
  | .mouseLeave => [("type", .string "mouse_leave")]
  | .controlEdited index event =>
    [("type", .string "control_edited"), ("index", .natural index), ("event", event.toJson)]
  | .closeEditor => [("type", .string "close_editor")]
  | .fit command => ("type", .string "fit") :: command.toMembers
  | .quit => [("type", .string "quit")]

def toJson (message : Message) : Json := .object message.toMembers

inductive Line where
  | blank
  | message (message : Message)
  | malformed
deriving DecidableEq, Repr

def Line.parse (line : String) : Line :=
  let text := Text.trim line
  if text = "" then .blank
  else if text = "q" ∨ text = "quit" then .message .quit
  else match (Json.read? text).bind ofJson? with
    | some found => .message found
    | none => .malformed

end SceneInspector.Message
