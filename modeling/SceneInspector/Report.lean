import SceneInspector.Session.Update

namespace SceneInspector.Report

def marker : Summary.Kind → String
  | .detailAndActive => "*"
  | .active => " "

def caption (item : Summary.Item) : String :=
  if item.visible then item.title else "[" ++ toString item.element.toNat ++ "]"

def line (depth : Nat) (item : Summary.Item) (folded : Option Nat) : String :=
  String.ofList (List.replicate (2 * depth) ' ') ++ marker item.kind ++ " " ++ caption item ++
    " (" ++ item.path ++ ")" ++
    (if item.mainColour = "" then "" else " " ++ item.mainColour) ++
    (match folded with
      | some count => " +" ++ toString count
      | none => "") ++ "\n"

def linesFrom (level depth : Nat) : Forest Summary.Item → String
  | .empty => ""
  | .cons item children rest =>
    let folded := !children.isEmpty && level ≤ depth
    line depth item (if folded then some children.trees.length else none) ++
      (if folded then "" else linesFrom level (depth + 1) children) ++
      linesFrom level depth rest

def summary (state : State) : String :=
  linesFrom state.summary.expandLevel 0 state.summary.roots

def editorJson (session : Editor.Session) : Json :=
  .object [("path", .string session.path), ("model", session.model.toJson),
    ("controls", .array (session.controls.map Editor.Control.toJson))]

-- Presses the edit button of an element's item, and shows the editor that is then open.
def editor (state : State) (id : ElementId) : State × Except Fault String :=
  match state.summary.item? id with
  | none => (state, .error (.elementNotFound id))
  | some item =>
    let pressed := (state.update (.detailPressed item.root.path)).1
    match pressed.editor.session with
    | some session => (pressed, .ok (editorJson session).pretty)
    | none => (pressed, .error (.scene ("element " ++ toString id.toNat ++ " has no editor")))

def rootsOfText? (text : String) : Option (Forest Element) :=
  (Json.read? text).bind Element.forestOfJson?

def load (settings : Settings) (roots : Forest Element) : Except Fault State :=
  match State.ofSettings settings with
  | .ok state => .ok (state.update (.scene (.managerInit roots))).1
  | .error fault => .error fault

end SceneInspector.Report
