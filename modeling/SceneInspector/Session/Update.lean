import SceneInspector.Message.Basic
import SceneInspector.Pick
import SceneInspector.Session.State

namespace SceneInspector

inductive Action where
  | invoke (call : Call) (target : Call.Target)
  | sendPanel (text : String)
  | highlight (pick : Pick)
  | cancelHighlight
deriving DecidableEq, Repr

namespace State

def settle (state : State) : State :=
  let settled := state.summary.flush state.catalogue state.scene
  match settled.2 with
  | .rebuilt => { state with summary := settled.1, editor := .closed }
  | _ => { state with summary := settled.1 }

def settleOutsideBatch (state : State) : State := if state.inBatch then state else state.settle

-- A new tree. Picks that wait refer to the old one.
def managerInit (state : State) (roots : Forest Element) : State :=
  let rebuilt := { state with scene := state.scene.replace roots, inBatch := false }.rebuildSummary
  { rebuilt with registeredScenes := rebuilt.scene.sceneIds }

def refreshEditor (state : State) (id : ElementId) : State :=
  if state.editor.editing? = some id then
    match state.scene.element? id with
    | some tree => { state with editor := (state.editor.refresh state.toolkit tree.root).1 }
    | none => state
  else state

def elementChanged (state : State) (change : Element.Change) : State :=
  let id := change.snapshot.root.id
  if state.receives id then
    let applied := { state with scene := (state.scene.apply change.snapshot).1 }.refreshEditor id
    { applied with
      summary := applied.summary.applyChange applied.catalogue applied.scene change
      }.settleOutsideBatch
  else state

def elementsRemoved (state : State) (ids : List ElementId) : State :=
  let removed := state.scene.remove (ids.filter state.receives)
  let marked := { state with scene := removed.1 }
  if 0 < removed.2 then
    { marked with summary := marked.summary.applyRemoval }.settleOutsideBatch
  else marked.settleOutsideBatch

def notice (state : State) : Message.SceneNotice → State × List Action
  | .managerInit roots => (state.managerInit roots, [.cancelHighlight])
  | .beginChanges => ({ state with inBatch := true }, [])
  | .elementChanged change => (state.elementChanged change, [])
  | .elementsRemoved ids => (state.elementsRemoved ids, [])
  | .endChanges => ({ state with inBatch := false }.settle, [])

def select (state : State) (selection element : ElementId) : State :=
  match state.scene.element? selection with
  | some tree => { state with summary := (state.summary.select tree.root element).1 }
  | none => state

def unselect (state : State) (selection element : ElementId) : State :=
  match state.scene.element? selection with
  | some tree => { state with summary := (state.summary.unselect tree.root element).1 }
  | none => state

def detailPressed (state : State) (path : String) : State :=
  match state.summary.atPath? path with
  | none => state
  | some item =>
    match item.root.kind, state.scene.element? item.root.element with
    | .detailAndActive, some tree =>
      { state with editor := (state.editor.toggle state.toolkit path tree.root).1 }
    | _, _ => state

def tickActions (state : State) (items : List Message.Ticked) : List Action :=
  items.filterMap fun item => do
    let shown ← state.summary.atPath? item.path
    let live ← state.scene.element? shown.root.element
    pure (.invoke ⟨"SetRnrSelf", [.bool item.selected]⟩ ⟨live.root.id, live.root.typeName⟩)

def hoverActions (state : State) (element : Option ElementId) : List Action :=
  match state.highlightSelection? with
  | some selection => [.highlight ⟨element, selection.id⟩]
  | none => []

def controlEdited (state : State) (index : Nat) (event : Editor.Control.Event) :
    State × List Action :=
  match state.editor.edit index event with
  | (editor, some (call, target)) => ({ state with editor }, [.invoke call target])
  | (_, none) => (state, [])

def fitCommand (state : State) (command : Fit.Command) : State × List Action :=
  let performed := state.fit.perform command
  ({ state with fit := performed.1 }, (performed.2.map Action.sendPanel).toList)

def update (state : State) : Message → State × List Action
  | .scene notice => state.notice notice
  | .panel text => ({ state with fit := (state.fit.receive text).1 }, [])
  | .selectElement selection element => (state.select selection element, [])
  | .unselectElement selection element => (state.unselect selection element, [])
  | .selectionChanged items => (state, state.tickActions items)
  | .detailPressed path => (state.detailPressed path, [])
  | .mouseEnter element =>
    (state, state.hoverActions ((state.summary.item? element).map (·.root.element)))
  | .mouseLeave => (state, state.hoverActions none)
  | .controlEdited index event => state.controlEdited index event
  | .closeEditor => ({ state with editor := .closed }, [])
  | .fit command => state.fitCommand command
  | .quit => ({ state with quitRequested := true }, [])

end SceneInspector.State
