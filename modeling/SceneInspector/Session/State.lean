import SceneInspector.Fit.Panel
import SceneInspector.Settings.Basic
import SceneInspector.Summary.Basic

namespace SceneInspector

structure State where
  settings : Settings
  toolkit : Editor.Toolkit
  scene : Scene := {}
  summary : Summary
  editor : Editor.Panel := {}
  fit : Fit.Panel := .initial
  inBatch : Bool := false
  registeredScenes : List ElementId := []
  quitRequested : Bool := false

namespace State

def catalogue (state : State) : Catalogue := state.toolkit.catalogue

def ofToolkit (settings : Settings) (toolkit : Editor.Toolkit) : State :=
  { settings, toolkit
    summary := .blank settings.summary.expandLevel settings.summary.sizeLimit }

def ofSettings (settings : Settings) : Except Fault State :=
  match settings.toolkit with
  | .ok toolkit => .ok (ofToolkit settings toolkit)
  | .error fault => .error fault

def standardToolkit : Editor.Toolkit :=
  ⟨⟨.builtin, Settings.colourIndex {}⟩, Settings.factory {}⟩

def initial : State := ofToolkit {} standardToolkit

theorem ofSettings_standard : ofSettings {} = .ok initial := rfl

-- A rebuild moves items to other places, so an open editor is closed.
def rebuildSummary (state : State) : State :=
  { state with
    summary := state.summary.rebuild state.catalogue state.scene.roots
    editor := .closed }

-- Whether changes of an element concern the inspector: those in a registered scene do, and without
-- registered scenes all do.
def receives (state : State) (id : ElementId) : Bool :=
  state.registeredScenes.isEmpty ||
    match state.scene.sceneOf? id with
    | some scene => state.registeredScenes.contains scene
    | none => false

def selectionClass : String := "REveSelection"

def highlightSelection? (state : State) : Option Element :=
  (state.scene.roots.find? fun element =>
    element.name = state.settings.summary.highlightSelection &&
      element.shortType = selectionClass).map (·.root)

end SceneInspector.State
