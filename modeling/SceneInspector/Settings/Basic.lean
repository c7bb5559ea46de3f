import SceneInspector.Colour.Index
import SceneInspector.Editor.Panel
import SceneInspector.Schema.Builtin
import SceneInspector.Schema.Definition

namespace SceneInspector

structure Settings.Summary where
  expandLevel : Nat := 2
  highlightDelay : Nat := 200
  highlightSelection : String := "Global Highlight"
  sizeLimit : Nat := 0
deriving DecidableEq, Repr

def Settings.standardPalette : List String := [
  "gold", "darkorange", "indianred", "rgb(102,51,0)", "cyan", "blue", "lime", "gray", "slategray",
  "rgb(204, 198, 170)", "white", "black", "red", "rgb(102,154,51)", "rgb(200, 0, 200)"]

structure Settings.Editor where
  palette : List String := Settings.standardPalette
  defaultColour : String := "cyan"
  textWidth : UInt32 := 250
deriving DecidableEq, Repr

structure Settings where
  summary : Settings.Summary := {}
  editor : Settings.Editor := {}
  colours : Dictionary String := []
  definitions : List Schema.Definition := []
deriving DecidableEq, Repr

namespace Settings

-- The colours whose keys are indexes, in the order of the keys. Of two spellings of one index the
-- later key counts, and other keys are passed over.
def colourIndex (settings : Settings) : Colour.Index :=
  settings.colours.foldl (fun index entry =>
    match Text.unsigned? Text.maxUInt32 (Text.trimmed entry.1.toList) with
    | some key => index.insert (UInt32.ofNat key) entry.2
    | none => index) {}

def registry (settings : Settings) : Except Fault Schema.Registry :=
  match Schema.Registry.builtin.define settings.definitions with
  | .ok registry => .ok registry
  | .error flaw => .error flaw.fault

def factory (settings : Settings) : SceneInspector.Editor.Factory :=
  ⟨settings.editor.palette, settings.editor.defaultColour, settings.editor.textWidth⟩

def toolkit (settings : Settings) : Except Fault SceneInspector.Editor.Toolkit :=
  match settings.registry with
  | .ok registry => .ok ⟨⟨registry, settings.colourIndex⟩, settings.factory⟩
  | .error fault => .error fault

end SceneInspector.Settings
