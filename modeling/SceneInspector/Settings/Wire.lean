import SceneInspector.Settings.Basic

namespace SceneInspector.Settings
open Json

def Summary.ofJson? (value : Json) : Option Summary := do
  let members ← value.members?
  let standard : Summary := {}
  pure ⟨← defaulted members "expand_level" count? standard.expandLevel,
    ← defaulted members "highlight_debounce_ms" count? standard.highlightDelay,
    ← defaulted members "highlight_selection" string? standard.highlightSelection,
    ← defaulted members "size_limit" count? standard.sizeLimit⟩

def Editor.ofJson? (value : Json) : Option Settings.Editor := do
  let members ← value.members?
  let standard : Settings.Editor := {}
  pure ⟨← defaulted members "palette" (list? string?) standard.palette,
    ← defaulted members "default_color" string? standard.defaultColour,
    ← defaulted members "string_width_px" word? standard.textWidth⟩

def coloursOfJson? (value : Json) : Option (Dictionary String) := do
  let entries ← (← value.members?).mapM fun (name, colour) => colour.string?.map (name, ·)
  pure (Dictionary.ofList entries)

def ofJson? (value : Json) : Option Settings := do
  let members ← value.members?
  pure ⟨← defaulted members "summary" Summary.ofJson? {},
    ← defaulted members "ged" Editor.ofJson? {},
    ← defaulted members "colors" coloursOfJson? [],
    ← defaulted members "schema" (list? Schema.Definition.ofJson?) []⟩

def Summary.toJson (summary : Summary) : Json :=
  .object [("expand_level", .natural summary.expandLevel),
    ("highlight_debounce_ms", .natural summary.highlightDelay),
    ("highlight_selection", .string summary.highlightSelection),
    ("size_limit", .natural summary.sizeLimit)]

def Editor.toJson (editor : Settings.Editor) : Json :=
  .object [("palette", strings editor.palette), ("default_color", .string editor.defaultColour),
    ("string_width_px", .natural editor.textWidth.toNat)]

def toJson (settings : Settings) : Json :=
  .object ([("summary", settings.summary.toJson), ("ged", settings.editor.toJson),
    ("colors", .object (settings.colours.map fun (key, colour) => (key, .string colour)))] ++
    (if settings.definitions = [] then []
      else [("schema", .array (settings.definitions.map Schema.Definition.toJson))]))

end SceneInspector.Settings
