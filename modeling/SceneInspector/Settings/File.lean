import SceneInspector.Settings.Basic
import SceneInspector.Toml.Reader

namespace SceneInspector.Settings

namespace File

def string? : Toml → Option String
  | .string value => some value
  | _ => none

def bool? : Toml → Option Bool
  | .bool value => some value
  | _ => none

def natural? (limit : Nat) : Toml → Option Nat
  | .integer value => if 0 ≤ value ∧ value.toNat ≤ limit then some value.toNat else none
  | _ => none

def list? {α : Type} (read : Toml → Option α) : Toml → Option (List α)
  | .array items => items.mapM read
  | _ => none

-- The name under which a moment shows its text where a table is expected.
def momentEntry : String := "$__toml_private_datetime"

def entries? : Toml → Option (List (String × Toml))
  | .table entries => some entries
  | .moment text => some [(momentEntry, .string text)]
  | _ => none

def defaulted {α : Type} (entries : List (String × Toml)) (name : String) (read : Toml → Option α)
    (default : α) : Option α :=
  match entries.lookup name with
  | some value => read value
  | none => some default

def required {α : Type} (entries : List (String × Toml)) (name : String) (read : Toml → Option α) :
    Option α :=
  (entries.lookup name).bind read

def optional {α : Type} (entries : List (String × Toml)) (name : String) (read : Toml → Option α) :
    Option (Option α) :=
  match entries.lookup name with
  | some value => (read value).map some
  | none => some none

def summary? (value : Toml) : Option Settings.Summary := do
  let entries ← entries? value
  let standard : Settings.Summary := {}
  pure ⟨← defaulted entries "expand_level" (natural? Text.maxUInt64) standard.expandLevel,
    ← defaulted entries "highlight_debounce_ms" (natural? Text.maxUInt64) standard.highlightDelay,
    ← defaulted entries "highlight_selection" string? standard.highlightSelection,
    ← defaulted entries "size_limit" (natural? Text.maxUInt64) standard.sizeLimit⟩

def editor? (value : Toml) : Option Settings.Editor := do
  let entries ← entries? value
  let standard : Settings.Editor := {}
  let width ← defaulted entries "string_width_px" (natural? Text.maxUInt32) standard.textWidth.toNat
  pure ⟨← defaulted entries "palette" (list? string?) standard.palette,
    ← defaulted entries "default_color" string? standard.defaultColour, UInt32.ofNat width⟩

def colours? (value : Toml) : Option (Dictionary String) := do
  let colours ← (← entries? value).mapM fun (key, colour) => (string? colour).map (key, ·)
  pure (Dictionary.ofList colours)

def kind? (value : Toml) : Option Schema.ValueKind := (string? value).map .ofName

def entryDefinition? (value : Toml) : Option Schema.EntryDefinition := do
  let entries ← entries? value
  pure ⟨← required entries "name" string?, ← optional entries "member" string?,
    ← optional entries "srv" string?, ← required entries "type" kind?,
    ← defaulted entries "quote" bool? false⟩

def definition? (value : Toml) : Option Schema.Definition := do
  let entries ← entries? value
  pure ⟨← required entries "class" string?, ← defaulted entries "sub" (list? string?) [],
    ← defaulted entries "entries" (list? entryDefinition?) []⟩

def settings? (entries : List (String × Toml)) : Option Settings := do
  pure ⟨← defaulted entries "summary" summary? {}, ← defaulted entries "ged" editor? {},
    ← defaulted entries "colors" colours? [],
    ← defaulted entries "schema" (list? definition?) []⟩

end File

def ofText (text : String) : Settings := ((Toml.read? text).bind File.settings?).getD {}

-- The lines of a new file. All that they set is what holds without them.
def standardLines : List String := [
  "# EVE inspector configuration",
  "",
  "[summary]",
  "expand_level = 2            # Tree depth opened after a rebuild",
  "highlight_debounce_ms = 200 # Quiet period before a hover highlight is sent",
  "highlight_selection = \"Global Highlight\"",
  "size_limit = 0              # Most summary nodes shown (0 = unlimited)",
  "",
  "[ged]",
  "default_color = \"cyan\"",
  "string_width_px = 250",
  "# palette = [\"gold\", \"darkorange\", \"rgb(102,51,0)\"]",
  "",
  "[colors]",
  "# ROOT colour index = CSS colour",
  "# 41 = \"rgb(204, 198, 170)\"",
  "",
  "# Extra editor schemas:",
  "# [[schema]]",
  "# class = \"REveStraightLineSet\"",
  "# sub = [\"REveElement\"]",
  "# entries = [\x7b name = \"LineWidth\", type = \"Number\" \x7d]"]

def standardText : String := String.join (standardLines.map (· ++ "\n"))

end SceneInspector.Settings
