import SceneInspector.Call
import SceneInspector.Colour.Literal
import SceneInspector.Editor.Model

namespace SceneInspector.Editor
open Schema

inductive Control.Display where
  | numberInput (value : Binary64)
  | textInput (value : String) (width : UInt32)
  | toggle (checked : Bool)
  | colourSwatch (palette : List String) (default : String)
  | trigger
deriving DecidableEq, Repr

structure Control.Style where
  labelWidth : Nat
  background : Option String := none
deriving DecidableEq, Repr

-- What a user did to a control. A number arrives as the text that was typed.
inductive Control.Event where
  | number (typed : String)
  | text (value : String)
  | toggle (checked : Bool)
  | colour (picked : String)
  | press
deriving DecidableEq, Repr

structure Control.Handler where
  verb : String
  kind : ValueKind
  quoted : Bool
deriving DecidableEq, Repr

structure Control where
  index : Nat
  label : String
  display : Control.Display
  style : Control.Style
  handler : Control.Handler
deriving DecidableEq, Repr

namespace Control

def typedNumber? (typed : String) : Option Binary64 := Decimal.number? (Text.trimmed typed.toList)

def Handler.arguments? (handler : Handler) (event : Event) : Option (List Call.Argument) :=
  match handler.kind, event with
  | .number, .number typed =>
    match typedNumber? typed with
    | some value => if value.isFinite then some [.number value] else none
    | none => none
  | .string, .text value => some [if handler.quoted then .quoted value else .verbatim value]
  | .bool, .toggle checked => some [.bool checked]
  | .colour, .colour picked => (Colour.parse? picked).map fun rgb => rgb.components.map .byte
  | .action, .press => some []
  | _, _ => none

def Handler.encode? (handler : Handler) (event : Event) : Option Call :=
  (handler.arguments? event).map fun arguments => ⟨handler.verb, arguments⟩

def showing (control : Control) (event : Event) : Control :=
  match control.display, event with
  | .numberInput _, .number typed =>
    match typedNumber? typed with
    | some value => { control with display := .numberInput value }
    | none => control
  | .textInput _ width, .text value => { control with display := .textInput value width }
  | .toggle _, .toggle checked => { control with display := .toggle checked }
  | .colourSwatch _ _, .colour picked =>
    { control with style := { control.style with background := some picked } }
  | _, _ => control

def edit (control : Control) (event : Event) : Control × Option Call :=
  match control.handler.encode? event with
  | some call => (control.showing event, some call)
  | none => (control, none)

end Control

structure Factory where
  palette : List String
  defaultColour : String
  textWidth : UInt32
deriving DecidableEq, Repr

namespace Factory

def display? (factory : Factory) (kind : ValueKind) (value : Value) :
    Option (Control.Display × Option String) :=
  match kind, value with
  | .number, .number value => some (.numberInput value, none)
  | .string, .string value => some (.textInput value factory.textWidth, none)
  | .bool, .bool value => some (.toggle value, none)
  | .colour, .colour background =>
    some (.colourSwatch factory.palette factory.defaultColour, background)
  | .action, _ => some (.trigger, none)
  | _, _ => none

def control? (factory : Factory) (record : Record) (index labelWidth : Nat) : Option Control :=
  (factory.display? record.entry.kind record.value).map fun (display, background) =>
    ⟨index, record.label, display, ⟨labelWidth, background⟩,
      ⟨record.entry.verb, record.entry.kind, record.entry.quoted⟩⟩

def controlsFrom (factory : Factory) (labelWidth : Nat) (index : Nat) : List Record → List Control
  | [] => []
  | record :: rest =>
    (factory.control? record index labelWidth).toList ++
      factory.controlsFrom labelWidth (index + 1) rest

def controls (factory : Factory) (model : Model) : List Control :=
  factory.controlsFrom model.maxLabelWidth 0 model.records

end Factory

namespace Control
open Json

def Event.ofVariant? (name : String) (value : Json) : Option Event := do
  match name with
  | "number" => pure (.number (← value.single? "value" string?))
  | "text" => pure (.text (← value.single? "value" string?))
  | "toggle" => pure (.toggle (← value.single? "checked" bool?))
  | "color" => pure (.colour (← value.single? "value" string?))
  | "press" => value.bare?.map fun _ => .press
  | _ => none

def Event.ofJson? (tagging : Tagging) : Json → Option Event :=
  chosen? tagging "kind" ["number", "text", "toggle", "color", "press"] ofVariant?

def Event.toJson : Event → Json
  | .number typed => .object [("kind", .string "number"), ("value", .string typed)]
  | .text value => .object [("kind", .string "text"), ("value", .string value)]
  | .toggle checked => .object [("kind", .string "toggle"), ("checked", .bool checked)]
  | .colour picked => .object [("kind", .string "color"), ("value", .string picked)]
  | .press => .object [("kind", .string "press")]

def Display.toJson : Display → Json
  | .numberInput value => .object [("control", .string "number_input"), ("value", .real value)]
  | .textInput value width =>
    .object [("control", .string "text_input"), ("value", .string value),
      ("width_px", .natural width.toNat)]
  | .toggle checked => .object [("control", .string "toggle"), ("checked", .bool checked)]
  | .colourSwatch palette default =>
    .object [("control", .string "color_swatch"), ("palette", strings palette),
      ("default_color", .string default)]
  | .trigger => .object [("control", .string "trigger")]

def Style.toJson (style : Style) : Json :=
  .object ([("label_width_ex", .natural style.labelWidth)] ++
    (style.background.map fun paint => ("background", .string paint)).toList)

def Handler.toJson (handler : Handler) : Json :=
  .object [("verb", .string handler.verb), ("kind", handler.kind.toJson),
    ("quoted", .bool handler.quoted)]

def toJson (control : Control) : Json :=
  .object [("index", .natural control.index), ("label", .string control.label),
    ("kind", control.display.toJson), ("style", control.style.toJson),
    ("handler", control.handler.toJson)]

end SceneInspector.Editor.Control
