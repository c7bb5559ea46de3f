import SceneInspector.Editor.Control
import SceneInspector.Schema.Registry

namespace SceneInspector

structure Catalogue where
  registry : Schema.Registry
  colours : Colour.Index

namespace Editor

structure Toolkit where
  catalogue : Catalogue
  factory : Factory

def Toolkit.synthesize (toolkit : Toolkit) (element : Element) : Model × List Control :=
  let model := Model.ofEntries toolkit.catalogue.colours element
    (toolkit.catalogue.registry.resolve element.typeName)
  (model, toolkit.factory.controls model)

-- An open editor, with the path of the item that opened it as it was written then.
structure Session where
  path : String
  model : Model
  controls : List Control
deriving DecidableEq, Repr

structure Panel where
  session : Option Session := none
deriving DecidableEq, Repr

inductive Transition where
  | opened
  | switched
  | closed
deriving DecidableEq, Repr

namespace Panel

def closed : Panel := ⟨none⟩

def isVisible (panel : Panel) : Bool := panel.session.isSome

def editing? (panel : Panel) : Option ElementId := panel.session.map (·.model.element)

def path? (panel : Panel) : Option String := panel.session.map (·.path)

def controls (panel : Panel) : List Control := panel.session.elim [] (·.controls)

def opened (toolkit : Toolkit) (path : String) (element : Element) : Panel :=
  let made := toolkit.synthesize element
  ⟨some ⟨path, made.1, made.2⟩⟩

def toggle (panel : Panel) (toolkit : Toolkit) (path : String) (element : Element) :
    Panel × Transition :=
  match panel.path? with
  | none => (opened toolkit path element, .opened)
  | some current =>
    if current = path then (closed, .closed) else (opened toolkit path element, .switched)

def refresh (panel : Panel) (toolkit : Toolkit) (element : Element) : Panel × Bool :=
  match panel.session with
  | none => (panel, false)
  | some session =>
    if session.model.element = element.id then (opened toolkit session.path element, true)
    else (panel, false)

def target? (panel : Panel) : Option Call.Target :=
  panel.session.map fun session => ⟨session.model.element, session.model.typeName⟩

def editControl (index : Nat) (event : Control.Event) : List Control → List Control × Option Call
  | [] => ([], none)
  | control :: rest =>
    if control.index = index then
      let edited := control.edit event
      (edited.1 :: rest, edited.2)
    else
      let edited := editControl index event rest
      (control :: edited.1, edited.2)

def edit (panel : Panel) (index : Nat) (event : Control.Event) :
    Panel × Option (Call × Call.Target) :=
  match panel.session with
  | none => (panel, none)
  | some session =>
    match editControl index event session.controls with
    | (controls, some call) =>
      (⟨some { session with controls }⟩, some (call, ⟨session.model.element, session.model.typeName⟩))
    | (_, none) => (panel, none)

end SceneInspector.Editor.Panel
