import SceneInspector.Editor.Control
import SceneInspector.Element.Wire
import SceneInspector.Fit.Request

namespace SceneInspector

inductive Message.SceneNotice where
  | managerInit (roots : Forest Element)
  | beginChanges
  | elementChanged (change : Element.Change)
  | elementsRemoved (ids : List ElementId)
  | endChanges
deriving DecidableEq, Repr

structure Message.Ticked where
  path : String
  selected : Bool
deriving DecidableEq, Repr

inductive Message where
  | scene (notice : Message.SceneNotice)
  | panel (text : String)
  | selectElement (selection element : ElementId)
  | unselectElement (selection element : ElementId)
  | selectionChanged (items : List Message.Ticked)
  | detailPressed (path : String)
  | mouseEnter (element : ElementId)
  | mouseLeave
  | controlEdited (index : Nat) (event : Editor.Control.Event)
  | closeEditor
  | fit (command : Fit.Command)
  | quit
deriving DecidableEq, Repr

end SceneInspector
