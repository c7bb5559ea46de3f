import SceneInspector.Delivery

namespace SceneInspector

structure Pick where
  element : Option ElementId
  selection : ElementId
deriving DecidableEq, Repr

namespace Pick

-- Picking element zero clears the highlight.
def call (pick : Pick) : Call :=
  ⟨"NewElementPicked", [.element (pick.element.getD 0), .bool false, .bool false]⟩

def target (pick : Pick) : Call.Target :=
  ⟨pick.selection, Element.typeNamespace ++ "REveSelection"⟩

def frame (pick : Pick) : Outgoing := .ofCall pick.call pick.target

end SceneInspector.Pick
