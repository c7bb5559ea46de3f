import SceneInspector.Session.State

namespace SceneInspector

inductive Event where
  | summaryRebuilt (generation nodes : Nat)
  | editorOpened (element : ElementId) (path title : String) (controls : Nat)
  | editorClosed (element : ElementId)
  | fitHistoryChanged (length cursor : Nat)
deriving DecidableEq, Repr

structure Glimpse where
  generation : Nat
  editing : Option ElementId
  path : Option String
  fitHistory : Nat × Nat
deriving DecidableEq, Repr

def State.glimpse (state : State) : Glimpse :=
  ⟨state.summary.generation, state.editor.editing?, state.editor.path?,
    (state.fit.history.length, state.fit.cursor)⟩

namespace Event

def ofSummary (before : Glimpse) (state : State) : List Event :=
  if state.glimpse.generation = before.generation then []
  else [.summaryRebuilt state.glimpse.generation state.summary.size]

def opened? (state : State) : Option Event :=
  state.editor.session.map fun session =>
    .editorOpened session.model.element session.path session.model.title session.controls.length

-- An editor that moved to another element or place was closed and opened.
def ofEditor (before : Glimpse) (state : State) : List Event :=
  if state.glimpse.editing = before.editing ∧ state.glimpse.path = before.path then []
  else (before.editing.map Event.editorClosed).toList ++ (opened? state).toList

def ofFit (before : Glimpse) (state : State) : List Event :=
  if state.glimpse.fitHistory = before.fitHistory then []
  else [.fitHistoryChanged state.glimpse.fitHistory.1 state.glimpse.fitHistory.2]

def between (before : Glimpse) (state : State) : List Event :=
  ofSummary before state ++ ofEditor before state ++ ofFit before state

end SceneInspector.Event
