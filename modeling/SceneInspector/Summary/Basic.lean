import SceneInspector.Scene
import SceneInspector.Summary.Projection

namespace SceneInspector

structure Summary where
  roots : Forest Summary.Item := .empty
  index : Std.TreeMap ElementId Position := ∅
  stale : Bool := false
  anyChanged : Bool := false
  generation : Nat := 0
  expandLevel : Nat
  sizeLimit : Nat

namespace Summary

-- An element that is shown more than once is found where it is shown first.
def indexOf (roots : Forest Item) : Std.TreeMap ElementId Position :=
  roots.places.foldl (fun index place => index.insertIfNew place.2.element place.1) ∅

def blank (expandLevel sizeLimit : Nat) : Summary := { expandLevel, sizeLimit }

def size (summary : Summary) : Nat := summary.index.size

def isEmpty (summary : Summary) : Bool := summary.size == 0

def rebuild (summary : Summary) (catalogue : Catalogue) (elements : Forest Element) : Summary :=
  let roots := limited summary.sizeLimit (project catalogue elements)
  { summary with
    roots
    index := indexOf roots
    stale := false
    anyChanged := false
    generation := summary.generation + 1 }

def item? (summary : Summary) (id : ElementId) : Option (Tree Item) := do
  summary.roots.tree? (← summary.index[id]?)

def atPath? (summary : Summary) (path : String) : Option (Tree Item) := do
  summary.roots.tree? (← Path.parse? path.toList)

def change (summary : Summary) (position : Position) (edit : Item → Item) : Summary :=
  { summary with
    roots := summary.roots.modify (fun tree => { tree with root := edit tree.root }) position }

-- An item after a change of its element, which the scene already has. A toggled render flag is
-- taken from the notification itself.
def changedItem (catalogue : Catalogue) (live : Option Element) (change : Element.Change)
    (item : Item) : Item :=
  let shown := match live with
    | some element => item.refreshed catalogue element
    | none => item
  if change.rendersSelfChanged then
    { shown with selected := change.snapshot.root.rendersSelf.getD false }
  else shown

-- Changes an item in place. An element that is not shown still counts as a change.
def applyChange (summary : Summary) (catalogue : Catalogue) (scene : Scene)
    (change : Element.Change) : Summary :=
  let id := change.snapshot.root.id
  let live := (scene.element? id).map (·.root)
  let changed := match summary.index[id]? with
    | some position => summary.change position (changedItem catalogue live change)
    | none => summary
  { changed with anyChanged := true }

-- A removal only marks the summary; the rebuild waits until it is settled.
def applyRemoval (summary : Summary) : Summary := { summary with stale := true }

inductive Outcome where
  | rebuilt
  | refreshed
  | unchanged
deriving DecidableEq, Repr

def flush (summary : Summary) (catalogue : Catalogue) (scene : Scene) : Summary × Outcome :=
  if summary.stale then (summary.rebuild catalogue scene.roots, .rebuilt)
  else if summary.anyChanged then ({ summary with anyChanged := false }, .refreshed)
  else (summary, .unchanged)

def select (summary : Summary) (selection : Element) (id : ElementId) : Summary × Bool :=
  match summary.index[id]? with
  | some position =>
    (summary.change position fun item => { item with paint := .ofSelection selection }, true)
  | none => (summary, false)

-- Takes off the paint of a selection, but not that of another kind.
def unselect (summary : Summary) (selection : Element) (id : ElementId) : Summary × Bool :=
  match summary.index[id]?, summary.item? id with
  | some position, some tree =>
    if tree.root.paint = .ofSelection selection then
      (summary.change position fun item => { item with paint := .plain }, true)
    else (summary, false)
  | _, _ => (summary, false)

end SceneInspector.Summary
