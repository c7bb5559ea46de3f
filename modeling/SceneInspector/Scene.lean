import SceneInspector.Element.Basic
import Std.Data.TreeMap

namespace SceneInspector

structure Scene where
  roots : Forest Element := .empty
  index : Std.TreeMap ElementId Position := ∅

namespace Scene

-- An id that stands more than once is found where it stands last in preorder.
def indexOf (roots : Forest Element) : Std.TreeMap ElementId Position :=
  roots.places.foldl (fun index place => index.insert place.2.id place.1) ∅

def ofRoots (roots : Forest Element) : Scene := ⟨roots, indexOf roots⟩

def size (scene : Scene) : Nat := scene.index.size

def isEmpty (scene : Scene) : Bool := scene.size == 0

def element? (scene : Scene) (id : ElementId) : Option (Tree Element) := do
  scene.roots.tree? (← scene.index[id]?)

def replace (_ : Scene) (roots : Forest Element) : Scene := ofRoots roots

-- Takes a snapshot into the tree and says whether its id was known. Only a snapshot that brings
-- children moves other elements, so only then are the positions computed anew.
def apply (scene : Scene) (snapshot : Tree Element) : Scene × Bool :=
  match scene.index[snapshot.root.id]? with
  | none => (scene, false)
  | some position =>
    let roots := scene.roots.modify snapshot.updated position
    (if snapshot.children.isEmpty then { scene with roots } else ofRoots roots, true)

def remove (scene : Scene) (ids : List ElementId) : Scene × Nat :=
  (ofRoots (scene.roots.without fun element => element.id ∈ ids),
    (ids.filter scene.index.contains).length)

-- The backend keeps the list of scenes as the third child of the first root.
def listPosition : Position := [0, 2]

def sceneIds (scene : Scene) : List ElementId :=
  match scene.roots.tree? listPosition with
  | some list => list.children.trees.map (·.root.id)
  | none => []

def sceneOf? (scene : Scene) (id : ElementId) : Option ElementId := do
  let 0 :: 2 :: member :: _ ← scene.index[id]? | none
  let owner ← scene.roots.tree? [0, 2, member]
  pure owner.root.id

end SceneInspector.Scene
