import SceneInspector.Element.Basic
import SceneInspector.Schema.Entry

namespace SceneInspector.Schema

structure Registry where
  classes : Dictionary Class := []
deriving DecidableEq, Repr

namespace Registry

def size (registry : Registry) : Nat := registry.classes.length

def isEmpty (registry : Registry) : Bool := registry.classes.isEmpty

def insert (registry : Registry) (name : String) (schema : Class) : Registry :=
  ⟨Dictionary.insert name schema registry.classes⟩

def isEditable (registry : Registry) (typeName : String) : Bool :=
  (Dictionary.get? (Element.shortTypeName typeName) registry.classes).isSome

-- The entries of a class after those of its parents, in order. A class is out of reach while its
-- own parents are followed, so a cycle ends where it would begin again, and each step has one
-- class fewer.
def flattened (classes : Dictionary Class) (name : String) : List Entry :=
  match _found : Dictionary.get? name classes with
  | none => []
  | some schema =>
    schema.parents.flatMap (fun parent => flattened (Dictionary.erase name classes) parent) ++
      schema.entries
termination_by classes.length
decreasing_by exact Dictionary.length_erase_lt _ _ _ _found

-- The namespace is taken off the type that is asked for; parents are looked up as they are written.
def resolve (registry : Registry) (typeName : String) : List Entry :=
  flattened registry.classes (Element.shortTypeName typeName)

end SceneInspector.Schema.Registry
