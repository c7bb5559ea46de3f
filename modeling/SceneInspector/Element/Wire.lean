import SceneInspector.Element.Basic

namespace SceneInspector.Element
open Json

def knownNames : List String :=
  ["fElementId", "fName", "fTitle", "_typename", "fMasterId", "fMainColor", "fRnrSelf", "childs"]

def ofMembers? (members : Members) : Option Element := do
  let id ← required members "fElementId" word?
  let name ← defaulted members "fName" string? ""
  let title ← defaulted members "fTitle" string? ""
  let typeName ← defaulted members "_typename" string? ""
  let masterId ← nullable members "fMasterId" word?
  let mainColour ← nullable members "fMainColor" word?
  let rendersSelf ← nullable members "fRnrSelf" bool?
  let others := members.filter fun member => member.1 ∉ knownNames
  pure ⟨id, name, title, typeName, masterId, mainColour, rendersSelf,
    Dictionary.ofList (canonicalMembers others)⟩

mutual
def treeOfJson? : Json → Option (Tree Element)
  | .object members => do
    let element ← ofMembers? members
    let children ← childrenOf? members
    if presence "childs" members = .repeated then none else pure ⟨element, children⟩
  | _ => none
termination_by structural value => value

def childrenOf? : List (String × Json) → Option (Forest Element)
  | [] => some .empty
  | (name, value) :: rest =>
    if name = "childs" then
      match value with
      | .array items => forestOfItems? items
      | _ => none
    else childrenOf? rest
termination_by structural members => members

def forestOfItems? : List Json → Option (Forest Element)
  | [] => some .empty
  | item :: rest => do
    let tree ← treeOfJson? item
    let others ← forestOfItems? rest
    pure (.cons tree.root tree.children others)
termination_by structural items => items
end

def forestOfJson? (value : Json) : Option (Forest Element) := do forestOfItems? (← value.items?)

-- The flag of a change is a member beside those of the element, and not one of them.
def Change.ofMembers? (members : Members) : Option Change := do
  let changed ← defaulted members "rnr_self_changed" bool? false
  let others := members.filter fun member => member.1 ≠ "rnr_self_changed"
  pure ⟨← treeOfJson? (.object others), changed⟩

def Change.ofJson? (value : Json) : Option Change := do ofMembers? (← value.members?)

def entries (element : Element) (children : List Json) : List (String × Json) :=
  [("fElementId", .natural element.id.toNat), ("fName", .string element.name),
    ("fTitle", .string element.title), ("_typename", .string element.typeName)] ++
  (element.masterId.map fun id => ("fMasterId", .natural id.toNat)).toList ++
  (element.mainColour.map fun index => ("fMainColor", .natural index.toNat)).toList ++
  (element.rendersSelf.map fun flag => ("fRnrSelf", .bool flag)).toList ++
  (if children = [] then [] else [("childs", .array children)]) ++ element.members

def toJson (element : Element) (children : List Json) : Json :=
  .object (Dictionary.ofList (element.entries children))

end Element

def Forest.elementsJson : Forest Element → List Json
  | .empty => []
  | .cons root children rest => root.toJson children.elementsJson :: rest.elementsJson

def Tree.elementJson (tree : Tree Element) : Json := tree.root.toJson tree.children.elementsJson

def Element.Change.toMembers (change : Change) : Dictionary Json :=
  Dictionary.insert "rnr_self_changed" (.bool change.rendersSelfChanged)
    (Dictionary.ofList (change.snapshot.root.entries change.snapshot.children.elementsJson))

end SceneInspector
