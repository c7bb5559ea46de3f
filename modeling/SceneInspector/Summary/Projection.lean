import SceneInspector.Summary.Item

namespace SceneInspector.Summary

def isOfInterest (catalogue : Catalogue) (element : Element) : Bool :=
  element.name ≠ "" || catalogue.registry.isEditable element.typeName

-- The items for a row of siblings, numbered from `next` on. An element is kept when it is of
-- interest or something below it is kept, and only kept elements count in the numbering.
def projectFrom (catalogue : Catalogue) (parent : Position) (next : Nat) :
    Forest Element → Forest Item
  | .empty => .empty
  | .cons element children rest =>
    let position := parent ++ [next]
    let below := projectFrom catalogue position 0 children
    if isOfInterest catalogue element || !below.isEmpty then
      .cons (.ofElement catalogue position element) below
        (projectFrom catalogue parent (next + 1) rest)
    else projectFrom catalogue parent next rest

def project (catalogue : Catalogue) (roots : Forest Element) : Forest Item :=
  projectFrom catalogue [] 0 roots

def limited (limit : Nat) (items : Forest Item) : Forest Item :=
  if limit = 0 then items else (items.capped limit).1

end SceneInspector.Summary
