import SceneInspector.Proofs.SummaryPlaces

namespace SceneInspector.Summary

def isShown (catalogue : Catalogue) (tree : Tree Element) : Bool :=
  isOfInterest catalogue tree.root || tree.children.preorder.any (isOfInterest catalogue)

theorem isEmpty_projectFrom (catalogue : Catalogue) (elements : Forest Element)
    (parent : Position) (next : Nat) :
    (projectFrom catalogue parent next elements).isEmpty =
      !elements.preorder.any (isOfInterest catalogue) := by
  induction elements generalizing parent next with
  | empty => rfl
  | cons element children rest below beside =>
    unfold projectFrom
    dsimp only
    rw [below]
    split
    · rename_i kept
      rw [Bool.not_not] at kept
      simp only [Forest.isEmpty, Forest.preorder, List.any_cons, List.any_append, ← Bool.or_assoc,
        kept, Bool.true_or, Bool.not_true]
    · rename_i left
      rw [Bool.not_not, Bool.or_eq_true, not_or] at left
      simp [beside, Forest.preorder, left.1, left.2]

theorem projectFrom_cons (catalogue : Catalogue) (element : Element)
    (children rest : Forest Element) (parent : Position) (next : Nat) :
    projectFrom catalogue parent next (.cons element children rest) =
      if isShown catalogue ⟨element, children⟩ then
        .cons (.ofElement catalogue (parent ++ [next]) element)
          (projectFrom catalogue (parent ++ [next]) 0 children)
          (projectFrom catalogue parent (next + 1) rest)
      else projectFrom catalogue parent next rest := by
  rw [projectFrom]
  simp only [isEmpty_projectFrom, Bool.not_not]
  rfl

def shown (catalogue : Catalogue) : Forest Element → Forest ElementId
  | .empty => .empty
  | .cons element children rest =>
    if isShown catalogue ⟨element, children⟩ then
      .cons element.id (shown catalogue children) (shown catalogue rest)
    else shown catalogue rest

def numbered (parent : Position) (next : Nat) : Forest ElementId → Forest (ElementId × Position)
  | .empty => .empty
  | .cons id children rest =>
    .cons (id, parent ++ [next]) (numbered (parent ++ [next]) 0 children)
      (numbered parent (next + 1) rest)

-- The places of a projection depend on nothing but which elements it keeps.
theorem projectFrom_places (catalogue : Catalogue) (elements : Forest Element) (parent : Position)
    (next : Nat) : (projectFrom catalogue parent next elements).map Item.place =
      numbered parent next (shown catalogue elements) := by
  induction elements generalizing parent next with
  | empty => rfl
  | cons element children rest below beside =>
    rw [projectFrom_cons, shown]
    split
    · simp [Forest.map, numbered, place_ofElement, below, beside]
    · exact beside parent next

theorem isEmpty_shown (catalogue : Catalogue) (elements : Forest Element) :
    (shown catalogue elements).isEmpty = !elements.preorder.any (isOfInterest catalogue) := by
  rw [← isEmpty_projectFrom catalogue elements [] 0, ← Forest.isEmpty_map Item.place,
    projectFrom_places]
  cases shown catalogue elements <;> rfl

theorem isShown_eq (catalogue : Catalogue) (tree : Tree Element) :
    isShown catalogue tree =
      (isOfInterest catalogue tree.root || !(shown catalogue tree.children).isEmpty) := by
  rw [isEmpty_shown, Bool.not_not]
  rfl

-- A tree in a forest, however deep it is, gives way to another one of which the same is kept.
theorem shown_fill (catalogue : Catalogue) (hole : Hole Element) {old new : Tree Element}
    (same : shown catalogue (.ofTrees [new]) = shown catalogue (.ofTrees [old])) :
    shown catalogue (hole.fill new) = shown catalogue (hole.fill old) := by
  induction hole with
  | here rest =>
    simp only [Forest.ofTrees, shown] at same
    simp only [Hole.fill, shown]
    split at same <;> split at same
    · rename_i newShown oldShown
      obtain ⟨id, children, _⟩ := Forest.cons.inj same
      rw [if_pos newShown, if_pos oldShown, id, children]
    · cases same
    · cases same
    · rename_i newHidden oldHidden
      rw [if_neg newHidden, if_neg oldHidden]
  | inside root inner rest ih => simp only [Hole.fill, shown, isShown_eq, ih]
  | beside root children inner ih => simp only [Hole.fill, shown, ih]

theorem shown_root (catalogue : Catalogue) {old new : Element} (children : Forest Element)
    (sameId : new.id = old.id)
    (sameShown : isShown catalogue ⟨new, children⟩ = isShown catalogue ⟨old, children⟩) :
    shown catalogue (.ofTrees [⟨new, children⟩]) =
      shown catalogue (.ofTrees [⟨old, children⟩]) := by
  simp only [Forest.ofTrees, shown, sameId, sameShown]

theorem limited_places (limit : Nat) {some_items other_items : Forest Item}
    (same : some_items.map Item.place = other_items.map Item.place) :
    (limited limit some_items).map Item.place = (limited limit other_items).map Item.place := by
  unfold limited
  split
  · exact same
  · have capped (items : Forest Item) : (items.capped limit).1.map Item.place =
        ((items.map Item.place).capped limit).1 := by
      rw [Forest.capped_map]
    rw [capped, capped, same]

end SceneInspector.Summary
