import SceneInspector.Proofs.ForestPositions
import SceneInspector.Proofs.SummaryProjection
import SceneInspector.Schema.Builtin

namespace SceneInspector

def Position.shifted (earlier : Nat) : Position → Position
  | [] => []
  | number :: below => (earlier + number) :: below

@[simp] theorem Position.shifted_cons (earlier number : Nat) (below : Position) :
    shifted earlier (number :: below) = (earlier + number) :: below := rfl

@[simp] theorem Position.shifted_shifted (outer inner : Nat) (position : Position) :
    shifted outer (shifted inner position) = shifted (outer + inner) position := by
  cases position with
  | nil => rfl
  | cons number below => rw [shifted, shifted, shifted, Nat.add_assoc]

@[simp] theorem Position.shifted_zero (position : Position) : shifted 0 position = position := by
  cases position with
  | nil => rfl
  | cons number below => rw [shifted, Nat.zero_add]

namespace Forest
variable {α : Type}

def under (forest : Forest α) (number : Nat) : Forest α :=
  match forest.trees[number]? with
  | some tree => tree.children
  | none => .empty

theorem tree?_under (forest : Forest α) (number next : Nat) (further : Position) :
    forest.tree? (number :: next :: further) = (forest.under number).tree? (next :: further) := by
  induction forest generalizing number with
  | empty => rfl
  | cons root children rest _ beside =>
    cases number with
    | zero => rfl
    | succ number => exact beside number

-- The places of a row depend on where it stands in no other way than that its positions do.
theorem placesFrom_eq (forest : Forest α) (parent : Position) (next : Nat) :
    forest.placesFrom parent next =
      forest.places.map fun place => (parent ++ place.1.shifted next, place.2) := by
  induction forest generalizing parent next with
  | empty => rfl
  | cons root children rest inside beside =>
    rw [places, placesFrom, placesFrom, inside, beside, inside ([] ++ [0]), beside [] (0 + 1)]
    simp [Function.comp_def]

theorem places_cons (root : α) (children rest : Forest α) :
    (Forest.cons root children rest).places =
      ([0], root) :: (children.places.map (fun place => (0 :: place.1, place.2)) ++
        rest.places.map fun place => (place.1.shifted 1, place.2)) := by
  rw [places, placesFrom, placesFrom_eq children, placesFrom_eq rest]
  simp

theorem ne_nil_of_mem_places {forest : Forest α} {place : Position × α}
    (member : place ∈ forest.places) : place.1 ≠ [] := by
  induction forest generalizing place with
  | empty => cases member
  | cons root children rest inside beside =>
    rw [places_cons] at member
    rcases List.mem_cons.mp member with rfl | further
    · exact List.cons_ne_nil _ _
    · rcases List.mem_append.mp further with below | later
      · obtain ⟨inner, _, rfl⟩ := List.mem_map.mp below
        exact List.cons_ne_nil _ _
      · obtain ⟨⟨position, label⟩, among, rfl⟩ := List.mem_map.mp later
        have some_number := beside among
        cases position with
        | nil => exact absurd rfl some_number
        | cons number below => exact List.cons_ne_nil _ _

end Forest

namespace Summary
variable {catalogue : Catalogue}

-- Of an element that is shown the position among those that are: at every depth only the siblings
-- that are shown count.
def shownPosition (catalogue : Catalogue) : Forest Element → Position → Position
  | _, [] => []
  | siblings, number :: further =>
    (siblings.trees.take number).countP (isShown catalogue) ::
      shownPosition catalogue (siblings.under number) further

def isShownAt (catalogue : Catalogue) (elements : Forest Element) (position : Position) : Bool :=
  (elements.tree? position).any (isShown catalogue)

theorem shownPosition_nil (elements : Forest Element) :
    shownPosition catalogue elements [] = [] := rfl

theorem shownPosition_inside (element : Element) (children rest : Forest Element)
    (further : Position) :
    shownPosition catalogue (.cons element children rest) (0 :: further) =
      0 :: shownPosition catalogue children further := rfl

theorem shownPosition_beside (element : Element) (children rest : Forest Element)
    (position : Position) :
    shownPosition catalogue (.cons element children rest) (position.shifted 1) =
      (shownPosition catalogue rest position).shifted
        (if isShown catalogue ⟨element, children⟩ then 1 else 0) := by
  cases position with
  | nil => rfl
  | cons number further =>
    rw [Position.shifted, Nat.add_comm, shownPosition, Forest.trees, List.take_succ_cons,
      List.countP_cons, shownPosition, Position.shifted, Nat.add_comm]
    rfl

theorem isShownAt_inside (element : Element) (children rest : Forest Element)
    {position : Position} (some_number : position ≠ []) :
    isShownAt catalogue (.cons element children rest) (0 :: position) =
      isShownAt catalogue children position := by
  cases position with
  | nil => exact absurd rfl some_number
  | cons number further => rfl

theorem isShownAt_beside (element : Element) (children rest : Forest Element)
    {position : Position} (some_number : position ≠ []) :
    isShownAt catalogue (.cons element children rest) (position.shifted 1) =
      isShownAt catalogue rest position := by
  cases position with
  | nil => exact absurd rfl some_number
  | cons number further => rw [Position.shifted, Nat.add_comm]; rfl

theorem isShown_above {element : Element} {children : Forest Element} {position : Position}
    {tree : Tree Element} (found : children.tree? position = some tree)
    (visible : isShown catalogue tree = true) : isShown catalogue ⟨element, children⟩ = true := by
  obtain ⟨hole, rfl, _⟩ := Forest.exists_hole found
  simp only [isShown, Bool.or_eq_true, hole.preorder_fill, List.any_append, List.any_cons]
    at visible ⊢
  rcases visible with root | inside
  · exact .inr (.inr (.inl root))
  · exact .inr (.inr (.inr (.inl inside)))

def shownPlaces (catalogue : Catalogue) (elements : Forest Element) :
    List (Position × Element) :=
  elements.places.filter fun place => isShownAt catalogue elements place.1

theorem shownPlaces_cons (element : Element) (children rest : Forest Element) :
    shownPlaces catalogue (.cons element children rest) =
      (if isShown catalogue ⟨element, children⟩ then
        ([0], element) ::
          (shownPlaces catalogue children).map fun place => (0 :: place.1, place.2)
      else []) ++
        (shownPlaces catalogue rest).map fun place => (place.1.shifted 1, place.2) := by
  have below : (children.places.map fun place => (0 :: place.1, place.2)).filter
      (fun place => isShownAt catalogue (.cons element children rest) place.1) =
        (shownPlaces catalogue children).map fun place => (0 :: place.1, place.2) := by
    rw [List.filter_map]
    refine congrArg (List.map _) (List.filter_congr fun place member => ?_)
    exact isShownAt_inside element children rest (Forest.ne_nil_of_mem_places member)
  have beside : (rest.places.map fun place => (place.1.shifted 1, place.2)).filter
      (fun place => isShownAt catalogue (.cons element children rest) place.1) =
        (shownPlaces catalogue rest).map fun place => (place.1.shifted 1, place.2) := by
    rw [List.filter_map]
    refine congrArg (List.map _) (List.filter_congr fun place member => ?_)
    exact isShownAt_beside element children rest (Forest.ne_nil_of_mem_places member)
  have first : isShownAt catalogue (.cons element children rest) [0] =
      isShown catalogue ⟨element, children⟩ := rfl
  rw [shownPlaces, Forest.places_cons, List.filter_cons, List.filter_append, below, beside, first]
  split
  · rw [List.cons_append]
  · rename_i hidden
    have nothing : shownPlaces catalogue children = [] := by
      refine List.filter_eq_nil_iff.mpr fun place _ visible => hidden ?_
      obtain ⟨tree, found, shown⟩ := (Option.any_eq_true _ _).mp visible
      exact isShown_above found shown
    rw [nothing, List.map_nil]

-- An item is where its element is, among those that are shown, and projects that element.
theorem projectFrom_placed (elements : Forest Element) (parent : Position) (next : Nat) :
    (projectFrom catalogue parent next elements).placesFrom parent next =
      (shownPlaces catalogue elements).map fun place =>
        let position := parent ++ (shownPosition catalogue elements place.1).shifted next
        (position, .ofElement catalogue position place.2) := by
  induction elements generalizing parent next with
  | empty => rfl
  | cons element children rest below beside =>
    rw [projectFrom_cons, shownPlaces_cons]
    split
    · rename_i visible
      rw [Forest.placesFrom, below, beside]
      simp [shownPosition_nil, shownPosition_inside, shownPosition_beside, visible,
        Function.comp_def]
    · rename_i hidden
      rw [beside]
      simp [shownPosition_beside, hidden, Function.comp_def]

theorem projectFrom_tree? {elements : Forest Element} {position : Position} {tree : Tree Element}
    (found : elements.tree? position = some tree) (visible : isShown catalogue tree = true)
    (parent : Position) (next : Nat) :
    (projectFrom catalogue parent next elements).tree?
        (shownPosition catalogue elements position) =
      let place := parent ++ (shownPosition catalogue elements position).shifted next
      some ⟨.ofElement catalogue place tree.root, projectFrom catalogue place 0 tree.children⟩ := by
  induction elements generalizing position parent next with
  | empty => cases found
  | cons element children rest below beside =>
    rw [projectFrom_cons]
    match position with
    | [] => cases found
    | [0] =>
      cases found
      rw [if_pos visible]
      rfl
    | 0 :: number :: further =>
      have there : children.tree? (number :: further) = some tree := found
      have inside := below there (parent ++ [next]) 0
      rw [if_pos (isShown_above there visible), shownPosition_inside]
      simpa [shownPosition, Forest.tree?] using inside
    | (number + 1) :: further =>
      have onward (start : Nat) := @beside (number :: further) found parent start
      have there := @shownPosition_beside catalogue element children rest (number :: further)
      rw [Position.shifted_cons, Nat.add_comm] at there
      rw [there]
      split
      · rename_i shown
        simpa [shownPosition, shown, Forest.tree?, Nat.add_comm 1, Nat.add_assoc]
          using onward (next + 1)
      · simpa using onward next

theorem shownPosition_concat {elements : Forest Element} {parent : Position}
    {above : Tree Element} (found : elements.tree? parent = some above) (number : Nat) :
    shownPosition catalogue elements (parent ++ [number]) =
      shownPosition catalogue elements parent ++
        [(above.children.trees.take number).countP (isShown catalogue)] := by
  induction parent generalizing elements with
  | nil => exact absurd rfl (Forest.position_ne_nil found)
  | cons first further ih =>
    rw [List.cons_append, shownPosition, shownPosition, List.cons_append]
    cases further with
    | nil =>
      rw [Forest.tree?_singleton] at found
      have children : elements.under first = above.children := by rw [Forest.under, found]
      rw [children]
      rfl
    | cons second further =>
      rw [Forest.tree?_under] at found
      rw [ih found]

theorem isShownAt_iff {elements : Forest Element} {position : Position} {tree : Tree Element}
    (found : elements.tree? position = some tree) :
    isShownAt catalogue elements position = true ↔
      ∃ element ∈ tree.root :: tree.children.preorder,
        element.name ≠ "" ∨ catalogue.registry.isEditable element.typeName = true := by
  rw [isShownAt, found, Option.any_some, isShown]
  simp [isOfInterest]

theorem rebuild_unlimited {summary : Summary} (unlimited : summary.sizeLimit = 0)
    (catalogue : Catalogue) (roots : Forest Element) :
    (summary.rebuild catalogue roots).roots = projectFrom catalogue [] 0 roots := by
  show limited summary.sizeLimit (project catalogue roots) = _
  rw [limited, if_pos unlimited]
  rfl

-- Without a limit exactly those elements are shown that have a name or an editor, or have something
-- of the kind below them. Their items come in the same order, each where only the siblings before
-- it that are shown count; so the item that it is a child of is that of the element above.
theorem rebuild_places_shown (summary : Summary) (catalogue : Catalogue) (roots : Forest Element)
    (unlimited : summary.sizeLimit = 0) :
    let items := (summary.rebuild catalogue roots).roots
    let position := shownPosition catalogue roots
    (∀ place tree, roots.tree? place = some tree →
      (isShownAt catalogue roots place = true ↔
        ∃ element ∈ tree.root :: tree.children.preorder,
          element.name ≠ "" ∨ catalogue.registry.isEditable element.typeName = true)) ∧
    items.places = (roots.places.filter fun place => isShownAt catalogue roots place.1).map
      (fun place => (position place.1, .ofElement catalogue (position place.1) place.2)) ∧
    (∀ number, position [number] = [(roots.trees.take number).countP (isShown catalogue)]) ∧
    ∀ place above number tree, roots.tree? place = some above →
      above.children.trees[number]? = some tree → isShown catalogue tree = true →
      let before := (above.children.trees.take number).countP (isShown catalogue)
      position (place ++ [number]) = position place ++ [before] ∧
      ∃ item child, items.tree? (position place) = some item ∧
        item.root = .ofElement catalogue (position place) above.root ∧
        item.children.trees[before]? = some child ∧
        child.root = .ofElement catalogue (position place ++ [before]) tree.root := by
  intro items position
  have projected : items = projectFrom catalogue [] 0 roots :=
    rebuild_unlimited unlimited catalogue roots
  refine ⟨fun place tree => isShownAt_iff, ?_, fun number => rfl, ?_⟩
  · have placed := @projectFrom_placed catalogue roots [] 0
    simp only [List.nil_append, Position.shifted_zero] at placed
    rw [projected]
    exact placed
  · intro place above number tree found listed visible before
    rw [← Forest.tree?_singleton] at listed
    have shown : isShown catalogue above = true := isShown_above listed visible
    have item := projectFrom_tree? found shown [] 0
    have child := projectFrom_tree? listed visible (position place) 0
    simp only [List.nil_append, Position.shifted_zero] at item child
    rw [shownPosition, shownPosition_nil, Forest.tree?_singleton] at child
    exact ⟨shownPosition_concat found number, _, _, projected ▸ item, rfl, child, rfl⟩

-- A viewer without a name stands before one that is kept for its child. Below the element after
-- these there is nothing to show either.
def viewers : Forest Element :=
  .cons { id := 2, name := "Event" }
    (.cons { id := 6, typeName := "REveViewer" } .empty
      (.cons { id := 7, typeName := "REveViewer" } (.cons { id := 8, name := "Deep" } .empty .empty)
        (.cons { id := 9 } (.cons { id := 10 } .empty .empty)
          (.cons { id := 5, typeName := "ROOT::Experimental::REveTrack" } .empty .empty))))
    .empty

theorem rebuild_places_shown_viewers :
    let items := ((blank 2 0).rebuild ⟨.builtin, {}⟩ viewers).roots
    (blank 2 0).sizeLimit = 0 ∧
      items.places.map (fun place => (place.1, place.2.element)) =
        [([0], 2), ([0, 0], 7), ([0, 0, 0], 8), ([0, 1], 5)] ∧
      shownPosition ⟨.builtin, {}⟩ viewers [0, 3] = [0, 1] ∧
      ∃ event track, items.tree? [0] = some event ∧ event.children.trees[1]? = some track ∧
        track.root.element = 5 := by
  intro items
  obtain ⟨_, places, _, nested⟩ := rebuild_places_shown (blank 2 0) ⟨.builtin, {}⟩ viewers rfl
  obtain ⟨position, event, track, there, _, listed, shown⟩ := nested [0] _ 3 _ rfl rfl
    (by decide +kernel)
  refine ⟨rfl, ?_, position.trans (by decide +kernel), event, track, there, listed, ?_⟩
  · rw [places]
    decide +kernel
  · rw [shown]
    decide +kernel

end Summary
end SceneInspector
