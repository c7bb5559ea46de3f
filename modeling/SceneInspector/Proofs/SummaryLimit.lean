import SceneInspector.Proofs.SummaryIndex
import SceneInspector.Proofs.SummaryPlacement

namespace SceneInspector

namespace Forest
variable {α : Type}

def offspring (parent : Option α) : Forest α → List (Option α × α)
  | .empty => []
  | .cons root children rest =>
    (parent, root) :: (children.offspring (some root) ++ rest.offspring parent)

theorem length_offspring (forest : Forest α) (parent : Option α) :
    (forest.offspring parent).length = forest.size := by
  induction forest generalizing parent with
  | empty => rfl
  | cons root children rest below beside =>
    simp only [offspring, size, List.length_cons, List.length_append, below, beside]
    omega

-- Whatever is kept stays below the root that it was below.
theorem offspring_capped (budget : Nat) (forest : Forest α) (parent : Option α) :
    (forest.capped budget).1.offspring parent = (forest.offspring parent).take budget := by
  induction forest generalizing budget parent with
  | empty => simp [capped, offspring]
  | cons root children rest below beside =>
    cases budget with
    | zero => rfl
    | succ remaining =>
      simp only [capped, offspring, List.take_succ_cons, List.take_append, below, beside,
        left_capped, length_offspring]

end Forest

namespace Summary

theorem rebuild_capped {summary : Summary} (limit : 0 < summary.sizeLimit) (catalogue : Catalogue)
    (elements : Forest Element) : (summary.rebuild catalogue elements).roots =
      ((project catalogue elements).capped summary.sizeLimit).1 := by
  show limited summary.sizeLimit (project catalogue elements) = _
  rw [limited, if_neg (Nat.pos_iff_ne_zero.mp limit)]

theorem presence_children (tree : Tree Item) : ∃ members, tree.itemJson = .object members ∧
    (Json.presence "children" members = .absent ↔ tree.children = .empty) := by
  obtain ⟨members, object, listed⟩ := children_listed tree
  refine ⟨members, object, ?_⟩
  rcases listed with ⟨childless, absent⟩ | ⟨items, some_items, same, once⟩
  · exact iff_of_true absent childless
  · refine iff_of_false (by simp [once]) fun childless => some_items ?_
    rw [childless] at same
    exact List.length_eq_zero_iff.mp same

-- A limit keeps of all items that there would be without it the first ones in tree order. They are
-- as they would be, at the same positions and below the same parents, and an item none of whose
-- children is kept has no list of children.
theorem rebuild_keeps_first (summary : Summary) (catalogue : Catalogue) (elements : Forest Element)
    (limit : 0 < summary.sizeLimit) :
    let whole := ({ summary with sizeLimit := 0 }.rebuild catalogue elements).roots
    let kept := (summary.rebuild catalogue elements).roots
    kept.preorder = whole.preorder.take summary.sizeLimit ∧
    kept.offspring none = (whole.offspring none).take summary.sizeLimit ∧
    kept.places = whole.places.take summary.sizeLimit ∧
    (whole.size ≤ summary.sizeLimit → kept = whole) ∧
    (∀ nodes, Holds (summary.rebuild catalogue elements) nodes → nodes = kept.nodes ∧
      ∀ position node, nodes.node? position = some node → (node.2 = none ↔
        ∀ number, position ++ [number] ∉ (whole.places.take summary.sizeLimit).map (·.1))) ∧
    ∀ position tree, kept.tree? position = some tree →
      ∃ members, tree.itemJson = .object members ∧
        (Json.presence "children" members = .absent ↔
          ∀ number, position ++ [number] ∉ (whole.places.take summary.sizeLimit).map (·.1)) := by
  intro whole kept
  have all : whole = project catalogue elements := rebuild_unlimited rfl catalogue elements
  have first : kept = (whole.capped summary.sizeLimit).1 := by
    rw [all]
    exact rebuild_capped limit catalogue elements
  have placed : kept.places = whole.places.take summary.sizeLimit := by
    rw [first]
    exact Forest.placesFrom_capped _ whole [] 0
  refine ⟨?_, ?_, placed, ?_, ?_, ?_⟩
  · rw [first, Forest.preorder_capped]
  · rw [first, Forest.offspring_capped]
  · intro enough
    rw [first, Forest.capped_eq_self enough]
  · intro nodes held
    obtain rfl := held.nodes_eq
    refine ⟨rfl, ?_⟩
    intro position node found
    rw [Forest.node?_nodes, Option.map_eq_some_iff] at found
    obtain ⟨tree, found, rfl⟩ := found
    rw [Forest.listed_nodes_eq_none, ← placed]
    exact Forest.children_empty_iff found
  · intro position tree found
    obtain ⟨members, object, childless⟩ := presence_children tree
    refine ⟨members, object, ?_⟩
    rw [childless, ← placed]
    exact Forest.children_empty_iff found

theorem rebuild_keeps_first_viewers :
    let kept := ((blank 2 2).rebuild ⟨.builtin, {}⟩ viewers).roots
    0 < (blank 2 2).sizeLimit ∧ kept.preorder.map (·.element) = [2, 7] ∧
      (kept.offspring none).map (fun (parent, item) => (parent.map (·.element), item.path)) =
        [(none, "/0"), (some 2, "/0/childs/0")] ∧
      ∃ viewer members, kept.tree? [0, 0] = some viewer ∧ viewer.itemJson = .object members ∧
        Json.presence "children" members = .absent := by
  intro kept
  obtain ⟨preorder, offspring, _, _, _, children⟩ :=
    rebuild_keeps_first (blank 2 2) ⟨.builtin, {}⟩ viewers (by decide)
  obtain ⟨viewer, found⟩ : ∃ viewer, kept.tree? [0, 0] = some viewer :=
    Option.isSome_iff_exists.mp (by decide +kernel)
  obtain ⟨members, object, absent⟩ := children [0, 0] viewer found
  refine ⟨by decide, ?_, ?_, viewer, members, found, object, absent.mpr ?_⟩
  · rw [preorder]
    decide +kernel
  · rw [offspring]
    decide +kernel
  · have positions : ((blank 2 0).rebuild ⟨.builtin, {}⟩ viewers).roots.places.map Prod.fst =
        [[0], [0, 0], [0, 0, 0], [0, 1]] := by decide +kernel
    intro number member
    rw [List.map_take] at member
    change _ ∈ (((blank 2 0).rebuild ⟨.builtin, {}⟩ viewers).roots.places.map Prod.fst).take 2
      at member
    rw [positions] at member
    simp at member

end Summary
end SceneInspector
