import SceneInspector.Proofs.Forest

namespace SceneInspector

namespace Hole
variable {α : Type}

theorem tree?_below (hole : Hole α) (tree : Tree α) (number : Nat) (below : Position) :
    (hole.fill tree).tree? (hole.position ++ number :: below) =
      tree.children.tree? (number :: below) := by
  induction hole with
  | here rest => rfl
  | inside above hole rest ih => exact ih
  | beside above children hole ih => exact ih

theorem modify_below (hole : Hole α) (change : Tree α → Tree α) (tree : Tree α) (number : Nat)
    (below : Position) :
    (hole.fill tree).modify change (hole.position ++ number :: below) =
      hole.fill ⟨tree.root, tree.children.modify change (number :: below)⟩ := by
  induction hole with
  | here rest => rfl
  | inside above hole rest ih => exact congrArg (Forest.cons above · rest) ih
  | beside above children hole ih => exact congrArg (Forest.cons above children ·) ih

theorem map_fill_root {β : Type} (hole : Hole α) (label : α → β) (children : Forest α)
    {old new : α} (same : label new = label old) :
    (hole.fill ⟨new, children⟩).map label = (hole.fill ⟨old, children⟩).map label := by
  induction hole with
  | here rest => exact congrArg (Forest.cons · (children.map label) (rest.map label)) same
  | inside above hole rest ih => exact congrArg (Forest.cons (label above) · (rest.map label)) ih
  | beside above below hole ih => exact congrArg (Forest.cons (label above) (below.map label) ·) ih

-- Where nothing around a tree is dropped, and not its root either, only what is below is.
theorem without_fill (hole : Hole α) (dropped : α → Bool) (tree : Tree α)
    (root : dropped tree.root = false)
    (around : ∀ other ∈ hole.before ++ hole.after, dropped other = false) :
    (hole.fill tree).without dropped = hole.fill ⟨tree.root, tree.children.without dropped⟩ := by
  induction hole with
  | here rest =>
    have beside := rest.without_eq_self dropped fun other member =>
      around other (by simp [before, after, member])
    simp [fill, Forest.without, root, beside]
  | inside above hole rest ih =>
    have stays : dropped above = false := around above (by simp [before])
    have beside := rest.without_eq_self dropped fun other member =>
      around other (by simp [after, member])
    have within := ih fun other member => around other (by
      rcases List.mem_append.mp member with earlier | later
      · simp [before, earlier]
      · simp [after, later])
    simp [fill, Forest.without, stays, within, beside]
  | beside first children hole ih =>
    have stays : dropped first = false := around first (by simp [before])
    have below := children.without_eq_self dropped fun other member =>
      around other (by simp [before, member])
    have within := ih fun other member => around other (by
      rcases List.mem_append.mp member with earlier | later
      · simp [before, earlier]
      · simp [after, later])
    simp [fill, Forest.without, stays, below, within]

end Hole

def Tree.map {α β : Type} (label : α → β) (tree : Tree α) : Tree β :=
  ⟨label tree.root, tree.children.map label⟩

namespace Forest
variable {α β : Type}

theorem exists_hole {forest : Forest α} {position : Position} {tree : Tree α}
    (found : forest.tree? position = some tree) :
    ∃ hole : Hole α, forest = hole.fill tree ∧ hole.position = position := by
  induction forest generalizing position with
  | empty => cases found
  | cons root children rest below beside =>
    match position with
    | [] => cases found
    | [0] =>
      cases found
      exact ⟨.here rest, rfl, rfl⟩
    | 0 :: number :: further =>
      obtain ⟨hole, rfl, there⟩ := below found
      exact ⟨.inside root hole rest, rfl, congrArg (0 :: ·) there⟩
    | (number + 1) :: further =>
      obtain ⟨hole, rfl, there⟩ := beside found
      obtain ⟨atFirst, atFurther⟩ := List.cons.inj there
      exact ⟨.beside root children hole, rfl, by
        rw [Hole.position, Hole.first, Hole.further, atFirst, atFurther]⟩

theorem position_ne_nil {forest : Forest α} {position : Position} {tree : Tree α}
    (found : forest.tree? position = some tree) : position ≠ [] := by
  obtain ⟨hole, _, rfl⟩ := exists_hole found
  exact List.cons_ne_nil _ _

theorem mem_places {forest : Forest α} {position : Position} {tree : Tree α}
    (found : forest.tree? position = some tree) : (position, tree.root) ∈ forest.places := by
  obtain ⟨hole, rfl, rfl⟩ := exists_hole found
  obtain ⟨earlier, later, split, _⟩ := hole.placesFrom_fill tree [] 0
  rw [places, split]
  simp [Hole.position]

theorem tree?_of_mem_places {forest : Forest α} {place : Position × α}
    (member : place ∈ forest.places) :
    ∃ tree, forest.tree? place.1 = some tree ∧ tree.root = place.2 := by
  have paired := List.mem_map_of_mem (f := fun place => (forest.tree? place.1, place.2)) member
  rw [places_subtrees] at paired
  obtain ⟨tree, _, same⟩ := List.mem_map.mp paired
  obtain ⟨found, root⟩ := Prod.mk.inj same
  exact ⟨tree, found.symm, root⟩

theorem children_empty_iff {forest : Forest α} {position : Position} {tree : Tree α}
    (found : forest.tree? position = some tree) :
    tree.children = .empty ↔ ∀ number, position ++ [number] ∉ forest.places.map (·.1) := by
  obtain ⟨hole, rfl, rfl⟩ := exists_hole found
  constructor
  · intro childless number member
    obtain ⟨place, listed, there⟩ := List.mem_map.mp member
    obtain ⟨child, below, _⟩ := tree?_of_mem_places listed
    rw [there, hole.tree?_below, childless] at below
    cases below
  · intro unplaced
    cases children : tree.children with
    | empty => rfl
    | cons root below rest =>
      have first : (hole.fill tree).tree? (hole.position ++ [0]) = some ⟨root, below⟩ := by
        rw [hole.tree?_below, children]
        rfl
      exact absurd (List.mem_map_of_mem (mem_places first)) (unplaced 0)

theorem modify_absent {forest : Forest α} {position : Position}
    (absent : forest.tree? position = none) (change : Tree α → Tree α) :
    forest.modify change position = forest := by
  induction forest generalizing position with
  | empty => rfl
  | cons root children rest below beside =>
    match position with
    | [] => rfl
    | [0] => cases absent
    | 0 :: number :: further => exact congrArg (cons root · rest) (below absent)
    | (number + 1) :: further => exact congrArg (cons root children ·) (beside absent)

theorem tree?_singleton (forest : Forest α) (number : Nat) :
    forest.tree? [number] = forest.trees[number]? := by
  induction forest generalizing number with
  | empty => simp [tree?, trees]
  | cons root children rest _ ih =>
    cases number with
    | zero => rfl
    | succ number => exact ih number

theorem mem_preorder {forest : Forest α} {position : Position} {tree : Tree α}
    (found : forest.tree? position = some tree) : tree.root ∈ forest.preorder := by
  obtain ⟨hole, rfl, _⟩ := exists_hole found
  simp [Hole.preorder_fill]

theorem mem_numbered {forest : Forest α} {number : Nat} {below : Position} {tree first : Tree α}
    (found : forest.tree? (number :: below) = some tree)
    (numbered : forest.trees[number]? = some first) :
    tree.root ∈ first.root :: first.children.preorder := by
  rw [← tree?_singleton] at numbered
  cases below with
  | nil =>
    cases numbered.symm.trans found
    exact List.mem_cons_self
  | cons next further =>
    obtain ⟨hole, rfl, there⟩ := exists_hole numbered
    have inside := hole.tree?_below first next further
    rw [there] at inside
    exact List.mem_cons_of_mem _ (mem_preorder (inside.symm.trans found))

theorem tree?_map (label : α → β) (forest : Forest α) (position : Position) :
    (forest.map label).tree? position = (forest.tree? position).map (Tree.map label) := by
  induction forest generalizing position with
  | empty => rfl
  | cons root children rest below beside =>
    match position with
    | [] => rfl
    | [0] => rfl
    | 0 :: number :: further => exact below (number :: further)
    | (number + 1) :: further => exact beside (number :: further)

theorem placesFrom_map (label : α → β) (forest : Forest α) (parent : Position) (next : Nat) :
    (forest.map label).placesFrom parent next =
      (forest.placesFrom parent next).map fun place => (place.1, label place.2) := by
  induction forest generalizing parent next with
  | empty => rfl
  | cons root children rest below beside => simp [map, placesFrom, below, beside]

@[simp] theorem size_map (label : α → β) (forest : Forest α) :
    (forest.map label).size = forest.size := by
  induction forest with
  | empty => rfl
  | cons root children rest below beside => simp [map, size, below, beside]

theorem length_placesFrom (forest : Forest α) (parent : Position) (next : Nat) :
    (forest.placesFrom parent next).length = forest.size := by
  rw [← length_preorder, ← placesFrom_roots forest parent next, List.length_map]

theorem left_capped (budget : Nat) (forest : Forest α) :
    (forest.capped budget).2 = budget - forest.size := by
  induction forest generalizing budget with
  | empty => rfl
  | cons root children rest below beside =>
    cases budget with
    | zero => simp [capped]
    | succ remaining =>
      simp only [capped, size, below, beside]
      omega

-- A cap keeps the first roots in preorder. Trees are dropped at the end only, so that what is kept
-- stays in its place.
theorem placesFrom_capped (budget : Nat) (forest : Forest α) (parent : Position) (next : Nat) :
    (forest.capped budget).1.placesFrom parent next =
      (forest.placesFrom parent next).take budget := by
  induction forest generalizing budget parent next with
  | empty => simp [capped, placesFrom]
  | cons root children rest below beside =>
    cases budget with
    | zero => rfl
    | succ remaining =>
      simp only [capped, placesFrom, List.take_succ_cons, List.take_append, below, beside,
        left_capped, length_placesFrom]

theorem preorder_capped (budget : Nat) (forest : Forest α) :
    (forest.capped budget).1.preorder = forest.preorder.take budget := by
  rw [← placesFrom_roots _ [] 0, placesFrom_capped, List.map_take, placesFrom_roots]

theorem size_capped (budget : Nat) (forest : Forest α) :
    (forest.capped budget).1.size = min budget forest.size := by
  rw [← length_preorder, preorder_capped, List.length_take, length_preorder]

theorem roots_modify (label : α → β) (change : Tree α → Tree α) (position : Position)
    (forest : Forest α)
    (same : ∀ tree, forest.tree? position = some tree →
      label (change tree).root = label tree.root) :
    (forest.modify change position).trees.map (fun tree => label tree.root) =
      forest.trees.map fun tree => label tree.root := by
  induction forest generalizing position with
  | empty => rfl
  | cons root children rest _ beside =>
    match position with
    | [] => rfl
    | [0] => simp [modify, trees, same ⟨root, children⟩ rfl]
    | 0 :: number :: further => rfl
    | (number + 1) :: further =>
      have onward := beside (number :: further) same
      simp [modify, trees, onward]

theorem roots_without (forest : Forest α) (dropped : α → Bool) :
    (forest.without dropped).trees.map (·.root) =
      (forest.trees.map (·.root)).filter fun root => !dropped root := by
  induction forest with
  | empty => rfl
  | cons root children rest _ beside =>
    unfold without
    split
    · rename_i left
      simp [trees, left, beside]
    · rename_i stays
      simp [trees, stays, beside]

theorem tree?_modify (change : Tree α → Tree α) (position : Position) (forest : Forest α) :
    (forest.modify change position).tree? position = (forest.tree? position).map change := by
  cases found : forest.tree? position with
  | none => rw [modify_absent found, found, Option.map_none]
  | some tree =>
    obtain ⟨hole, rfl, rfl⟩ := exists_hole found
    rw [Hole.modify_fill, Hole.tree?_fill, Option.map_some]

theorem modify_modify (first second : Tree α → Tree α) (position : Position) (forest : Forest α) :
    (forest.modify first position).modify second position =
      forest.modify (second ∘ first) position := by
  cases found : forest.tree? position with
  | none => rw [modify_absent found, modify_absent found, modify_absent found]
  | some tree =>
    obtain ⟨hole, rfl, rfl⟩ := exists_hole found
    rw [Hole.modify_fill, Hole.modify_fill, Hole.modify_fill, Function.comp]

@[simp] theorem modify_nil (change : Tree α → Tree α) (forest : Forest α) :
    forest.modify change [] = forest := by
  cases forest <;> rfl

-- The root at a position is another one then, over the same children. Without a position nothing
-- changes.
def edited (position : Option Position) (edit : α → α) (forest : Forest α) : Forest α :=
  match position with
  | some position => forest.modify (fun tree => ⟨edit tree.root, tree.children⟩) position
  | none => forest

theorem modify_root_comm (first second : α → α) {here there : Position} (apart : here ≠ there)
    (forest : Forest α) :
    (forest.modify (fun tree => ⟨first tree.root, tree.children⟩) here).modify
        (fun tree => ⟨second tree.root, tree.children⟩) there =
      (forest.modify (fun tree => ⟨second tree.root, tree.children⟩) there).modify
        (fun tree => ⟨first tree.root, tree.children⟩) here := by
  induction forest generalizing here there with
  | empty => rfl
  | cons root children rest below beside =>
    -- A root and what is below it or beside it do not meet. Two positions that begin with the same
    -- number go on apart.
    match here, there with
    | [], _ => rw [modify_nil, modify_nil]
    | _, [] => rw [modify_nil, modify_nil]
    | [0], [0] => exact absurd rfl apart
    | [0], 0 :: _ :: _ => rfl
    | 0 :: _ :: _, [0] => rfl
    | 0 :: number :: further, 0 :: other :: onward =>
      exact congrArg (cons root · rest) (below fun same => apart (congrArg (0 :: ·) same))
    | [0], (_ + 1) :: _ => rfl
    | (_ + 1) :: _, [0] => rfl
    | 0 :: _ :: _, (_ + 1) :: _ => rfl
    | (_ + 1) :: _, 0 :: _ :: _ => rfl
    | (number + 1) :: further, (other + 1) :: onward =>
      refine congrArg (cons root children ·) (beside fun same => apart ?_)
      obtain ⟨rfl, rfl⟩ := List.cons.inj same
      rfl

theorem apart_of_labels {label : α → β} {forest : Forest α} {first second : β}
    (different : first ≠ second) {here there : Option Position}
    (atFirst : ∀ position, here = some position →
      ∃ tree, forest.tree? position = some tree ∧ label tree.root = first)
    (atSecond : ∀ position, there = some position →
      ∃ tree, forest.tree? position = some tree ∧ label tree.root = second) :
    ∀ position, here = some position → there ≠ some position := by
  intro position firstHere secondHere
  obtain ⟨tree, found, rfl⟩ := atFirst position firstHere
  obtain ⟨other, also, rfl⟩ := atSecond position secondHere
  cases found.symm.trans also
  exact different rfl

theorem edited_comm (first second : α → α) {here there : Option Position}
    (apart : ∀ position, here = some position → there ≠ some position) (forest : Forest α) :
    (forest.edited here first).edited there second =
      (forest.edited there second).edited here first := by
  cases here with
  | none => rfl
  | some here =>
    cases there with
    | none => rfl
    | some there =>
      exact modify_root_comm first second (fun same => apart here rfl (congrArg some same.symm))
        forest

theorem edited_edited (edit : α → α) (settled : ∀ root, edit (edit root) = edit root)
    (position : Option Position) (forest : Forest α) :
    (forest.edited position edit).edited position edit = forest.edited position edit := by
  cases position with
  | none => rfl
  | some position =>
    refine (modify_modify _ _ position forest).trans ?_
    simp only [edited, Function.comp_def, settled]

theorem map_edited (label : α → β) (edit : α → α) {position : Option Position} {forest : Forest α}
    (same : ∀ there tree, position = some there → forest.tree? there = some tree →
      label (edit tree.root) = label tree.root) :
    (forest.edited position edit).map label = forest.map label := by
  cases position with
  | none => rfl
  | some position =>
    cases found : forest.tree? position with
    | none => rw [edited, modify_absent found]
    | some tree =>
      have agrees := same position tree rfl found
      obtain ⟨hole, rfl, rfl⟩ := exists_hole found
      rw [edited, Hole.modify_fill]
      exact hole.map_fill_root label tree.children agrees

end SceneInspector.Forest
