import SceneInspector.Forest

namespace SceneInspector

-- A forest with one tree left out. Either that tree is the first one, or it is somewhere below the
-- first root, or it is among the trees beside the first.
inductive Hole (α : Type) where
  | here (rest : Forest α)
  | inside (root : α) (inner : Hole α) (rest : Forest α)
  | beside (root : α) (children : Forest α) (inner : Hole α)

namespace Hole
variable {α : Type}

def fill (tree : Tree α) : Hole α → Forest α
  | .here rest => .cons tree.root tree.children rest
  | .inside root inner rest => .cons root (inner.fill tree) rest
  | .beside root children inner => .cons root children (inner.fill tree)

def first : Hole α → Nat
  | .here _ => 0
  | .inside .. => 0
  | .beside _ _ inner => inner.first + 1

def further : Hole α → Position
  | .here _ => []
  | .inside _ inner _ => inner.first :: inner.further
  | .beside _ _ inner => inner.further

def position (hole : Hole α) : Position := hole.first :: hole.further

def before : Hole α → List α
  | .here _ => []
  | .inside root inner _ => root :: inner.before
  | .beside root children inner => root :: (children.preorder ++ inner.before)

def after : Hole α → List α
  | .here rest => rest.preorder
  | .inside _ inner rest => inner.after ++ rest.preorder
  | .beside _ _ inner => inner.after

theorem preorder_fill (hole : Hole α) (tree : Tree α) :
    (hole.fill tree).preorder =
      hole.before ++ tree.root :: (tree.children.preorder ++ hole.after) := by
  induction hole with
  | here rest => rfl
  | inside root inner rest ih => simp [fill, before, after, Forest.preorder, ih]
  | beside root children inner ih => simp [fill, before, after, Forest.preorder, ih]

@[simp] theorem tree?_fill (hole : Hole α) (tree : Tree α) :
    (hole.fill tree).tree? hole.position = some tree := by
  induction hole with
  | here rest => rfl
  | inside root inner rest ih => exact ih
  | beside root children inner ih => exact ih

@[simp] theorem modify_fill (hole : Hole α) (change : Tree α → Tree α) (tree : Tree α) :
    (hole.fill tree).modify change hole.position = hole.fill (change tree) := by
  induction hole with
  | here rest => rfl
  | inside root inner rest ih => exact congrArg (Forest.cons root · rest) ih
  | beside root children inner ih => exact congrArg (Forest.cons root children ·) ih

theorem placesFrom_fill (hole : Hole α) (tree : Tree α) (parent : Position) (next : Nat) :
    ∃ earlier later, (hole.fill tree).placesFrom parent next =
        earlier ++ (parent ++ (next + hole.first) :: hole.further, tree.root) :: later ∧
      later.map (·.2) = tree.children.preorder ++ hole.after := by
  induction hole generalizing parent next with
  | here rest =>
    refine ⟨[], tree.children.placesFrom (parent ++ [next]) 0 ++ rest.placesFrom parent (next + 1),
      rfl, ?_⟩
    simp [Forest.placesFrom_roots, after]
  | inside root inner rest ih =>
    obtain ⟨earlier, later, split, roots⟩ := ih (parent ++ [next]) 0
    refine ⟨(parent ++ [next], root) :: earlier, later ++ rest.placesFrom parent (next + 1), ?_, ?_⟩
    · simp [fill, Forest.placesFrom, split, first, further]
    · simp [roots, Forest.placesFrom_roots, after]
  | beside root children inner ih =>
    obtain ⟨earlier, later, split, roots⟩ := ih parent (next + 1)
    refine ⟨(parent ++ [next], root) :: (children.placesFrom (parent ++ [next]) 0 ++ earlier),
      later, ?_, ?_⟩
    · simp [fill, Forest.placesFrom, split, first, further, Nat.add_assoc, Nat.add_comm]
    · simpa [after] using roots

theorem placesFrom_fill_root {β : Type} (hole : Hole α) (label : α → β) (children : Forest α)
    {old new : α} (same : label new = label old) (parent : Position) (next : Nat) :
    ((hole.fill ⟨new, children⟩).placesFrom parent next).map
        (fun place => (place.1, label place.2)) =
      ((hole.fill ⟨old, children⟩).placesFrom parent next).map
        (fun place => (place.1, label place.2)) := by
  induction hole generalizing parent next with
  | here rest => simp [fill, Forest.placesFrom, same]
  | inside root inner rest ih => simp [fill, Forest.placesFrom, ih]
  | beside root children inner ih => simp [fill, Forest.placesFrom, ih]

end Hole

namespace Forest
variable {α β : Type}

def subtrees : Forest α → List (Tree α)
  | .empty => []
  | .cons root children rest => ⟨root, children⟩ :: (children.subtrees ++ rest.subtrees)

theorem subtrees_roots (forest : Forest α) : forest.subtrees.map (·.root) = forest.preorder := by
  induction forest with
  | empty => rfl
  | cons root children rest below beside => simp [subtrees, preorder, below, beside]

theorem subtrees_fill (hole : Hole α) (tree : Tree α) :
    ∃ earlier later, (hole.fill tree).subtrees = earlier ++ tree :: later ∧
      later.map (·.root) = tree.children.preorder ++ hole.after := by
  induction hole with
  | here rest =>
    refine ⟨[], tree.children.subtrees ++ rest.subtrees, rfl, ?_⟩
    simp [subtrees_roots, Hole.after]
  | inside root inner rest ih =>
    obtain ⟨earlier, later, split, roots⟩ := ih
    refine ⟨⟨root, inner.fill tree⟩ :: earlier, later ++ rest.subtrees, ?_, ?_⟩
    · simp [Hole.fill, subtrees, split]
    · simp [roots, subtrees_roots, Hole.after]
  | beside root children inner ih =>
    obtain ⟨earlier, later, split, roots⟩ := ih
    refine ⟨⟨root, children⟩ :: (children.subtrees ++ earlier), later, ?_, ?_⟩
    · simp [Hole.fill, subtrees, split]
    · simpa [Hole.after] using roots

-- A position seen from the whole forest leads where it leads inside the part that it numbers.
theorem placesFrom_subtrees (forest whole : Forest α) (parent : Position) (next : Nat)
    (leads : ∀ number below tree, forest.tree? (number :: below) = some tree →
      whole.tree? (parent ++ (next + number) :: below) = some tree) :
    (forest.placesFrom parent next).map (fun place => (whole.tree? place.1, place.2)) =
      forest.subtrees.map (fun tree => (some tree, tree.root)) := by
  induction forest generalizing parent next with
  | empty => rfl
  | cons root children rest below beside =>
    have here : whole.tree? (parent ++ [next]) = some ⟨root, children⟩ := leads 0 [] _ rfl
    have inside := below (parent ++ [next]) 0 fun number further tree found => by
      have there := leads 0 (number :: further) tree found
      simpa using there
    have onward := beside parent (next + 1) fun number further tree found => by
      have there := leads (number + 1) further tree found
      simpa [Nat.add_assoc, Nat.add_comm 1] using there
    simp [placesFrom, subtrees, here, inside, onward]

theorem places_subtrees (forest : Forest α) :
    forest.places.map (fun place => (forest.tree? place.1, place.2)) =
      forest.subtrees.map (fun tree => (some tree, tree.root)) :=
  placesFrom_subtrees forest forest [] 0 fun number below tree found => by simpa using found

theorem exists_last (forest : Forest α) (wanted : α → Prop)
    (some_wanted : ∃ root ∈ forest.preorder, wanted root) :
    ∃ (hole : Hole α) (tree : Tree α), forest = hole.fill tree ∧ wanted tree.root ∧
      ∀ root ∈ tree.children.preorder ++ hole.after, ¬ wanted root := by
  classical
  -- What is beside a tree comes after all of it, and what is below a root after the root.
  induction forest with
  | empty => simp [preorder] at some_wanted
  | cons root children rest below beside =>
    by_cases inRest : ∃ other ∈ rest.preorder, wanted other
    · obtain ⟨hole, tree, rfl, here, later⟩ := beside inRest
      exact ⟨.beside root children hole, tree, rfl, here, later⟩
    by_cases inChildren : ∃ other ∈ children.preorder, wanted other
    · obtain ⟨hole, tree, rfl, here, later⟩ := below inChildren
      refine ⟨.inside root hole rest, tree, rfl, here, ?_⟩
      intro other member
      rw [Hole.after, ← List.append_assoc, List.mem_append] at member
      rcases member with inside | outside
      · exact later other inside
      · exact fun hit => inRest ⟨other, outside, hit⟩
    · obtain ⟨other, member, hit⟩ := some_wanted
      have atRoot : other = root := by
        simp only [preorder, List.mem_cons, List.mem_append] at member
        rcases member with same | inside | outside
        · exact same
        · exact absurd ⟨other, inside, hit⟩ inChildren
        · exact absurd ⟨other, outside, hit⟩ inRest
      subst atRoot
      refine ⟨.here rest, ⟨other, children⟩, rfl, hit, ?_⟩
      intro later member hit
      rcases List.mem_append.mp member with inside | outside
      · exact inChildren ⟨later, inside, hit⟩
      · exact inRest ⟨later, outside, hit⟩

theorem without_eq_self (forest : Forest α) (dropped : α → Bool)
    (stay : ∀ root ∈ forest.preorder, dropped root = false) : forest.without dropped = forest := by
  induction forest with
  | empty => rfl
  | cons root children rest below beside =>
    have kept : dropped root = false := stay root (by simp [preorder])
    have inside := below fun other member => stay other (by simp [preorder, member])
    have onward := beside fun other member => stay other (by simp [preorder, member])
    simp [without, kept, inside, onward]

theorem preorder_without_sublist (forest : Forest α) (dropped : α → Bool) :
    (forest.without dropped).preorder.Sublist forest.preorder := by
  induction forest with
  | empty => exact .slnil
  | cons root children rest below beside =>
    unfold without
    split
    · exact .cons root (beside.trans (List.sublist_append_right _ _))
    · exact .cons_cons root (below.append beside)

def map (label : α → β) : Forest α → Forest β
  | .empty => .empty
  | .cons root children rest => .cons (label root) (children.map label) (rest.map label)

theorem map_map {γ : Type} (outer : β → γ) (inner : α → β) (forest : Forest α) :
    (forest.map inner).map outer = forest.map (outer ∘ inner) := by
  induction forest with
  | empty => rfl
  | cons root children rest below beside => simp [map, below, beside]

@[simp] theorem isEmpty_map (label : α → β) (forest : Forest α) :
    (forest.map label).isEmpty = forest.isEmpty := by
  cases forest <;> rfl

theorem map_modify (label : α → β) (change : Tree α → Tree α) (position : Position)
    (forest : Forest α) (labels : ∀ tree, label (change tree).root = label tree.root)
    (children : ∀ tree, (change tree).children = tree.children) :
    (forest.modify change position).map label = forest.map label := by
  induction forest generalizing position with
  | empty => rfl
  | cons root below rest inside beside =>
    match position with
    | [] => rfl
    | [0] => simp [modify, map, labels, children]
    | 0 :: number :: further => simp [modify, map, inside]
    | (number + 1) :: further => simp [modify, map, beside]

theorem capped_map (label : α → β) (budget : Nat) (forest : Forest α) :
    (forest.map label).capped budget =
      ((forest.capped budget).1.map label, (forest.capped budget).2) := by
  induction forest generalizing budget with
  | empty => rfl
  | cons root children rest below beside =>
    cases budget with
    | zero => rfl
    | succ remaining => simp [map, capped, below, beside]

end SceneInspector.Forest
