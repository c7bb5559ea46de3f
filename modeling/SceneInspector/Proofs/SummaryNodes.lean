import SceneInspector.Proofs.ForestPositions
import SceneInspector.Summary.Basic

namespace SceneInspector

-- A row of nodes as it is held in memory. A node has a list of the nodes below it or none, and
-- nothing in the type keeps that list from being empty.
inductive Nodes (α : Type) where
  | empty
  | cons (root : α) (children : Option (Nodes α)) (rest : Nodes α)

namespace Nodes
variable {α : Type}

def isEmpty : Nodes α → Bool
  | .empty => true
  | .cons .. => false

def listed (children : Nodes α) : Option (Nodes α) :=
  if children.isEmpty then none else some children

def size : Nodes α → Nat
  | .empty => 0
  | .cons _ none rest => 1 + rest.size
  | .cons _ (some children) rest => 1 + children.size + rest.size

-- A list of children that is cut down to nothing is taken away.
def capped (budget : Nat) : Nodes α → Nodes α × Nat
  | .empty => (.empty, budget)
  | .cons root children rest =>
    match budget, children with
    | 0, _ => (.empty, 0)
    | remaining + 1, none =>
      let beside := rest.capped remaining
      (.cons root none beside.1, beside.2)
    | remaining + 1, some children =>
      let below := children.capped remaining
      let beside := rest.capped below.2
      (.cons root below.1.listed beside.1, beside.2)

def limited (limit : Nat) (nodes : Nodes α) : Nodes α :=
  if 0 < limit ∧ limit < nodes.size then (nodes.capped limit).1 else nodes

def node? (position : Position) : Nodes α → Option (α × Option (Nodes α))
  | .empty => none
  | .cons root children rest =>
    match position, children with
    | [], _ => none
    | [0], children => some (root, children)
    | 0 :: _, none => none
    | 0 :: below, some children => children.node? below
    | (n + 1) :: below, _ => rest.node? (n :: below)

def modify (edit : α → α) (position : Position) : Nodes α → Nodes α
  | .empty => .empty
  | .cons root children rest =>
    match position, children with
    | [], children => .cons root children rest
    | [0], children => .cons (edit root) children rest
    | 0 :: _, none => .cons root none rest
    | 0 :: below, some children => .cons root (some (children.modify edit below)) rest
    | (n + 1) :: below, children => .cons root children (rest.modify edit (n :: below))

def json : Nodes Summary.Item → List Json
  | .empty => []
  | .cons item none rest => item.toJson none :: rest.json
  | .cons item (some children) rest => item.toJson (some children.json) :: rest.json

-- No list and an empty one are treated alike, so that one case a function covers both.
theorem size_listed (root : α) (children rest : Nodes α) :
    (cons root children.listed rest).size = 1 + children.size + rest.size := by
  cases children <;> rfl

theorem capped_listed (remaining : Nat) (root : α) (children rest : Nodes α) :
    (cons root children.listed rest).capped (remaining + 1) =
      (cons root (children.capped remaining).1.listed
        (rest.capped (children.capped remaining).2).1,
        (rest.capped (children.capped remaining).2).2) := by
  cases children <;> rfl

theorem node?_listed (root : α) (children rest : Nodes α) (number : Nat) (below : Position) :
    (cons root children.listed rest).node? (0 :: number :: below) =
      children.node? (number :: below) := by
  cases children <;> rfl

theorem modify_listed (edit : α → α) (root : α) (children rest : Nodes α) (number : Nat)
    (below : Position) : (cons root children.listed rest).modify edit (0 :: number :: below) =
      cons root (children.modify edit (number :: below)).listed rest := by
  cases children with
  | empty => rfl
  | cons first inner others =>
    have kept : ((cons first inner others).modify edit (number :: below)).isEmpty = false := by
      cases number <;> cases below <;> cases inner <;> rfl
    rw [listed, listed, kept]
    rfl

end Nodes

namespace Forest
variable {α : Type}

def nodes : Forest α → Nodes α
  | .empty => .empty
  | .cons root children rest => .cons root children.nodes.listed rest.nodes

@[simp] theorem isEmpty_nodes (forest : Forest α) : forest.nodes.isEmpty = forest.isEmpty := by
  cases forest <;> rfl

theorem listed_nodes_eq_none {forest : Forest α} :
    forest.nodes.listed = none ↔ forest = .empty := by
  cases forest with
  | empty => exact iff_of_true rfl rfl
  | cons => exact iff_of_false nofun nofun

theorem listed_nodes_ne_empty (forest : Forest α) : forest.nodes.listed ≠ some .empty := by
  cases forest <;> nofun

@[simp] theorem size_nodes (forest : Forest α) : forest.nodes.size = forest.size := by
  induction forest with
  | empty => rfl
  | cons root children rest below beside =>
    rw [nodes, Nodes.size_listed, below, beside, size]

theorem capped_nodes (budget : Nat) (forest : Forest α) :
    forest.nodes.capped budget = ((forest.capped budget).1.nodes, (forest.capped budget).2) := by
  induction forest generalizing budget with
  | empty => rfl
  | cons root children rest below beside =>
    cases budget with
    | zero => rfl
    | succ remaining => rw [nodes, Nodes.capped_listed, below, beside]; rfl

theorem capped_eq_self {budget : Nat} {forest : Forest α} (enough : forest.size ≤ budget) :
    (forest.capped budget).1 = forest := by
  induction forest generalizing budget with
  | empty => rfl
  | cons root children rest below beside =>
    rw [size] at enough
    cases budget with
    | zero => omega
    | succ remaining =>
      have inside : (children.capped remaining).1 = children := below (by omega)
      have onward : (rest.capped (remaining - children.size)).1 = rest := beside (by omega)
      simp only [capped, left_capped, inside, onward]

theorem node?_nodes (position : Position) (forest : Forest α) :
    forest.nodes.node? position =
      (forest.tree? position).map fun tree => (tree.root, tree.children.nodes.listed) := by
  induction forest generalizing position with
  | empty => rfl
  | cons root children rest below beside =>
    match position with
    | [] => rfl
    | [0] => rfl
    | 0 :: number :: further =>
      rw [nodes, Nodes.node?_listed, below]
      rfl
    | (number + 1) :: further => exact beside (number :: further)

theorem children_ne_empty {forest : Forest α} {position : Position}
    {node : α × Option (Nodes α)} (found : forest.nodes.node? position = some node) :
    node.2 ≠ some .empty := by
  rw [node?_nodes, Option.map_eq_some_iff] at found
  obtain ⟨tree, _, rfl⟩ := found
  exact listed_nodes_ne_empty tree.children

theorem modify_nodes (edit : α → α) (position : Position) (forest : Forest α) :
    forest.nodes.modify edit position =
      (forest.modify (fun tree => { tree with root := edit tree.root }) position).nodes := by
  induction forest generalizing position with
  | empty => rfl
  | cons root children rest below beside =>
    match position with
    | [] => rfl
    | [0] => rfl
    | 0 :: number :: further =>
      rw [nodes, Nodes.modify_listed, below]
      rfl
    | (number + 1) :: further =>
      show Nodes.cons root children.nodes.listed (rest.nodes.modify edit (number :: further)) = _
      rw [beside]
      rfl

theorem json_nodes (items : Forest Summary.Item) : items.nodes.json = items.itemsJson := by
  induction items with
  | empty => rfl
  | cons item children rest below beside =>
    cases children with
    | empty => exact congrArg (item.toJson none :: ·) beside
    | cons =>
      show item.toJson (some (nodes _).json) :: rest.nodes.json = _
      rw [below, beside]
      rfl

end Forest

namespace Summary

def nodesFrom (catalogue : Catalogue) (parent : Position) (next : Nat) :
    Forest Element → Nodes Item
  | .empty => .empty
  | .cons element children rest =>
    let position := parent ++ [next]
    let below := nodesFrom catalogue position 0 children
    if isOfInterest catalogue element || !below.isEmpty then
      .cons (.ofElement catalogue position element) below.listed
        (nodesFrom catalogue parent (next + 1) rest)
    else nodesFrom catalogue parent next rest

theorem nodesFrom_eq (catalogue : Catalogue) (parent : Position) (next : Nat)
    (elements : Forest Element) : nodesFrom catalogue parent next elements =
      (projectFrom catalogue parent next elements).nodes := by
  induction elements generalizing parent next with
  | empty => rfl
  | cons element children rest below beside =>
    simp only [nodesFrom, projectFrom, below, beside, Forest.isEmpty_nodes]
    split <;> rfl

theorem limited_nodes (limit : Nat) (items : Forest Item) :
    items.nodes.limited limit = (limited limit items).nodes := by
  rw [Nodes.limited, limited, Forest.capped_nodes, Forest.size_nodes]
  by_cases unlimited : limit = 0
  · rw [if_neg (by omega), if_pos unlimited]
  · rw [if_neg unlimited]
    split
    · rfl
    · rw [Forest.capped_eq_self (by omega)]

-- The nodes that a summary is given and then keeps, whatever is edited in them.
inductive Holds : Summary → Nodes Item → Prop where
  | built (summary : Summary) (catalogue : Catalogue) (elements : Forest Element) :
      Holds (summary.rebuild catalogue elements)
        ((nodesFrom catalogue [] 0 elements).limited summary.sizeLimit)
  | edited {summary : Summary} {nodes : Nodes Item} (prior : Holds summary nodes)
      (position : Position) (edit : Item → Item) :
      Holds (summary.change position edit) (nodes.modify edit position)
  | marked {summary : Summary} {nodes : Nodes Item} (prior : Holds summary nodes)
      (stale anyChanged : Bool) : Holds { summary with stale, anyChanged } nodes

theorem Holds.nodes_eq {summary : Summary} {nodes : Nodes Item} (held : Holds summary nodes) :
    nodes = summary.roots.nodes := by
  induction held with
  | built summary catalogue elements =>
    rw [nodesFrom_eq, limited_nodes]
    rfl
  | edited _ position edit ih =>
    rw [ih, Forest.modify_nodes]
    rfl
  | marked _ stale anyChanged ih => exact ih

section
variable {summary : Summary} (held : ∃ nodes, Holds summary nodes)
include held

theorem applyChange_holds (catalogue : Catalogue) (scene : Scene) (change : Element.Change) :
    ∃ nodes, Holds (summary.applyChange catalogue scene change) nodes := by
  obtain ⟨nodes, held⟩ := held
  unfold applyChange
  dsimp only
  split
  · exact ⟨_, (held.edited _ _).marked _ true⟩
  · exact ⟨nodes, held.marked _ true⟩

theorem flush_holds (catalogue : Catalogue) (scene : Scene) :
    ∃ nodes, Holds (summary.flush catalogue scene).1 nodes := by
  obtain ⟨nodes, held⟩ := held
  unfold flush
  split
  · exact ⟨_, .built summary catalogue scene.roots⟩
  · split
    · exact ⟨nodes, held.marked _ false⟩
    · exact ⟨nodes, held⟩

theorem select_holds (selection : Element) (id : ElementId) :
    ∃ nodes, Holds (summary.select selection id).1 nodes := by
  obtain ⟨nodes, held⟩ := held
  unfold select
  split
  · dsimp only
    exact ⟨_, held.edited _ _⟩
  · exact ⟨nodes, held⟩

theorem unselect_holds (selection : Element) (id : ElementId) :
    ∃ nodes, Holds (summary.unselect selection id).1 nodes := by
  obtain ⟨nodes, held⟩ := held
  unfold unselect
  split
  · split
    · dsimp only
      exact ⟨_, held.edited _ _⟩
    · exact ⟨nodes, held⟩
  · exact ⟨nodes, held⟩

end

end Summary
end SceneInspector
