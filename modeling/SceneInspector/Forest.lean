namespace SceneInspector

-- A forest is empty, or a first tree, given by its root and the forest below that root, followed
-- by the remaining trees. Siblings are ordered.
inductive Forest (α : Type) where
  | empty
  | cons (root : α) (children rest : Forest α)
deriving DecidableEq, Repr, Inhabited

structure Tree (α : Type) where
  root : α
  children : Forest α
deriving DecidableEq, Repr

-- Child numbers from the top, counted from zero. No tree is at the empty position.
abbrev Position := List Nat

namespace Forest
variable {α β : Type}

def isEmpty : Forest α → Bool
  | .empty => true
  | .cons .. => false

def ofTrees : List (Tree α) → Forest α
  | [] => .empty
  | tree :: rest => .cons tree.root tree.children (ofTrees rest)

def trees : Forest α → List (Tree α)
  | .empty => []
  | .cons root children rest => ⟨root, children⟩ :: rest.trees

def preorder : Forest α → List α
  | .empty => []
  | .cons root children rest => root :: (children.preorder ++ rest.preorder)

def size : Forest α → Nat
  | .empty => 0
  | .cons _ children rest => 1 + children.size + rest.size

def placesFrom (parent : Position) (next : Nat) : Forest α → List (Position × α)
  | .empty => []
  | .cons root children rest =>
    (parent ++ [next], root) ::
      (children.placesFrom (parent ++ [next]) 0 ++ rest.placesFrom parent (next + 1))

def places (forest : Forest α) : List (Position × α) := forest.placesFrom [] 0

def tree? (position : Position) : Forest α → Option (Tree α)
  | .empty => none
  | .cons root children rest =>
    match position with
    | [] => none
    | [0] => some ⟨root, children⟩
    | 0 :: below => children.tree? below
    | (n + 1) :: below => rest.tree? (n :: below)

def modify (change : Tree α → Tree α) (position : Position) : Forest α → Forest α
  | .empty => .empty
  | .cons root children rest =>
    match position with
    | [] => .cons root children rest
    | [0] => .cons (change ⟨root, children⟩).root (change ⟨root, children⟩).children rest
    | 0 :: below => .cons root (children.modify change below) rest
    | (n + 1) :: below => .cons root children (rest.modify change (n :: below))

def without (dropped : α → Bool) : Forest α → Forest α
  | .empty => .empty
  | .cons root children rest =>
    if dropped root then rest.without dropped
    else .cons root (children.without dropped) (rest.without dropped)

-- The first tree, in preorder, whose root is wanted. What lies below a wanted root is not searched.
def find? (wanted : α → Bool) : Forest α → Option (Tree α)
  | .empty => none
  | .cons root children rest =>
    if wanted root then some ⟨root, children⟩
    else match children.find? wanted with
      | some found => some found
      | none => rest.find? wanted

def capped (budget : Nat) : Forest α → Forest α × Nat
  | .empty => (.empty, budget)
  | .cons root children rest =>
    match budget with
    | 0 => (.empty, 0)
    | remaining + 1 =>
      let below := children.capped remaining
      let beside := rest.capped below.2
      (.cons root below.1 beside.1, beside.2)

@[simp] theorem length_preorder (forest : Forest α) : forest.preorder.length = forest.size := by
  induction forest with
  | empty => rfl
  | cons root children rest below beside => simp [preorder, size, below, beside]; omega

theorem placesFrom_roots (forest : Forest α) (parent : Position) (next : Nat) :
    (forest.placesFrom parent next).map (·.2) = forest.preorder := by
  induction forest generalizing parent next with
  | empty => rfl
  | cons root children rest below beside => simp [placesFrom, preorder, below, beside]

end SceneInspector.Forest
