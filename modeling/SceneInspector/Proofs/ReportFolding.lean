import SceneInspector.Proofs.ForestPositions
import SceneInspector.Report

namespace SceneInspector

def Position.depth (position : Position) : Nat := position.length - 1

namespace Forest
variable {α : Type} {forest : Forest α} {parent : Position} {next : Nat}

def treePlacesFrom (parent : Position) (next : Nat) : Forest α → List (Position × Tree α)
  | .empty => []
  | .cons root children rest =>
    (parent ++ [next], ⟨root, children⟩) ::
      (children.treePlacesFrom (parent ++ [next]) 0 ++ rest.treePlacesFrom parent (next + 1))

def treePlaces (forest : Forest α) : List (Position × Tree α) := forest.treePlacesFrom [] 0

theorem treePlacesFrom_places (forest : Forest α) (parent : Position) (next : Nat) :
    (forest.treePlacesFrom parent next).map (fun place => (place.1, place.2.root)) =
      forest.placesFrom parent next := by
  induction forest generalizing parent next with
  | empty => rfl
  | cons root children rest below beside => simp [treePlacesFrom, placesFrom, below, beside]

theorem treePlacesFrom_subtrees (forest : Forest α) (parent : Position) (next : Nat) :
    (forest.treePlacesFrom parent next).map (·.2) = forest.subtrees := by
  induction forest generalizing parent next with
  | empty => rfl
  | cons root children rest below beside => simp [treePlacesFrom, subtrees, below, beside]

theorem tree?_treePlaces {place : Position × Tree α} (member : place ∈ forest.treePlaces) :
    forest.tree? place.1 = some place.2 := by
  have paired := forest.places_subtrees
  rw [places, ← forest.treePlacesFrom_places, ← forest.treePlacesFrom_subtrees [] 0,
    List.map_map, List.map_map, List.map_inj_left] at paired
  exact (Prod.mk.inj (paired place member)).1

theorem mem_treePlaces {position : Position} {tree : Tree α} :
    (position, tree) ∈ forest.treePlaces ↔ forest.tree? position = some tree := by
  refine ⟨tree?_treePlaces, fun found => ?_⟩
  have listed := mem_places found
  rw [places, ← forest.treePlacesFrom_places, List.mem_map] at listed
  obtain ⟨place, member, same⟩ := listed
  obtain ⟨rfl, _⟩ := Prod.mk.inj same
  rwa [← Option.some.inj ((tree?_treePlaces member).symm.trans found)]

theorem position_treePlacesFrom {place : Position × Tree α}
    (member : place ∈ forest.treePlacesFrom parent next) :
    ∃ number below, next ≤ number ∧ place.1 = parent ++ number :: below := by
  induction forest generalizing parent next with
  | empty => cases member
  | cons root children rest inside beside =>
    rcases List.mem_cons.mp member with rfl | further
    · exact ⟨next, [], Nat.le_refl next, rfl⟩
    · rcases List.mem_append.mp further with below | later
      · obtain ⟨number, below, _, there⟩ := inside below
        exact ⟨next, number :: below, Nat.le_refl next, by rw [there, List.append_assoc]; rfl⟩
      · obtain ⟨number, below, after, there⟩ := beside later
        exact ⟨number, below, Nat.le_of_succ_le after, there⟩

theorem depth_treePlacesFrom {place : Position × Tree α}
    (member : place ∈ forest.treePlacesFrom parent next) : parent.length ≤ place.1.depth := by
  obtain ⟨number, below, _, there⟩ := position_treePlacesFrom member
  rw [there, Position.depth, List.length_append, List.length_cons]
  omega

theorem first_treePlacesFrom {root : α} {children : Forest α} {place : Position × Tree α}
    (member : place ∈ (parent ++ [next], ⟨root, children⟩) ::
      children.treePlacesFrom (parent ++ [next]) 0) :
    ∃ below, place.1 = parent ++ next :: below := by
  rcases List.mem_cons.mp member with rfl | inside
  · exact ⟨[], rfl⟩
  · obtain ⟨number, below, _, there⟩ := position_treePlacesFrom inside
    exact ⟨number :: below, by rw [there, List.append_assoc]; rfl⟩

-- Preorder is the dictionary order of the positions, so that no position comes twice.
theorem treePlacesFrom_ordered (forest : Forest α) (parent : Position) (next : Nat) :
    (forest.treePlacesFrom parent next).Pairwise fun earlier later => earlier.1 < later.1 := by
  induction forest generalizing parent next with
  | empty => exact .nil
  | cons root children rest inside beside =>
    have first_beside : ∀ earlier ∈ (parent ++ [next], ⟨root, children⟩) ::
        children.treePlacesFrom (parent ++ [next]) 0,
        ∀ later ∈ rest.treePlacesFrom parent (next + 1), earlier.1 < later.1 := by
      intro earlier first later second
      obtain ⟨below, here⟩ := first_treePlacesFrom first
      obtain ⟨number, further, after, there⟩ := position_treePlacesFrom second
      rw [here, there]
      exact List.append_left_lt (List.cons_lt_cons_iff.mpr (.inl after))
    have root_inside : ∀ later ∈ children.treePlacesFrom (parent ++ [next]) 0,
        parent ++ [next] < later.1 := by
      intro later member
      obtain ⟨number, below, _, there⟩ := position_treePlacesFrom member
      have longer : parent ++ [next] ++ [] < parent ++ [next] ++ number :: below :=
        List.append_left_lt (List.nil_lt_cons number below)
      rw [List.append_nil] at longer
      rwa [there]
    exact List.pairwise_append.mpr
      ⟨.cons root_inside (inside _ 0), beside parent (next + 1), first_beside⟩

end Forest

namespace Report
open Summary
variable {level : Nat}

-- What is said of the item at a place: two blanks for every root above it, its mark, its title, or
-- its id in brackets when it has no name, its path, its colour if it has one, and at the level at
-- which the items are folded the number of its children, if there are any.
def entry (level : Nat) (place : Position × Tree Item) : String :=
  let item := place.2.root
  let children := place.2.children.trees.length
  String.join (List.replicate place.1.depth "  ") ++
    (if item.kind = .detailAndActive then "*" else " ") ++ " " ++
    (if item.name = "" then "[" ++ toString item.element.toNat ++ "]" else item.title) ++
    " (" ++ item.path ++ ")" ++
    (if item.mainColour = "" then "" else " " ++ item.mainColour) ++
    (if place.1.depth = level ∧ 0 < children then " +" ++ toString children else "") ++ "\n"

theorem indent_eq (depth : Nat) :
    String.ofList (List.replicate (2 * depth) ' ') = String.join (List.replicate depth "  ") := by
  induction depth with
  | zero => rfl
  | succ depth ih =>
    rw [List.replicate_succ, String.join_cons, ← ih, Nat.mul_succ, Nat.add_comm,
      ← List.replicate_append_replicate, String.ofList_append]
    rfl

theorem marker_eq (kind : Kind) : marker kind = if kind = .detailAndActive then "*" else " " := by
  cases kind <;> rfl

theorem caption_eq (item : Item) : caption item =
    if item.name = "" then "[" ++ toString item.element.toNat ++ "]" else item.title := by
  by_cases anonymous : item.name = "" <;> simp [caption, Item.visible, anonymous]

def isFolded (level depth : Nat) (children : Forest Item) : Bool :=
  !children.isEmpty && level ≤ depth

theorem linesFrom_cons (level depth : Nat) (item : Item) (children rest : Forest Item) :
    linesFrom level depth (.cons item children rest) =
      line depth item
          (if isFolded level depth children then some children.trees.length else none) ++
        (if isFolded level depth children then "" else linesFrom level (depth + 1) children) ++
        linesFrom level depth rest := rfl

theorem isFolded_iff {depth : Nat} (within : depth ≤ level) (children : Forest Item) :
    isFolded level depth children = true ↔ depth = level ∧ 0 < children.trees.length := by
  cases children with
  | empty => simp [isFolded, Forest.isEmpty, Forest.trees]
  | cons child below others =>
    have bottom : level ≤ depth ↔ depth = level := by omega
    simp [isFolded, Forest.isEmpty, Forest.trees, bottom]

theorem line_eq {position : Position} (within : position.depth ≤ level) (item : Item)
    (children : Forest Item) :
    line position.depth item
        (if isFolded level position.depth children then some children.trees.length else none) =
      entry level (position, ⟨item, children⟩) := by
  unfold line entry
  simp only [indent_eq, marker_eq, caption_eq, isFolded_iff within]
  by_cases folded : position.depth = level ∧ 0 < children.trees.length
  · simp only [if_pos folded]
  · simp only [if_neg folded]

def told (level : Nat) (places : List (Position × Tree Item)) : String :=
  String.join ((places.filter fun place => place.1.depth ≤ level).map (entry level))

theorem told_cons {place : Position × Tree Item} (within : place.1.depth ≤ level)
    (later : List (Position × Tree Item)) :
    told level (place :: later) = entry level place ++ told level later := by
  rw [told, List.filter_cons, if_pos (decide_eq_true within), List.map_cons, String.join_cons, told]

theorem told_append (level : Nat) (earlier later : List (Position × Tree Item)) :
    told level (earlier ++ later) = told level earlier ++ told level later := by
  simp [told, List.filter_append, String.join_append]

theorem told_beyond {parent : Position} (beyond : level < parent.length) (next : Nat)
    (items : Forest Item) : told level (items.treePlacesFrom parent next) = "" := by
  have nothing : (items.treePlacesFrom parent next).filter
      (fun place => place.1.depth ≤ level) = [] := by
    refine List.filter_eq_nil_iff.mpr fun place member shallow => ?_
    have deep := Forest.depth_treePlacesFrom member
    rw [decide_eq_true_iff] at shallow
    omega
  rw [told, nothing]
  rfl

-- Siblings are as deep as the position of their parent is long. They are never deeper than the
-- level, for what is below a root at the level is folded.
theorem linesFrom_told (items : Forest Item) (parent : Position) (next : Nat)
    (within : parent.length ≤ level) :
    linesFrom level parent.length items = told level (items.treePlacesFrom parent next) := by
  induction items generalizing parent next with
  | empty => rfl
  | cons item children rest below beside =>
    have deeper : (parent ++ [next]).length = parent.length + 1 := List.length_append
    have depth : (parent ++ [next]).depth = parent.length := by
      rw [Position.depth, deeper, Nat.add_sub_cancel]
    have shallow : (parent ++ [next]).depth ≤ level := by rwa [depth]
    have inside : (if isFolded level parent.length children then ""
          else linesFrom level (parent.length + 1) children) =
        told level (children.treePlacesFrom (parent ++ [next]) 0) := by
      cases children with
      | empty => rfl
      | cons child under others =>
        have folded := isFolded_iff within (.cons child under others)
        by_cases bottom : parent.length = level
        · rw [if_pos (folded.mpr ⟨bottom, Nat.succ_pos _⟩), told_beyond (by omega)]
        · rw [if_neg fun counted => bottom (folded.mp counted).1, ← deeper]
          exact below _ 0 (by omega)
    have here := line_eq shallow item children
    rw [depth] at here
    rw [linesFrom_cons, here, inside, beside parent (next + 1) within, Forest.treePlacesFrom,
      told_cons shallow, told_append, String.append_assoc]

-- A summary is made of one entry for every item down to the level at which it is folded, in
-- preorder, and tells of no item further down.
theorem summary_folds (state : State) :
    let level := state.summary.expandLevel
    let shown := state.summary.roots.treePlaces.filter fun place => place.1.depth ≤ level
    summary state = String.join (shown.map (entry level)) ∧
    (shown.Pairwise fun earlier later => earlier.1 < later.1) ∧
    ∀ position tree, (position, tree) ∈ shown ↔
      state.summary.roots.tree? position = some tree ∧ position.depth ≤ level := by
  intro level shown
  refine ⟨linesFrom_told _ [] 0 (Nat.zero_le level), ?_, fun position tree => ?_⟩
  · exact (Forest.treePlacesFrom_ordered _ [] 0).filter _
  · rw [List.mem_filter, Forest.mem_treePlaces, decide_eq_true_iff]

-- The hit is below the level, and only the track above it tells that there is one.
example :
    let hit : Forest Element := .cons { id := 7, name := "Hit" } .empty .empty
    let track : Forest Element := .cons { id := 5, name := "Track" } hit .empty
    let viewer : Forest Element := .cons { id := 4, name := "Viewer" } .empty .empty
    let event : Forest Element :=
      .cons { id := 2, name := "Event" } (.cons { id := 3 } track viewer) .empty
    summary (State.initial.update (.scene (.managerInit event))).1 =
      "  Event (/0)\n    [3] (/0/childs/0)\n      Track (/0/childs/0/childs/0) +1\n" ++
        "    Viewer (/0/childs/1)\n" := by
  decide +kernel

end Report
end SceneInspector
