import Mathlib.Data.Finset.Card
import Mathlib.Data.List.Induction
import SceneInspector.Proofs.SummaryNodes
import SceneInspector.Proofs.SummaryPath
import SceneInspector.Proofs.SummaryProjection
import SceneInspector.Schema.Builtin

namespace SceneInspector.Summary

def ids (roots : Forest Item) : List ElementId := roots.preorder.map (·.element)

-- The index that a row of places gives. The first place of an element is the one that counts.
def recorded (places : List (Position × ElementId × Position)) : Std.TreeMap ElementId Position :=
  places.foldl (fun index place => index.insertIfNew place.2.1 place.1) ∅

theorem getElem?_recorded (places : List (Position × ElementId × Position)) (id : ElementId) :
    (recorded places)[id]? = (places.find? fun place => place.2.1 = id).map (·.1) := by
  induction places using List.reverseRecOn with
  | nil => simp [recorded]
  | append_singleton places place ih =>
    have grown : recorded (places ++ [place]) =
        (recorded places).insertIfNew place.2.1 place.1 := by simp [recorded]
    rw [grown, Std.TreeMap.getElem?_insertIfNew, List.find?_append]
    by_cases same : place.2.1 = id
    · subst same
      cases found : places.find? fun other => other.2.1 = place.2.1 with
      | none =>
        have unknown : place.2.1 ∉ recorded places := by
          rw [Std.TreeMap.mem_iff_isSome_getElem?, ih, found]
          simp
        simp [unknown]
      | some first =>
        have known : place.2.1 ∈ recorded places := by
          rw [Std.TreeMap.mem_iff_isSome_getElem?, ih, found]
          simp
        rw [if_neg fun fresh => fresh.2 known, ih, found]
        rfl
    · simp [same, ih]

-- The index reads no more of an item than its place.
theorem indexOf_eq_recorded (roots : Forest Item) :
    indexOf roots = recorded (roots.map Item.place).places := by
  rw [Forest.places, Forest.placesFrom_map, recorded, List.foldl_map]
  rfl

theorem getElem?_indexOf (roots : Forest Item) (id : ElementId) :
    (indexOf roots)[id]? = (roots.places.find? fun place => place.2.element = id).map (·.1) := by
  rw [indexOf_eq_recorded, getElem?_recorded, Forest.places, Forest.placesFrom_map, List.find?_map,
    Option.map_map]
  rfl

theorem mem_indexOf (roots : Forest Item) (id : ElementId) :
    id ∈ indexOf roots ↔ id ∈ ids roots := by
  rw [Std.TreeMap.mem_iff_isSome_getElem?, getElem?_indexOf, ids, ← roots.placesFrom_roots [] 0]
  simp [Forest.places]

theorem size_indexOf (roots : Forest Item) :
    (indexOf roots).size = (ids roots).toFinset.card := by
  have known : (indexOf roots).keys.toFinset = (ids roots).toFinset := by
    ext id
    simp [mem_indexOf]
  rw [← Std.TreeMap.length_keys, ← List.toFinset_card_of_nodup Std.TreeMap.nodup_keys, known]

def first? (roots : Forest Item) (id : ElementId) : Option (Tree Item) :=
  roots.subtrees.find? fun tree => tree.root.element = id

theorem isSome_first? (roots : Forest Item) (id : ElementId) :
    (first? roots id).isSome = true ↔ id ∈ ids roots := by
  rw [first?, List.find?_isSome, ids, ← roots.subtrees_roots]
  simp

theorem item?_indexed {summary : Summary} (indexed : summary.index = indexOf summary.roots)
    (id : ElementId) : summary.item? id = first? summary.roots id := by
  have paired := congrArg (fun pairs => (pairs.find? fun pair => pair.2.element = id).bind (·.1))
    summary.roots.places_subtrees
  simp only [List.find?_map, Option.bind_map] at paired
  have looked : summary.item? id =
      (summary.roots.places.find? fun place => place.2.element = id).bind
        fun place => summary.roots.tree? place.1 := by
    unfold item?
    rw [indexed, getElem?_indexOf]
    cases summary.roots.places.find? fun place => place.2.element = id with
    | none => rfl
    | some place => rfl
  rw [looked]
  exact paired.trans (Option.bind_fun_some _)

theorem tree?_of_index {summary : Summary} (indexed : summary.index = indexOf summary.roots)
    {id : ElementId} {position : Position} (known : summary.index[id]? = some position) :
    ∃ tree, summary.roots.tree? position = some tree ∧ tree.root.element = id := by
  have present : id ∈ ids summary.roots := by
    rw [← mem_indexOf, ← indexed, Std.TreeMap.mem_iff_isSome_getElem?]
    exact Option.isSome_of_eq_some known
  obtain ⟨tree, found⟩ := Option.isSome_iff_exists.mp ((isSome_first? summary.roots id).mpr present)
  have named : tree.root.element = id := by simpa using List.find?_some found
  rw [← item?_indexed indexed, item?, known] at found
  exact ⟨tree, found, named⟩

def SelfPlaced (places : Forest (ElementId × Position)) : Prop :=
  ∀ place ∈ places.places, place.2.2 = place.1

theorem numbered_selfPlaced (shown : Forest ElementId) (parent : Position) (next : Nat) :
    ∀ place ∈ (numbered parent next shown).placesFrom parent next, place.2.2 = place.1 := by
  induction shown generalizing parent next with
  | empty => intro place member; cases member
  | cons id children rest below beside =>
    intro place member
    rcases List.mem_cons.mp member with rfl | further
    · rfl
    · rcases List.mem_append.mp further with inside | outside
      · exact below _ _ place inside
      · exact beside _ _ place outside

theorem limited_selfPlaced (limit : Nat) {items : Forest Item}
    (placed : SelfPlaced (items.map Item.place)) :
    SelfPlaced ((limited limit items).map Item.place) := by
  unfold limited
  split
  · exact placed
  · have capped : (items.capped limit).1.map Item.place =
        ((items.map Item.place).capped limit).1 := by rw [Forest.capped_map]
    rw [capped]
    intro place member
    rw [Forest.places, Forest.placesFrom_capped] at member
    exact placed place (List.mem_of_mem_take member)

structure WellFormed (summary : Summary) : Prop where
  indexed : summary.index = indexOf summary.roots
  placed : SelfPlaced (summary.roots.map Item.place)
  limited : 0 < summary.sizeLimit → summary.roots.size ≤ summary.sizeLimit

theorem blank_wellFormed (expandLevel sizeLimit : Nat) :
    (blank expandLevel sizeLimit).WellFormed :=
  ⟨rfl, nofun, fun _ => Nat.zero_le _⟩

theorem rebuild_wellFormed (summary : Summary) (catalogue : Catalogue)
    (elements : Forest Element) : WellFormed (summary.rebuild catalogue elements) := by
  have placed : SelfPlaced ((project catalogue elements).map Item.place) := by
    unfold project
    rw [projectFrom_places]
    exact numbered_selfPlaced _ [] 0
  refine ⟨rfl, limited_selfPlaced summary.sizeLimit placed, fun some_limit => ?_⟩
  have limit : summary.sizeLimit ≠ 0 := Nat.pos_iff_ne_zero.mp some_limit
  have counted := Forest.size_capped summary.sizeLimit (project catalogue elements)
  show (Summary.limited summary.sizeLimit _).size ≤ summary.sizeLimit
  rw [Summary.limited, if_neg limit]
  omega

theorem InPlace.wellFormed {before after : Summary} (inPlace : InPlace before after)
    (wellFormed : WellFormed before) : WellFormed after := by
  obtain ⟨indexed, placed, limited⟩ := wellFormed
  refine ⟨?_, ?_, ?_⟩
  · rw [inPlace.index, indexed, indexOf_eq_recorded, indexOf_eq_recorded, inPlace.places]
  · rw [inPlace.places]
    exact placed
  · have same : after.roots.size = before.roots.size := by
      rw [← Forest.size_map Item.place, inPlace.places, Forest.size_map]
    rw [inPlace.sizeLimit, same]
    exact limited

inductive Reached : Summary → Prop where
  | built (summary : Summary) (catalogue : Catalogue) (elements : Forest Element) :
      Reached (summary.rebuild catalogue elements)
  | changed {summary : Summary} (prior : Reached summary) (catalogue : Catalogue) (scene : Scene)
      (change : Element.Change) : Reached (summary.applyChange catalogue scene change)
  | removed {summary : Summary} (prior : Reached summary) : Reached summary.applyRemoval
  | flushed {summary : Summary} (prior : Reached summary) (catalogue : Catalogue)
      (scene : Scene) : Reached (summary.flush catalogue scene).1
  | selected {summary : Summary} (prior : Reached summary) (selection : Element)
      (id : ElementId) : Reached (summary.select selection id).1
  | unselected {summary : Summary} (prior : Reached summary) (selection : Element)
      (id : ElementId) : Reached (summary.unselect selection id).1

theorem flush_wellFormed {summary : Summary} (wellFormed : WellFormed summary)
    (catalogue : Catalogue) (scene : Scene) :
    WellFormed (summary.flush catalogue scene).1 := by
  unfold flush
  split
  · exact rebuild_wellFormed summary catalogue scene.roots
  · split
    · exact ⟨wellFormed.indexed, wellFormed.placed, wellFormed.limited⟩
    · exact wellFormed

theorem reached_wellFormed {summary : Summary} (reached : Reached summary) :
    WellFormed summary := by
  induction reached with
  | built summary catalogue elements => exact rebuild_wellFormed summary catalogue elements
  | changed _ catalogue scene change ih =>
    exact (applyChange_inPlace _ catalogue scene change).wellFormed ih
  | removed _ ih => exact ⟨ih.indexed, ih.placed, ih.limited⟩
  | flushed _ catalogue scene ih => exact flush_wellFormed ih catalogue scene
  | selected _ selection id ih => exact (select_inPlace _ selection id).wellFormed ih
  | unselected _ selection id ih => exact (unselect_inPlace _ selection id).wellFormed ih

theorem reached_holds {summary : Summary} (reached : Reached summary) :
    ∃ nodes, Holds summary nodes := by
  induction reached with
  | built summary catalogue elements => exact ⟨_, .built summary catalogue elements⟩
  | changed _ catalogue scene change ih => exact applyChange_holds ih catalogue scene change
  | removed _ ih =>
    obtain ⟨nodes, held⟩ := ih
    exact ⟨nodes, held.marked true _⟩
  | flushed _ catalogue scene ih => exact flush_holds ih catalogue scene
  | selected _ selection id ih => exact select_holds ih selection id
  | unselected _ selection id ih => exact unselect_holds ih selection id

theorem WellFormed.position {summary : Summary} (wellFormed : WellFormed summary)
    {position : Position} {tree : Tree Item} (found : summary.roots.tree? position = some tree) :
    tree.root.position = position := by
  have listed : (position, tree.root.place) ∈ (summary.roots.map Item.place).places := by
    rw [Forest.places, Forest.placesFrom_map]
    exact List.mem_map_of_mem (f := fun place => (place.1, Item.place place.2))
      (Forest.mem_places found)
  exact wellFormed.placed _ listed

theorem WellFormed.path {summary : Summary} (wellFormed : WellFormed summary)
    {position : Position} {tree : Tree Item} (found : summary.roots.tree? position = some tree) :
    tree.root.path = "/" ++ "/childs/".intercalate (position.map toString) := by
  rw [Item.path, wellFormed.position found, Path.render_eq (Forest.position_ne_nil found)]

-- Every position in memory is made of machine words.
theorem WellFormed.atPath? {summary : Summary} (wellFormed : WellFormed summary)
    {position : Position} {tree : Tree Item} (found : summary.roots.tree? position = some tree)
    (words : ∀ number ∈ position, number ≤ Text.maxUInt64) :
    summary.atPath? tree.root.path = some tree := by
  unfold Summary.atPath? Item.path
  rw [String.toList_ofList, wellFormed.position found,
    Path.parse?_render (Forest.position_ne_nil found) words]
  exact found

theorem length_itemsJson (items : Forest Item) : items.itemsJson.length = items.trees.length := by
  induction items with
  | empty => rfl
  | cons item children rest _ ih => simp [Forest.itemsJson, Forest.trees, ih]

theorem children_listed (tree : Tree Item) :
    ∃ members, tree.itemJson = .object members ∧
      (tree.children = .empty ∧ Json.presence "children" members = .absent ∨
        ∃ items, items ≠ [] ∧ items.length = tree.children.trees.length ∧
          Json.presence "children" members = .once (.array items)) := by
  obtain ⟨item, children⟩ := tree
  refine ⟨_, rfl, ?_⟩
  cases children with
  | empty =>
    left
    simp [Forest.isEmpty, Json.presence]
  | cons first below rest =>
    right
    refine ⟨(Forest.cons first below rest).itemsJson, by simp [Forest.itemsJson],
      length_itemsJson _, ?_⟩
    simp [Forest.isEmpty, Json.presence]

-- At most the item that an id stands for shows something else afterwards, and that item keeps its
-- element, its path and its children.
def Retouches (id : ElementId) (before after : Summary) : Prop :=
  after.index = before.index ∧
    (after.roots = before.roots ∨
      ∃ (hole : Hole Item) (tree : Tree Item) (item : Item),
        before.index[id]? = some hole.position ∧ before.item? id = some tree ∧
        before.roots = hole.fill tree ∧ after.roots = hole.fill ⟨item, tree.children⟩ ∧
        item.element = tree.root.element ∧ item.path = tree.root.path)

theorem change_retouches (summary : Summary) {id : ElementId} {position : Position}
    (known : summary.index[id]? = some position) (edit : Item → Item)
    (keeps : ∀ item, (edit item).place = item.place) :
    Retouches id summary (summary.change position edit) := by
  refine ⟨rfl, ?_⟩
  cases found : summary.roots.tree? position with
  | none => exact .inl (Forest.modify_absent found _)
  | some tree =>
    right
    obtain ⟨hole, roots, rfl⟩ := Forest.exists_hole found
    obtain ⟨element, place⟩ := Prod.mk.inj (keeps tree.root)
    refine ⟨hole, tree, edit tree.root, known, ?_, roots, ?_, element, ?_⟩
    · simp [item?, known, found]
    · simp [change, roots]
    · rw [Item.path, Item.path, place]

theorem applyChange_retouches (summary : Summary) (catalogue : Catalogue) (scene : Scene)
    (change : Element.Change) :
    Retouches change.snapshot.root.id summary (summary.applyChange catalogue scene change) := by
  unfold applyChange
  dsimp only
  split
  · rename_i position known
    exact change_retouches summary known _ (place_changedItem catalogue _ change)
  · exact ⟨rfl, .inl rfl⟩

theorem select_retouches (summary : Summary) (selection : Element) (id : ElementId) :
    Retouches id summary (summary.select selection id).1 := by
  unfold select
  split
  · rename_i position known
    exact change_retouches summary known _ fun _ => rfl
  · exact ⟨rfl, .inl rfl⟩

theorem unselect_retouches (summary : Summary) (selection : Element) (id : ElementId) :
    Retouches id summary (summary.unselect selection id).1 := by
  unfold unselect
  split
  · rename_i position tree known _
    split
    · exact change_retouches summary known _ fun _ => rfl
    · exact ⟨rfl, .inl rfl⟩
  · exact ⟨rfl, .inl rfl⟩

-- What every summary keeps to that was built from whatever roots and then changed in whatever way:
-- items are where their paths say, no list of children that it holds is empty, an id is found where
-- it is shown first, no more is shown than the limit allows, and an edit in place is an edit of one
-- item that stays in its place.
theorem reached_represents {summary : Summary} (reached : Reached summary) :
    (∀ position tree, summary.roots.tree? position = some tree →
      tree.root.path = "/" ++ "/childs/".intercalate (position.map toString) ∧
      ((∀ number ∈ position, number ≤ Text.maxUInt64) →
        summary.atPath? tree.root.path = some tree)) ∧
    ((∃ nodes, Holds summary nodes) ∧
      (∀ nodes, Holds summary nodes →
        nodes = summary.roots.nodes ∧ nodes.json = summary.roots.itemsJson ∧
        ∀ position node, nodes.node? position = some node → node.2 ≠ some .empty) ∧
      ∀ tree ∈ summary.roots.subtrees, ∃ members, tree.itemJson = .object members ∧
        (tree.children = .empty ∧ Json.presence "children" members = .absent ∨
          ∃ items, items ≠ [] ∧ items.length = tree.children.trees.length ∧
            Json.presence "children" members = .once (.array items))) ∧
    (∀ id, ((summary.item? id).isSome = true ↔ id ∈ ids summary.roots) ∧
      summary.item? id = summary.roots.subtrees.find? fun tree => tree.root.element = id) ∧
    summary.size = (ids summary.roots).toFinset.card ∧
    (0 < summary.sizeLimit → summary.roots.size ≤ summary.sizeLimit) ∧
    (∀ catalogue scene change, Retouches change.snapshot.root.id summary
      (summary.applyChange catalogue scene change)) ∧
    (∀ selection id, Retouches id summary (summary.select selection id).1) ∧
    ∀ selection id, Retouches id summary (summary.unselect selection id).1 := by
  have wellFormed := reached_wellFormed reached
  refine ⟨?_, ⟨reached_holds reached, ?_, fun tree _ => children_listed tree⟩, ?_, ?_,
    wellFormed.limited, applyChange_retouches summary, select_retouches summary,
    unselect_retouches summary⟩
  · intro position tree found
    exact ⟨wellFormed.path found, wellFormed.atPath? found⟩
  · intro nodes held
    obtain rfl := held.nodes_eq
    exact ⟨rfl, Forest.json_nodes _, fun position node => Forest.children_ne_empty⟩
  · intro id
    rw [item?_indexed wellFormed.indexed]
    exact ⟨isSome_first? summary.roots id, rfl⟩
  · rw [size, wellFormed.indexed]
    exact size_indexOf summary.roots

-- A track and a copy under its id, after an element that is not shown. The limit leaves out the
-- jets, and a hover paints the track and not the copy.
def trackAndCopy : Summary :=
  let elements : Forest Element := .cons { id := 2, name := "Event" }
    (.cons { id := 6 } .empty
      (.cons { id := 5, name := "Track", typeName := "REveTrack" } .empty
        (.cons { id := 5, name := "Copy", typeName := "REveTrack" } .empty
          (.cons { id := 7, name := "Jets" } .empty .empty)))) .empty
  (((blank 2 3).rebuild ⟨.builtin, {}⟩ elements).select { id := 90, name := highlightName } 5).1

theorem reached_represents_copy :
    Reached trackAndCopy ∧ trackAndCopy.size = 2 ∧ trackAndCopy.roots.size ≤ 3 ∧
      trackAndCopy.atPath? "/0/childs/0" = trackAndCopy.item? 5 ∧
      (trackAndCopy.item? 5).map (fun tree => (tree.root.name, tree.root.paint)) =
        some ("Track", .highlighted) := by
  have reached : Reached trackAndCopy := .selected (.built (blank 2 3) _ _) _ 5
  obtain ⟨placed, _, found, size, limited, _⟩ := reached_represents reached
  obtain ⟨tree, there⟩ : ∃ tree, trackAndCopy.roots.tree? [0, 0] = some tree :=
    Option.isSome_iff_exists.mp (by decide +kernel)
  obtain ⟨path, atPath⟩ := placed [0, 0] tree there
  have first : trackAndCopy.roots.subtrees.find? (fun tree => tree.root.element = 5) =
      trackAndCopy.roots.tree? [0, 0] := by decide +kernel
  have item : trackAndCopy.item? 5 = some tree := by rw [(found 5).2, first, there]
  refine ⟨reached, ?_, limited (by decide), ?_, ?_⟩
  · rw [size]
    decide +kernel
  · rw [item, ← atPath (by decide), path]
    rfl
  · rw [(found 5).2]
    decide +kernel

end SceneInspector.Summary
