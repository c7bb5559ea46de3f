import Mathlib.Data.Finset.Card
import Mathlib.Data.List.Induction
import SceneInspector.Proofs.Forest
import SceneInspector.Scene

namespace SceneInspector.Scene

def recorded (places : List (Position × Element)) : Std.TreeMap ElementId Position :=
  places.foldl (fun index place => index.insert place.2.id place.1) ∅

theorem recorded_concat (places : List (Position × Element)) (place : Position × Element) :
    recorded (places ++ [place]) = (recorded places).insert place.2.id place.1 := by
  simp [recorded]

theorem getElem?_recorded (places : List (Position × Element)) (id : ElementId) :
    (recorded places)[id]? =
      (places.reverse.find? fun place => place.2.id = id).map (·.1) := by
  induction places using List.reverseRecOn with
  | nil => simp [recorded]
  | append_singleton places place ih =>
    rw [recorded_concat, Std.TreeMap.getElem?_insert, ih]
    by_cases same : place.2.id = id
    · simp [same]
    · simp [same]

theorem mem_recorded (places : List (Position × Element)) (id : ElementId) :
    id ∈ recorded places ↔ id ∈ places.map (·.2.id) := by
  rw [Std.TreeMap.mem_iff_isSome_getElem?, getElem?_recorded]
  simp

theorem size_recorded (places : List (Position × Element)) :
    (recorded places).size = (places.map (·.2.id)).toFinset.card := by
  induction places using List.reverseRecOn with
  | nil => simp [recorded]
  | append_singleton places place ih =>
    rw [recorded_concat, Std.TreeMap.size_insert, ih]
    have known : (recorded places).contains place.2.id = true ↔
        place.2.id ∈ (places.map (·.2.id)).toFinset := by
      rw [← Std.TreeMap.mem_iff_contains, mem_recorded, List.mem_toFinset]
    have grown : ((places ++ [place]).map (·.2.id)).toFinset =
        insert place.2.id (places.map (·.2.id)).toFinset := by
      ext id
      simp [eq_comm]
    rw [grown, Finset.card_insert_eq_ite]
    simp only [known]

def ids (roots : Forest Element) : List ElementId := roots.preorder.map (·.id)

theorem indexOf_eq_recorded (roots : Forest Element) : indexOf roots = recorded roots.places := rfl

theorem places_ids (roots : Forest Element) : roots.places.map (·.2.id) = ids roots := by
  rw [ids, ← roots.placesFrom_roots [] 0, List.map_map]
  rfl

theorem mem_indexOf (roots : Forest Element) (id : ElementId) :
    id ∈ indexOf roots ↔ id ∈ ids roots := by
  rw [indexOf_eq_recorded, mem_recorded, places_ids]

theorem size_ofRoots (roots : Forest Element) :
    (ofRoots roots).size = (ids roots).toFinset.card := by
  rw [← places_ids]
  exact size_recorded roots.places

theorem find?_last {β : Type} {wanted : β → Bool} {earlier later : List β} {one : β}
    (here : wanted one = true) (unwanted : ∀ other ∈ later, wanted other = false) :
    (earlier ++ one :: later).reverse.find? wanted = some one := by
  have none_later : later.reverse.find? wanted = none := by
    rw [List.find?_eq_none]
    intro other member
    simp [unwanted other (List.mem_reverse.mp member)]
  simp [none_later, here]

def last? (roots : Forest Element) (id : ElementId) : Option (Tree Element) :=
  roots.subtrees.reverse.find? fun tree => tree.root.id = id

theorem element?_ofRoots (roots : Forest Element) (id : ElementId) :
    (ofRoots roots).element? id = last? roots id := by
  have paired := congrArg (fun pairs => (pairs.reverse.find? fun pair => pair.2.id = id).bind (·.1))
    roots.places_subtrees
  simp only [← List.map_reverse, List.find?_map, Option.bind_map] at paired
  have looked : (ofRoots roots).element? id =
      (roots.places.reverse.find? fun place => place.2.id = id).bind
        fun place => roots.tree? place.1 := by
    unfold element? ofRoots
    rw [indexOf_eq_recorded, getElem?_recorded]
    cases roots.places.reverse.find? fun place => place.2.id = id with
    | none => rfl
    | some place => rfl
  rw [looked]
  exact paired.trans (Option.bind_fun_some _)

theorem last?_eq_none {roots : Forest Element} {id : ElementId} :
    last? roots id = none ↔ id ∉ ids roots := by
  unfold last? ids
  rw [List.find?_eq_none, ← roots.subtrees_roots, List.map_map]
  simp

theorem last?_fill (hole : Hole Element) (tree : Tree Element)
    (later : ∀ root ∈ tree.children.preorder ++ hole.after, root.id ≠ tree.root.id) :
    last? (hole.fill tree) tree.root.id = some tree := by
  obtain ⟨earlier, others, split, roots⟩ := Forest.subtrees_fill hole tree
  rw [last?, split]
  refine find?_last (by simp) fun other member => ?_
  have listed : other.root ∈ tree.children.preorder ++ hole.after := by
    rw [← roots]
    exact List.mem_map_of_mem member
  simpa using later other.root listed

theorem last?_root (roots : Forest Element) (id : ElementId) :
    (last? roots id).map (·.root) =
      roots.preorder.reverse.find? fun element => element.id = id := by
  rw [← roots.subtrees_roots, ← List.map_reverse, List.find?_map]
  rfl

theorem indexOf_fill (hole : Hole Element) (tree : Tree Element)
    (later : ∀ root ∈ tree.children.preorder ++ hole.after, root.id ≠ tree.root.id) :
    (indexOf (hole.fill tree))[tree.root.id]? = some hole.position := by
  obtain ⟨earlier, others, split, roots⟩ := hole.placesFrom_fill tree [] 0
  have unwanted : ∀ other ∈ others, decide (other.2.id = tree.root.id) = false := by
    intro other member
    have listed : other.2 ∈ tree.children.preorder ++ hole.after := by
      rw [← roots]
      exact List.mem_map_of_mem member
    simpa using later other.2 listed
  rw [indexOf_eq_recorded, getElem?_recorded, Forest.places, split, find?_last (by simp) unwanted]
  simp [Hole.position]

theorem recorded_congr {some_places other_places : List (Position × Element)}
    (same : some_places.map (fun place => (place.1, place.2.id)) =
      other_places.map (fun place => (place.1, place.2.id))) :
    recorded some_places = recorded other_places := by
  have folded (places : List (Position × Element)) : recorded places =
      (places.map fun place => (place.1, place.2.id)).foldl
        (fun index pair => index.insert pair.2 pair.1) ∅ := by
    rw [List.foldl_map]
    rfl
  rw [folded, folded, same]

-- Taking a snapshot in, on a scene that is indexed: nothing for an id that is not there, and
-- otherwise the last tree with that id takes it, and the scene is indexed again.
theorem apply_ofRoots (roots : Forest Element) (snapshot : Tree Element) :
    snapshot.root.id ∉ ids roots ∧ (ofRoots roots).apply snapshot = (ofRoots roots, false) ∨
    ∃ (hole : Hole Element) (tree : Tree Element),
      roots = hole.fill tree ∧ tree.root.id = snapshot.root.id ∧
      (∀ root ∈ tree.children.preorder ++ hole.after, root.id ≠ snapshot.root.id) ∧
      (ofRoots roots).apply snapshot = (ofRoots (hole.fill (snapshot.updated tree)), true) := by
  by_cases known : snapshot.root.id ∈ ids roots
  · right
    obtain ⟨element, member, same⟩ := List.mem_map.mp known
    obtain ⟨hole, tree, rfl, here, later⟩ :=
      roots.exists_last (·.id = snapshot.root.id) ⟨element, member, same⟩
    refine ⟨hole, tree, rfl, here, later, ?_⟩
    have placed : (ofRoots (hole.fill tree)).index[snapshot.root.id]? = some hole.position := by
      rw [← here]
      exact indexOf_fill hole tree (by rwa [here])
    unfold apply
    simp only [placed]
    by_cases bare : snapshot.children.isEmpty = true
    · have kept : snapshot.updated tree = ⟨snapshot.root, tree.children⟩ := by
        simp [Tree.updated, bare]
      have still : indexOf (hole.fill ⟨snapshot.root, tree.children⟩) = indexOf (hole.fill tree) :=
        recorded_congr (hole.placesFrom_fill_root Element.id tree.children here.symm [] 0)
      simp [bare, ofRoots, kept, still]
    · simp [bare, ofRoots]
  · left
    refine ⟨known, ?_⟩
    have absent : (ofRoots roots).index[snapshot.root.id]? = none :=
      Std.TreeMap.getElem?_eq_none ((mem_indexOf roots _).not.mpr known)
    simp [apply, absent]

inductive Reached : Scene → Prop where
  | blank : Reached {}
  | made (roots : Forest Element) : Reached (ofRoots roots)
  | replaced {scene : Scene} (prior : Reached scene) (roots : Forest Element) :
      Reached (scene.replace roots)
  | changed {scene : Scene} (prior : Reached scene) (snapshot : Tree Element) :
      Reached (scene.apply snapshot).1
  | removed {scene : Scene} (prior : Reached scene) (ids : List ElementId) :
      Reached (scene.remove ids).1

def Indexed (scene : Scene) : Prop := scene.index = indexOf scene.roots

theorem Indexed.eq_ofRoots {scene : Scene} (indexed : Indexed scene) :
    scene = ofRoots scene.roots := by
  obtain ⟨roots, index⟩ := scene
  have same : index = indexOf roots := indexed
  rw [same]
  rfl

theorem apply_indexed {scene : Scene} (indexed : Indexed scene) (snapshot : Tree Element) :
    Indexed (scene.apply snapshot).1 := by
  rw [indexed.eq_ofRoots]
  rcases apply_ofRoots scene.roots snapshot with ⟨_, applied⟩ | ⟨_, _, _, _, _, applied⟩
  · rw [applied]
    rfl
  · rw [applied]
    rfl

theorem remove_nothing {scene : Scene} (indexed : Indexed scene) {removed : List ElementId}
    (nothing : (scene.remove removed).2 = 0) : (scene.remove removed).1 = scene := by
  have absent : ∀ id ∈ removed, id ∉ ids scene.roots := by
    intro id member known
    have listed : id ∈ removed.filter scene.index.contains := by
      rw [List.mem_filter, indexed]
      exact ⟨member, Std.TreeMap.contains_iff_mem.mpr ((mem_indexOf _ id).mpr known)⟩
    rw [List.length_eq_zero_iff.mp nothing] at listed
    cases listed
  have kept : scene.roots.without (fun element => element.id ∈ removed) = scene.roots := by
    apply Forest.without_eq_self
    intro element member
    have unlisted : element.id ∉ removed := fun listed =>
      absent element.id listed (List.mem_map_of_mem member)
    simpa using unlisted
  unfold remove
  rw [kept]
  exact indexed.eq_ofRoots.symm

theorem reached_indexed {scene : Scene} (reached : Reached scene) : Indexed scene := by
  induction reached with
  | blank => rfl
  | made roots => rfl
  | replaced _ roots => rfl
  | changed _ snapshot ih => exact apply_indexed ih snapshot
  | removed _ ids => rfl

theorem last?_id {roots : Forest Element} {id : ElementId} {tree : Tree Element}
    (found : last? roots id = some tree) : tree.root.id = id := by
  simpa using List.find?_some found

theorem element?_indexed {scene : Scene} (indexed : Indexed scene) (id : ElementId) :
    scene.element? id = last? scene.roots id := by
  rw [indexed.eq_ofRoots]
  exact element?_ofRoots scene.roots id

theorem element?_id {scene : Scene} (indexed : Indexed scene) {id : ElementId}
    {tree : Tree Element} (found : scene.element? id = some tree) : tree.root.id = id := by
  rw [element?_indexed indexed] at found
  exact last?_id found

theorem apply_other {scene : Scene} (indexed : Indexed scene) {snapshot : Tree Element}
    (bare : snapshot.children.isEmpty = true) {id : ElementId} (other : id ≠ snapshot.root.id) :
    ((scene.apply snapshot).1.element? id).map (·.root) = (scene.element? id).map (·.root) := by
  rw [element?_indexed (apply_indexed indexed snapshot), element?_indexed indexed, last?_root,
    last?_root, indexed.eq_ofRoots]
  rcases apply_ofRoots scene.roots snapshot with
    ⟨_, applied⟩ | ⟨hole, tree, split, same, _, applied⟩
  · rw [applied]
  · have elsewhere : snapshot.root.id ≠ id := other.symm
    rw [applied]
    simp [ofRoots, split, Hole.preorder_fill, Tree.updated, bare, same, elsewhere]

theorem apply_absent {scene : Scene} (indexed : Indexed scene) {snapshot : Tree Element}
    (absent : (scene.apply snapshot).1.element? snapshot.root.id = none) :
    (scene.apply snapshot).1 = scene := by
  rw [element?_indexed (apply_indexed indexed snapshot), last?_eq_none] at absent
  obtain ⟨roots, rfl⟩ : ∃ roots, scene = ofRoots roots := ⟨scene.roots, indexed.eq_ofRoots⟩
  rcases apply_ofRoots roots snapshot with ⟨_, applied⟩ | ⟨hole, tree, _, _, _, applied⟩
  · rw [applied]
  · rw [applied] at absent
    exact absurd (by simp [ids, ofRoots, Hole.preorder_fill, Tree.updated]) absent

-- Where ids do not repeat, an element that a removal leaves is the one that was there before.
theorem remove_other {scene : Scene} (indexed : Indexed scene) (distinct : (ids scene.roots).Nodup)
    {removed : List ElementId} {id : ElementId} {tree : Tree Element}
    (left : (scene.remove removed).1.element? id = some tree) :
    (scene.element? id).map (·.root) = some tree.root := by
  have still : (scene.remove removed).1.Indexed := rfl
  have found : (scene.remove removed).1.roots.preorder.reverse.find?
      (fun element => element.id = id) = some tree.root := by
    rw [← last?_root, ← element?_indexed still, left]
    rfl
  have member : tree.root ∈ scene.roots.preorder :=
    (scene.roots.preorder_without_sublist _).subset
      (List.mem_reverse.mp (List.mem_of_find?_eq_some found))
  have named : tree.root.id = id := by simpa using List.find?_some found
  rw [element?_indexed indexed, last?_root]
  cases known : scene.roots.preorder.reverse.find? (fun element => element.id = id) with
  | none =>
    rw [List.find?_eq_none] at known
    exact absurd named (by simpa using known tree.root (List.mem_reverse.mpr member))
  | some element =>
    have present := List.mem_reverse.mp (List.mem_of_find?_eq_some known)
    have same : element.id = id := by simpa using List.find?_some known
    rw [List.inj_on_of_nodup_map distinct present member (same.trans named.symm)]

theorem isSome_last? (roots : Forest Element) (id : ElementId) :
    (last? roots id).isSome = true ↔ id ∈ ids roots := by
  rw [Option.isSome_iff_ne_none, ne_eq, last?_eq_none, not_not]

theorem tree?_of_index {scene : Scene} (indexed : Indexed scene) {id : ElementId} {position : Position}
    (known : scene.index[id]? = some position) :
    ∃ tree, scene.roots.tree? position = some tree ∧ tree.root.id = id := by
  have present : id ∈ ids scene.roots := by
    rw [← mem_indexOf, ← indexed, Std.TreeMap.mem_iff_isSome_getElem?]
    exact Option.isSome_of_eq_some known
  obtain ⟨tree, found⟩ := Option.isSome_iff_exists.mp ((isSome_last? scene.roots id).mpr present)
  have named := last?_id found
  rw [← element?_indexed indexed, element?, known] at found
  exact ⟨tree, found, named⟩

-- The index says of every scene that can be reached what its tree says, also where ids repeat. A
-- snapshot goes to the last tree with its id and to no other place.
theorem reached_index {scene : Scene} (reached : Reached scene) :
    scene.index = indexOf scene.roots ∧
    (∀ id, (scene.element? id).isSome = true ↔ id ∈ ids scene.roots) ∧
    (∀ id tree, scene.element? id = some tree → tree.root.id = id) ∧
    (∀ id, scene.element? id = scene.roots.subtrees.reverse.find? fun tree => tree.root.id = id) ∧
    scene.size = (ids scene.roots).toFinset.card ∧
    ∀ snapshot : Tree Element,
      ((scene.apply snapshot).2 = true ↔ snapshot.root.id ∈ ids scene.roots) ∧
      ((scene.apply snapshot).2 = false → (scene.apply snapshot).1 = scene) ∧
      ((scene.apply snapshot).2 = true →
        ∃ (hole : Hole Element) (tree : Tree Element),
          scene.roots = hole.fill tree ∧ tree.root.id = snapshot.root.id ∧
          (∀ later ∈ tree.children.preorder ++ hole.after, later.id ≠ snapshot.root.id) ∧
          (scene.apply snapshot).1.roots = hole.fill ⟨snapshot.root,
            if snapshot.children.isEmpty then tree.children else snapshot.children⟩) := by
  obtain ⟨roots, rfl⟩ : ∃ roots, scene = ofRoots roots :=
    ⟨scene.roots, (reached_indexed reached).eq_ofRoots⟩
  refine ⟨rfl, ?_, ?_, element?_ofRoots roots, size_ofRoots roots, ?_⟩
  · intro id
    rw [element?_ofRoots]
    exact isSome_last? roots id
  · intro id tree found
    rw [element?_ofRoots] at found
    exact last?_id found
  · intro snapshot
    rcases apply_ofRoots roots snapshot with
      ⟨unknown, applied⟩ | ⟨hole, tree, rfl, same, later, applied⟩
    · rw [applied]
      exact ⟨iff_of_false (by simp) unknown, fun _ => rfl, fun known => by simp at known⟩
    · have known : snapshot.root.id ∈ ids (hole.fill tree) := by
        rw [← same, ids, Hole.preorder_fill]
        simp
      rw [applied]
      exact ⟨iff_of_true rfl known, fun unknown => by simp at unknown,
        fun _ => ⟨hole, tree, rfl, same, later, rfl⟩⟩

-- Two elements with id 2. The one further down is the last in preorder, and it alone is renamed.
def twins (deeper : String) : Forest Element :=
  .cons { id := 1, name := "top" }
    (.cons { id := 2, name := "first" } .empty
      (.cons { id := 3, name := "group" } (.cons { id := 2, name := deeper } .empty .empty) .empty))
    .empty

theorem reached_index_twins :
    let renamed := ((ofRoots (twins "second")).apply ⟨{ id := 2, name := "again" }, .empty⟩).1
    Reached renamed ∧ renamed.roots = twins "again" ∧ renamed.size = 3 ∧
      renamed.element? 2 = some ⟨{ id := 2, name := "again" }, .empty⟩ := by
  intro renamed
  have reached : Reached renamed := .changed (.made (twins "second")) _
  have roots : renamed.roots = twins "again" := by decide +kernel
  obtain ⟨_, _, _, found, size, _⟩ := reached_index reached
  refine ⟨reached, roots, ?_, ?_⟩
  · rw [size, roots]
    decide
  · rw [found, roots]
    decide

end SceneInspector.Scene
