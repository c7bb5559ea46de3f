import Mathlib.Data.List.Forall2
import SceneInspector.Proofs.SessionStep

namespace SceneInspector

namespace Summary
variable {catalogue : Catalogue}

def shownElements (catalogue : Catalogue) (limit : Nat) (roots : Forest Element) : List Element :=
  let kept := (roots.subtrees.filter (isShown catalogue)).map (·.root)
  if limit = 0 then kept else kept.take limit

def Shows (catalogue : Catalogue) (item : Item) (element : Element) : Prop :=
  item = .ofElement catalogue item.position element

theorem ofElement_shows (catalogue : Catalogue) (position : Position) (element : Element) :
    Shows catalogue (.ofElement catalogue position element) element := by
  have placed := congrArg Prod.snd (place_ofElement catalogue position element)
  unfold Shows
  rw [show (Item.ofElement catalogue position element).position = position from placed]

theorem Shows.element {item : Item} {element : Element} (shows : Shows catalogue item element) :
    item.element = element.id := by
  rw [shows]
  exact congrArg Prod.fst (place_ofElement catalogue item.position element)

theorem any_isShown (catalogue : Catalogue) (elements : Forest Element) :
    elements.subtrees.any (isShown catalogue) =
      elements.preorder.any (isOfInterest catalogue) := by
  induction elements with
  | empty => rfl
  | cons element children rest below beside =>
    simp only [Forest.subtrees, Forest.preorder, List.any_cons, List.any_append, below, beside,
      isShown, Bool.or_assoc, Bool.or_self_left]

theorem filter_hidden {element : Element} {children : Forest Element}
    (hidden : isShown catalogue ⟨element, children⟩ = false) :
    children.subtrees.filter (isShown catalogue) = [] := by
  have nothing : children.subtrees.any (isShown catalogue) = false := by
    rw [any_isShown]
    exact (Bool.or_eq_false_iff.mp hidden).2
  simpa [List.filter_eq_nil_iff] using nothing

theorem projectFrom_shows (catalogue : Catalogue) (elements : Forest Element) (parent : Position)
    (next : Nat) : List.Forall₂ (Shows catalogue)
      (projectFrom catalogue parent next elements).preorder
      ((elements.subtrees.filter (isShown catalogue)).map (·.root)) := by
  induction elements generalizing parent next with
  | empty => exact .nil
  | cons element children rest below beside =>
    rw [projectFrom_cons, Forest.subtrees, List.filter_cons, List.filter_append]
    split
    · rw [Forest.preorder, List.map_cons, List.map_append]
      exact .cons (ofElement_shows ..) (List.rel_append (below _ _) (beside _ _))
    · rename_i hidden
      rw [filter_hidden (by simpa using hidden), List.nil_append]
      exact beside _ _

theorem rebuild_shows (summary : Summary) (catalogue : Catalogue) (roots : Forest Element) :
    List.Forall₂ (Shows catalogue) (summary.rebuild catalogue roots).roots.preorder
      (shownElements catalogue summary.sizeLimit roots) := by
  have projected := projectFrom_shows catalogue roots [] 0
  show List.Forall₂ _ (limited summary.sizeLimit (project catalogue roots)).preorder _
  unfold limited shownElements
  dsimp only
  split
  · exact projected
  · rw [Forest.preorder_capped]
    exact List.forall₂_take _ projected

theorem find?_shows {items : List Item} {elements : List Element}
    (show_each : List.Forall₂ (Shows catalogue) items elements) (id : ElementId) :
    Option.Rel (Shows catalogue) (items.find? (·.element = id)) (elements.find? (·.id = id)) := by
  induction show_each with
  | nil => exact .none
  | @cons item element _ _ shows _ ih =>
    rw [List.find?_cons, List.find?_cons, shows.element]
    split
    · exact .some shows
    · exact ih

theorem first?_root (roots : Forest Item) (id : ElementId) :
    (first? roots id).map (·.root) = roots.preorder.find? (·.element = id) := by
  rw [← roots.subtrees_roots, List.find?_map]
  rfl

theorem mem_shows {items : List Item} {elements : List Element}
    (show_each : List.Forall₂ (Shows catalogue) items elements) {item : Item}
    (member : item ∈ items) :
    ∃ element ∈ elements, element.id = item.element ∧ Shows catalogue item element := by
  induction show_each with
  | nil => cases member
  | cons shows _ ih =>
    cases member with
    | head => exact ⟨_, List.mem_cons_self, shows.element.symm, shows⟩
    | tail _ later =>
      obtain ⟨element, shown, same, this_one⟩ := ih later
      exact ⟨element, List.mem_cons_of_mem _ shown, same, this_one⟩

theorem shownElements_subset (catalogue : Catalogue) (limit : Nat) (roots : Forest Element) :
    shownElements catalogue limit roots ⊆ roots.preorder := by
  have kept : (roots.subtrees.filter (isShown catalogue)).map (·.root) ⊆ roots.preorder := by
    rw [← roots.subtrees_roots]
    exact List.map_subset _ (List.filter_subset_self _)
  unfold shownElements
  dsimp only
  split
  · exact kept
  · exact List.Subset.trans (List.take_subset _ _) kept

theorem shows_sole {summary : Summary} {roots : Forest Element} {item : Item} {element : Element}
    (member : item ∈ (summary.rebuild catalogue roots).roots.preorder)
    (sole : ∀ other ∈ roots.preorder, other.id = item.element → other = element) :
    Shows catalogue item element := by
  obtain ⟨shown, among, same, shows⟩ := mem_shows (rebuild_shows summary catalogue roots) member
  rwa [← sole shown (shownElements_subset _ _ _ among) same]

theorem item?_mem {summary : Summary} {id : ElementId} {item : Tree Item}
    (found : summary.item? id = some item) : item.root ∈ summary.roots.preorder := by
  obtain ⟨position, _, there⟩ := Option.bind_eq_some_iff.mp found
  exact Forest.mem_preorder there

theorem item_named {summary : Summary} (indexed : summary.index = indexOf summary.roots)
    {id : ElementId} {item : Tree Item} (found : summary.item? id = some item) :
    item.root.element = id := by
  rw [item?_indexed indexed] at found
  simpa using List.find?_some found

def Item.labels (item : Item) : String × String × ElementId :=
  (item.name, item.title, item.master)

end Summary

def Element.labels (element : Element) : String × String × ElementId :=
  (element.name, element.displayTitle, element.effectiveMaster)

theorem Summary.Shows.labels {catalogue : Catalogue} {item : Item} {element : Element}
    (shows : Shows catalogue item element) : item.labels = element.labels := by
  rw [shows]
  unfold Item.ofElement Item.refreshed
  dsimp only
  split
  · split <;> rfl
  · rfl

namespace State
open Summary

variable {state : State} {roots : Forest Element} {id : ElementId}

theorem managerInit_element? (state : State) (roots : Forest Element) (id : ElementId) :
    ((state.managerInit roots).scene.element? id).map (·.root) =
      roots.preorder.reverse.find? (·.id = id) := by
  rw [← Scene.last?_root, ← Scene.element?_ofRoots]
  rfl

theorem managerInit_shows (state : State) (roots : Forest Element) :
    List.Forall₂ (Shows state.catalogue) (state.managerInit roots).summary.roots.preorder
      (shownElements state.catalogue state.summary.sizeLimit roots) :=
  rebuild_shows state.summary state.catalogue roots

theorem managerInit_item? (state : State) (roots : Forest Element) (id : ElementId) :
    ((state.managerInit roots).summary.item? id).map (·.root) =
      (state.managerInit roots).summary.roots.preorder.find? (·.element = id) := by
  rw [item?_indexed rfl]
  exact first?_root _ id

theorem item?_element {item : Tree Item}
    (found : (state.managerInit roots).summary.item? id = some item) : item.root.element = id :=
  item_named rfl found

theorem atPath?_mem {summary : Summary} {path : String} {item : Tree Item}
    (found : summary.atPath? path = some item) : item.root ∈ summary.roots.preorder := by
  obtain ⟨position, _, there⟩ := Option.bind_eq_some_iff.mp found
  exact Forest.mem_preorder there

theorem press_closed {state : State} (closed : state.editor = .closed) {path : String}
    {item : Tree Item} {tree : Tree Element} (found : state.summary.atPath? path = some item)
    (live : state.scene.element? item.root.element = some tree)
    (editable : item.root.kind = .detailAndActive) :
    (state.update (.detailPressed path)).1.editor = .opened state.toolkit path tree.root := by
  rw [press_editable found editable live, closed]
  rfl

theorem tick_live {state : State} {path : String} {item : Tree Item} {tree : Tree Element}
    (found : state.summary.atPath? path = some item)
    (live : state.scene.element? item.root.element = some tree) (selected : Bool) :
    (state.update (.selectionChanged [⟨path, selected⟩])).2 =
      [.invoke ⟨"SetRnrSelf", [.bool selected]⟩ ⟨tree.root.id, tree.root.typeName⟩] := by
  show state.tickActions _ = _
  simp [tickActions, found, live]

-- After a new tree the scene takes an id for the last element with it, and the summary for the
-- first of those that it shows. The labels of an item are those of the scene's element exactly if
-- that first one has the same, and an item shows the scene's element itself where no other element
-- has the id. A press and a mark go to the scene's element.
theorem item_and_element_of_id (state : State) (roots : Forest Element) (id : ElementId) :
    let after := state.managerInit roots
    let first := (shownElements state.catalogue state.summary.sizeLimit roots).find? (·.id = id)
    (after.scene.element? id).map (·.root) = roots.preorder.reverse.find? (·.id = id) ∧
    Option.Rel (Shows state.catalogue) ((after.summary.item? id).map (·.root)) first ∧
    ∀ tree, after.scene.element? id = some tree →
      (∀ item, after.summary.item? id = some item →
        (item.root.labels = tree.root.labels ↔ first.map (·.labels) = some tree.root.labels) ∧
        ((∀ other ∈ roots.preorder, other.id = id → other = tree.root) →
          Shows state.catalogue item.root tree.root) ∧
        (after.update (.mouseEnter id)).2 = after.hoverActions (some id)) ∧
      ∀ path item, after.summary.atPath? path = some item → item.root.element = id →
        ((∀ other ∈ roots.preorder, other.id = id → other = tree.root) →
          Shows state.catalogue item.root tree.root) ∧
        (item.root.kind = .detailAndActive →
          (after.update (.detailPressed path)).1.editor =
            .opened after.toolkit path tree.root) ∧
        ∀ selected, (after.update (.selectionChanged [⟨path, selected⟩])).2 =
          [.invoke ⟨"SetRnrSelf", [.bool selected]⟩ ⟨tree.root.id, tree.root.typeName⟩] := by
  intro after first
  have related : Option.Rel (Shows state.catalogue)
      ((after.summary.item? id).map (·.root)) first := by
    rw [managerInit_item?]
    exact find?_shows (managerInit_shows state roots) id
  refine ⟨managerInit_element? state roots id, related, ?_⟩
  intro tree live
  refine ⟨?_, ?_⟩
  · intro item found
    refine ⟨?_, fun sole => ?_, ?_⟩
    · rw [found] at related
      cases known : first with
      | none => rw [known] at related; cases related
      | some element =>
        rw [known] at related
        cases related with
        | some shows => simp [Shows.labels shows]
    · exact shows_sole (item?_mem found) (by rwa [item?_element found])
    · show after.hoverActions _ = _
      rw [found]
      exact congrArg (fun shown => after.hoverActions (some shown)) (item?_element found)
  · intro path item found same
    rw [← same] at live
    refine ⟨fun sole => ?_, press_closed rfl found live, tick_live found live⟩
    exact shows_sole (atPath?_mem found) (by rwa [same])

-- A track, and a copy under its id that is further down and so stands last.
def trackTwice : Forest Element :=
  .cons { id := 5, name := "Track", typeName := "REveTrack" } .empty
    (.cons { id := 7, name := "Jets" }
      (.cons { id := 5, name := "Copy", typeName := "REveTrack" } .empty .empty) .empty)

theorem item_and_element_of_id_track :
    let after := initial.managerInit trackTwice
    (after.update (.detailPressed "/0")).1.editor = .opened after.toolkit "/0"
      { id := 5, name := "Copy", typeName := "REveTrack" } ∧
    (after.summary.item? 7).map (·.root.labels) = some ("Jets", "Jets", 7) := by
  intro after
  obtain ⟨last, _, acts⟩ := item_and_element_of_id initial trackTwice 5
  obtain ⟨_, _, shows⟩ := item_and_element_of_id initial trackTwice 7
  constructor
  · obtain ⟨tree, live, copy⟩ := Option.map_eq_some_iff.mp last
    obtain ⟨item, found⟩ : ∃ item, after.summary.atPath? "/0" = some item :=
      Option.isSome_iff_exists.mp (by decide +kernel)
    have item_of : (after.summary.atPath? "/0").map
        (fun item => (item.root.element, item.root.kind)) = some (5, .detailAndActive) := by
      decide +kernel
    rw [found] at item_of
    obtain ⟨five, editable⟩ := Prod.mk.inj (Option.some.inj item_of)
    rw [((acts tree live).2 "/0" item found five).2.1 editable, copy]
  · obtain ⟨tree, live⟩ : ∃ tree, after.scene.element? 7 = some tree :=
      Option.isSome_iff_exists.mp (by decide +kernel)
    obtain ⟨item, found⟩ : ∃ item, after.summary.item? 7 = some item :=
      Option.isSome_iff_exists.mp (by decide +kernel)
    have labels : (after.scene.element? 7).map (·.root.labels) = some ("Jets", "Jets", 7) := by
      decide +kernel
    have agree : ((shownElements initial.catalogue initial.summary.sizeLimit trackTwice).find?
        (·.id = 7)).map (·.labels) = (after.scene.element? 7).map (·.root.labels) := by
      decide +kernel
    rw [live] at labels agree
    rw [found]
    exact (congrArg some (((shows tree live).1 item found).1.mpr agree)).trans labels

theorem item_of_another_element :
    ∃ item tree, (initial.managerInit trackTwice).summary.item? 5 = some item ∧
      (initial.managerInit trackTwice).scene.element? 5 = some tree ∧
      item.root.labels = ("Track", "Track", 5) ∧ tree.root.labels = ("Copy", "Copy", 5) := by
  obtain ⟨item, found, first⟩ := Option.map_eq_some_iff.mp
    (show ((initial.managerInit trackTwice).summary.item? 5).map (·.root.labels) =
      some ("Track", "Track", 5) by decide +kernel)
  obtain ⟨tree, live, last⟩ := Option.map_eq_some_iff.mp
    (show ((initial.managerInit trackTwice).scene.element? 5).map (·.root.labels) =
      some ("Copy", "Copy", 5) by decide +kernel)
  exact ⟨item, tree, found, live, first, last⟩

end State

end SceneInspector
