import SceneInspector.Proofs.Forest
import SceneInspector.Summary.Basic

namespace SceneInspector.Summary

def Item.place (item : Item) : ElementId × Position := (item.element, item.position)

def outline (items : Forest Item) : Forest (ElementId × String) :=
  items.map fun item => (item.element, item.path)

theorem outline_of_places {some_items other_items : Forest Item}
    (same : some_items.map Item.place = other_items.map Item.place) :
    outline some_items = outline other_items := by
  have written (items : Forest Item) : outline items = (items.map Item.place).map
      fun place => (place.1, String.ofList (Path.render place.2)) := by
    rw [Forest.map_map]
    rfl
  rw [written, written, same]

-- A summary whose items may show something else, but all in the same places. What is still to be
-- settled has not changed either, except that there may be changes.
structure InPlace (before after : Summary) : Prop where
  places : after.roots.map Item.place = before.roots.map Item.place
  index : after.index = before.index
  stale : after.stale = before.stale
  generation : after.generation = before.generation
  expandLevel : after.expandLevel = before.expandLevel
  sizeLimit : after.sizeLimit = before.sizeLimit

theorem InPlace.refl (summary : Summary) : InPlace summary summary := ⟨rfl, rfl, rfl, rfl, rfl, rfl⟩

theorem change_inPlace (summary : Summary) (position : Position) (edit : Item → Item)
    (keeps : ∀ item, (edit item).place = item.place) :
    InPlace summary (summary.change position edit) where
  places := Forest.map_modify _ _ _ _ (fun tree => keeps tree.root) fun _ => rfl
  index := rfl
  stale := rfl
  generation := rfl
  expandLevel := rfl
  sizeLimit := rfl

@[simp] theorem place_refreshed (catalogue : Catalogue) (element : Element) (item : Item) :
    (item.refreshed catalogue element).place = item.place := by
  unfold Item.refreshed
  dsimp only
  split
  · split <;> rfl
  · rfl

theorem place_ofElement (catalogue : Catalogue) (position : Position) (element : Element) :
    (Item.ofElement catalogue position element).place = (element.id, position) := by
  unfold Item.ofElement
  rw [place_refreshed]
  rfl

theorem place_changedItem (catalogue : Catalogue) (live : Option Element)
    (change : Element.Change) (item : Item) :
    (changedItem catalogue live change item).place = item.place := by
  unfold changedItem
  cases live with
  | none =>
    dsimp only
    split <;> rfl
  | some element =>
    have shown := place_refreshed catalogue element item
    dsimp only
    split
    · exact shown
    · exact shown

theorem applyChange_inPlace (summary : Summary) (catalogue : Catalogue) (scene : Scene)
    (change : Element.Change) : InPlace summary (summary.applyChange catalogue scene change) := by
  let live := (scene.element? change.snapshot.root.id).map (·.root)
  unfold applyChange
  dsimp only
  split
  · rename_i position _
    have kept := change_inPlace summary position (changedItem catalogue live change)
      (place_changedItem catalogue live change)
    exact ⟨kept.places, kept.index, kept.stale, kept.generation, kept.expandLevel, kept.sizeLimit⟩
  · exact ⟨rfl, rfl, rfl, rfl, rfl, rfl⟩

theorem select_inPlace (summary : Summary) (selection : Element) (id : ElementId) :
    InPlace summary (summary.select selection id).1 := by
  unfold select
  split
  · dsimp only
    exact change_inPlace summary _ _ fun _ => rfl
  · exact InPlace.refl summary

theorem unselect_inPlace (summary : Summary) (selection : Element) (id : ElementId) :
    InPlace summary (summary.unselect selection id).1 := by
  unfold unselect
  split
  · split
    · dsimp only
      exact change_inPlace summary _ _ fun _ => rfl
    · exact InPlace.refl summary
  · exact InPlace.refl summary

end SceneInspector.Summary
