import SceneInspector.Proofs.EditorSession
import SceneInspector.Proofs.ForestPositions

namespace SceneInspector

theorem Summary.InPlace.atPath? {before after : Summary} (inPlace : before.InPlace after)
    (path : String) : (after.atPath? path).map (·.root.place) =
      (before.atPath? path).map (·.root.place) := by
  unfold Summary.atPath?
  cases Summary.Path.parse? path.toList with
  | none => rfl
  | some position =>
    have there := congrArg (fun roots => (roots.tree? position).map (·.root)) inPlace.places
    simpa [Forest.tree?_map, Tree.map, Function.comp_def] using there

def Editor.Session.place (session : Editor.Session) : ElementId × String :=
  (session.model.element, session.path)

namespace State
variable {before after state : State} {message : Message}

def EditorPlaced (state : State) : Prop :=
  ∀ session, state.editor.session = some session →
    (state.summary.atPath? session.path).map (·.root.element) = some session.model.element

theorem editorPlaced_closed (closed : state.editor.session = none) : EditorPlaced state := by
  intro session opened
  cases closed.symm.trans opened

theorem EditorPlaced.same (placed : EditorPlaced before)
    (summary : ∀ path, (after.summary.atPath? path).map (·.root.element) =
      (before.summary.atPath? path).map (·.root.element))
    (editor : after.editor.session.map Editor.Session.place =
      before.editor.session.map Editor.Session.place) : EditorPlaced after := by
  intro session opened
  rw [opened] at editor
  obtain ⟨earlier, open_before, there⟩ := Option.map_eq_some_iff.mp editor.symm
  obtain ⟨element, path⟩ := Prod.mk.inj there
  rw [summary, ← element, ← path]
  exact placed earlier open_before

theorem inPlace_elements {before after : Summary} (inPlace : before.InPlace after) (path : String) :
    (after.atPath? path).map (·.root.element) = (before.atPath? path).map (·.root.element) := by
  have there := congrArg (Option.map Prod.fst) (inPlace.atPath? path)
  rw [Option.map_map, Option.map_map] at there
  exact there

theorem editorAfter_place (state : State) (change : Element.Change) :
    (state.editorAfter change).session.map Editor.Session.place =
      state.editor.session.map Editor.Session.place := by
  unfold editorAfter refreshEditor
  dsimp only
  split
  · split
    · unfold Editor.Panel.refresh
      split
      · rfl
      · rename_i tree _ session opened
        split
        · rename_i same
          rw [opened]
          exact congrArg (fun id => some (id, session.path)) same.symm
        · rfl
    · rfl
  · rfl

theorem settle_placed (placed : EditorPlaced state) : EditorPlaced state.settle := by
  rw [settle_eq]
  split
  · exact editorPlaced_closed rfl
  · exact placed.same (fun _ => rfl) rfl

theorem settleOutsideBatch_placed (placed : EditorPlaced state) :
    EditorPlaced state.settleOutsideBatch := by
  unfold settleOutsideBatch
  split
  · exact placed
  · exact settle_placed placed

theorem step_placed (sound : Sound before) (placed : EditorPlaced before)
    (step : Step before message after) : EditorPlaced after := by
  cases step with
  | aside fit quitRequested => exact placed
  | painted inPlace _ => exact placed.same (inPlace_elements inPlace) rfl
  | @pressed path item tree shown editable live =>
    rcases before.editor.toggle_cases before.toolkit path tree.root with closed | opened
    · exact editorPlaced_closed (by rw [closed]; rfl)
    · intro session made
      rw [opened] at made
      cases made
      have named : tree.root.id = item.root.element := Scene.element?_id sound.indexed live
      show (before.summary.atPath? path).map _ = some tree.root.id
      rw [shown, named]
      rfl
  | edited made =>
    obtain ⟨session, controls, opened, now, _⟩ := Editor.Panel.edit_made made
    refine placed.same (fun _ => rfl) ?_
    rw [now, opened]
    rfl
  | closed => exact editorPlaced_closed rfl
  | replaced roots => exact editorPlaced_closed rfl
  | began => exact placed
  | @changed change summary received inPlace =>
    refine settleOutsideBatch_placed (placed.same (inPlace_elements inPlace) ?_)
    exact editorAfter_place before change
  | removed ids =>
    rw [withRemoval_eq]
    exact settleOutsideBatch_placed (placed.same (fun _ => rfl) rfl)
  | ended => exact settle_placed placed

theorem reached_placed (reached : Reached state) : EditorPlaced state := by
  induction reached with
  | start made => exact editorPlaced_closed (start_editor made)
  | step prior message ih => exact step_placed (reached_sound prior) ih (update_step _ message)

-- A message that moves items closes the editor.
theorem step_moves (step : Step before message after) :
    Summary.outline after.summary.roots = Summary.outline before.summary.roots ∨
      after.editor.session = none := by
  rcases step_rebuilds step with ⟨_, places⟩ | ⟨_, closed⟩
  · exact .inl (Summary.outline_of_places places)
  · exact .inr (congrArg Editor.Panel.session closed)

-- Whatever the text of the path that opened it, and inside a bracket too, the open editor is at an
-- item of the element that it edits. No message moves items under an open editor.
theorem editor_stays_at_item (reached : Reached state) :
    (∀ session, state.editor.session = some session →
      ∃ item, state.summary.atPath? session.path = some item ∧
        item.root.element = session.model.element) ∧
    ∀ message, Summary.outline (state.update message).1.summary.roots =
        Summary.outline state.summary.roots ∨
      (state.update message).1.editor.session = none := by
  constructor
  · intro session opened
    exact Option.map_eq_some_iff.mp (reached_placed reached session opened)
  · intro message
    exact step_moves (update_step state message)

-- The editor of a track, opened by a path with needless characters. Inside the bracket the first
-- jets are gone from the scene, and the track has another name.
def trackByOtherPath : List Message := [
  .scene (.managerInit (.cons { id := 2, name := "Event" }
    (.cons { id := 7, name := "Jets" } .empty
      (.cons { id := 5, name := "Track 1", typeName := "REveTrack" } .empty .empty)) .empty)),
  .detailPressed "/00/childs/+1",
  .scene .beginChanges,
  .scene (.elementsRemoved [7]),
  .scene (.elementChanged
    ⟨⟨{ id := 5, name := "Track 2", typeName := "REveTrack" }, .empty⟩, false⟩)]

theorem editor_stays_at_item_track :
    let state := initial.run trackByOtherPath
    Reached state ∧ state.editor.path? = some "/00/childs/+1" ∧
      (state.summary.atPath? "/00/childs/+1").map (·.root.element) = some 5 ∧
      (state.update (.scene .endChanges)).1.editor.session = none := by
  intro state
  have reached : Reached state := run_reached reached_initial trackByOtherPath
  obtain ⟨there, moves⟩ := editor_stays_at_item reached
  have path : state.editor.path? = some "/00/childs/+1" := by decide +kernel
  obtain ⟨session, opened, text⟩ := Option.map_eq_some_iff.mp path
  obtain ⟨item, found, same⟩ := there session opened
  have edited : state.editor.editing? = some 5 := by decide +kernel
  have five : session.model.element = 5 := by
    simpa [Editor.Panel.editing?, opened] using edited
  refine ⟨reached, path, ?_, (moves (.scene .endChanges)).resolve_left (by decide +kernel)⟩
  rw [← text, found]
  exact congrArg some (same.trans five)

end State
end SceneInspector
