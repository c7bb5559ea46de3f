import SceneInspector.Proofs.SceneIndex
import SceneInspector.Proofs.SummaryIndex
import SceneInspector.Session.Update

namespace SceneInspector.State

def run (state : State) (messages : List Message) : State :=
  messages.foldl (fun state message => (state.update message).1) state

@[simp] theorem run_nil (state : State) : state.run [] = state := rfl

theorem run_append (state : State) (first second : List Message) :
    state.run (first ++ second) = (state.run first).run second :=
  List.foldl_append

theorem run_concat (state : State) (messages : List Message) (message : Message) :
    state.run (messages ++ [message]) = ((state.run messages).update message).1 := by
  rw [run_append]
  rfl

-- The states that messages can lead to, from whatever settings the session began with.
inductive Reached : State → Prop where
  | start {settings : Settings} {state : State} (made : ofSettings settings = .ok state) :
      Reached state
  | step {state : State} (prior : Reached state) (message : Message) :
      Reached (state.update message).1

theorem reached_initial : Reached initial := .start ofSettings_standard

theorem run_reached {state : State} (reached : Reached state) (messages : List Message) :
    Reached (state.run messages) := by
  induction messages generalizing state with
  | nil => exact reached
  | cons message rest ih => exact ih (.step reached message)

def editorAfter (state : State) (change : Element.Change) : Editor.Panel :=
  ({ state with scene := (state.scene.apply change.snapshot).1 }.refreshEditor
    change.snapshot.root.id).editor

def withChange (state : State) (change : Element.Change) (summary : Summary) : State :=
  { state with
    scene := (state.scene.apply change.snapshot).1
    editor := state.editorAfter change
    summary }

def receivedIds (state : State) (ids : List ElementId) : List ElementId := ids.filter state.receives

def withRemoval (state : State) (ids : List ElementId) : State :=
  { state with
    scene := (state.scene.remove (state.receivedIds ids)).1
    summary := if 0 < (state.scene.remove (state.receivedIds ids)).2
      then state.summary.applyRemoval else state.summary }

theorem withRemoval_eq (state : State) (ids : List ElementId) :
    state.withRemoval ids = { state with
      scene := (state.scene.remove (state.receivedIds ids)).1
      summary := { state.summary with
        stale := state.summary.stale ||
          decide (0 < (state.scene.remove (state.receivedIds ids)).2) } } := by
  unfold withRemoval
  split
  · rename_i found
    simp [found, Summary.applyRemoval]
  · rename_i nothing
    simp [nothing]

theorem withRemoval_nothing {state : State} (indexed : state.scene.Indexed) {ids : List ElementId}
    (nothing : ¬ 0 < (state.scene.remove (state.receivedIds ids)).2) :
    state.withRemoval ids = state := by
  rw [withRemoval, Scene.remove_nothing indexed (Nat.eq_zero_of_not_pos nothing), if_neg nothing]

-- What one message can do. A message that is answered with nothing, or with something that the
-- summary, the editor and the tree have no part in, is an aside.
inductive Step (before : State) : Message → State → Prop where
  | aside {message : Message} (fit : Fit.Panel) (quitRequested : Bool) :
      Step before message { before with fit, quitRequested }
  | painted {message : Message} {summary : Summary}
      (inPlace : before.summary.InPlace summary)
      (settled : summary.anyChanged = before.summary.anyChanged) :
      Step before message { before with summary }
  | pressed {path : String} {item : Tree Summary.Item} {tree : Tree Element}
      (shown : before.summary.atPath? path = some item)
      (editable : item.root.kind = .detailAndActive)
      (live : before.scene.element? item.root.element = some tree) :
      Step before (.detailPressed path)
        { before with editor := (before.editor.toggle before.toolkit path tree.root).1 }
  | edited {index : Nat} {event : Editor.Control.Event} {editor : Editor.Panel}
      {call : Call} {target : Call.Target}
      (made : before.editor.edit index event = (editor, some (call, target))) :
      Step before (.controlEdited index event) { before with editor }
  | closed : Step before .closeEditor { before with editor := .closed }
  | replaced (roots : Forest Element) :
      Step before (.scene (.managerInit roots)) (before.managerInit roots)
  | began : Step before (.scene .beginChanges) { before with inBatch := true }
  | changed {change : Element.Change} {summary : Summary}
      (received : before.receives change.snapshot.root.id = true)
      (inPlace : before.summary.InPlace summary) :
      Step before (.scene (.elementChanged change))
        (before.withChange change summary).settleOutsideBatch
  | removed (ids : List ElementId) :
      Step before (.scene (.elementsRemoved ids)) (before.withRemoval ids).settleOutsideBatch
  | ended : Step before (.scene .endChanges) { before with inBatch := false }.settle

theorem select_anyChanged (summary : Summary) (selection : Element) (id : ElementId) :
    (summary.select selection id).1.anyChanged = summary.anyChanged := by
  unfold Summary.select
  split <;> rfl

theorem unselect_anyChanged (summary : Summary) (selection : Element) (id : ElementId) :
    (summary.unselect selection id).1.anyChanged = summary.anyChanged := by
  unfold Summary.unselect
  split
  · split <;> rfl
  · rfl

theorem select_step (state : State) (message : Message) (selection element : ElementId) :
    Step state message (state.select selection element) := by
  unfold select
  split
  · rename_i tree _
    exact .painted (Summary.select_inPlace _ tree.root element) (select_anyChanged _ _ _)
  · exact .aside state.fit state.quitRequested

theorem unselect_step (state : State) (message : Message) (selection element : ElementId) :
    Step state message (state.unselect selection element) := by
  unfold unselect
  split
  · rename_i tree _
    exact .painted (Summary.unselect_inPlace _ tree.root element) (unselect_anyChanged _ _ _)
  · exact .aside state.fit state.quitRequested

theorem press_editable {state : State} {path : String} {item : Tree Summary.Item}
    {tree : Tree Element} (shown : state.summary.atPath? path = some item)
    (editable : item.root.kind = .detailAndActive)
    (live : state.scene.element? item.root.element = some tree) :
    (state.update (.detailPressed path)).1 =
      { state with editor := (state.editor.toggle state.toolkit path tree.root).1 } := by
  show state.detailPressed path = _
  unfold detailPressed
  rw [shown]
  dsimp only
  rw [editable, live]

theorem press_uneditable {state : State} {path : String} {item : Tree Summary.Item}
    (shown : state.summary.atPath? path = some item)
    (absent : item.root.kind = .detailAndActive →
      state.scene.element? item.root.element = none) :
    (state.update (.detailPressed path)).1 = state := by
  show state.detailPressed path = _
  unfold detailPressed
  rw [shown]
  dsimp only
  split
  · rename_i tree editable live
    cases (absent editable).symm.trans live
  · rfl

theorem detailPressed_step (state : State) (path : String) :
    Step state (.detailPressed path) (state.detailPressed path) := by
  unfold detailPressed
  split
  · exact .aside state.fit state.quitRequested
  · rename_i item shown
    split
    · rename_i tree editable live
      exact .pressed shown editable live
    · exact .aside state.fit state.quitRequested

theorem controlEdited_step (state : State) (index : Nat) (event : Editor.Control.Event) :
    Step state (.controlEdited index event) (state.controlEdited index event).1 := by
  unfold controlEdited
  split
  · rename_i editor call target made
    exact .edited made
  · exact .aside state.fit state.quitRequested

theorem refreshEditor_eq (state : State) (id : ElementId) :
    state.refreshEditor id = { state with editor := (state.refreshEditor id).editor } := by
  unfold refreshEditor
  split
  · split <;> rfl
  · rfl

theorem elementChanged_received {state : State} {change : Element.Change}
    (received : state.receives change.snapshot.root.id = true) :
    state.elementChanged change = (state.withChange change
      (state.summary.applyChange state.catalogue (state.scene.apply change.snapshot).1
        change)).settleOutsideBatch := by
  unfold elementChanged withChange editorAfter
  dsimp only
  rw [if_pos received, refreshEditor_eq]
  rfl

theorem elementChanged_refused {state : State} {change : Element.Change}
    (refused : ¬ state.receives change.snapshot.root.id = true) :
    state.elementChanged change = state :=
  if_neg refused

theorem elementChanged_step (state : State) (change : Element.Change) :
    Step state (.scene (.elementChanged change)) (state.elementChanged change) := by
  by_cases received : state.receives change.snapshot.root.id = true
  · rw [elementChanged_received received]
    exact .changed received (Summary.applyChange_inPlace state.summary _ _ change)
  · rw [elementChanged_refused received]
    exact .aside state.fit state.quitRequested

theorem elementsRemoved_eq (state : State) (ids : List ElementId) :
    state.elementsRemoved ids = (state.withRemoval ids).settleOutsideBatch := by
  unfold elementsRemoved withRemoval receivedIds
  dsimp only
  split <;> rfl

theorem elementsRemoved_step (state : State) (ids : List ElementId) :
    Step state (.scene (.elementsRemoved ids)) (state.elementsRemoved ids) := by
  rw [elementsRemoved_eq]
  exact .removed ids

theorem update_step (state : State) (message : Message) :
    Step state message (state.update message).1 := by
  cases message with
  | scene notice =>
    cases notice with
    | managerInit roots => exact .replaced roots
    | beginChanges => exact .began
    | elementChanged change => exact elementChanged_step state change
    | elementsRemoved ids => exact elementsRemoved_step state ids
    | endChanges => exact .ended
  | panel text => exact .aside _ _
  | selectElement selection element => exact select_step state _ selection element
  | unselectElement selection element => exact unselect_step state _ selection element
  | selectionChanged items => exact .aside state.fit state.quitRequested
  | detailPressed path => exact detailPressed_step state path
  | mouseEnter element => exact .aside state.fit state.quitRequested
  | mouseLeave => exact .aside state.fit state.quitRequested
  | controlEdited index event => exact controlEdited_step state index event
  | closeEditor => exact .closed
  | fit command => exact .aside _ _
  | quit => exact .aside _ _

theorem flush_eq (summary : Summary) (catalogue : Catalogue) (scene : Scene) :
    summary.flush catalogue scene =
      if summary.stale then (summary.rebuild catalogue scene.roots, .rebuilt)
      else ({ summary with anyChanged := false },
        if summary.anyChanged then .refreshed else .unchanged) := by
  obtain ⟨roots, index, stale, anyChanged, generation, expandLevel, sizeLimit⟩ := summary
  cases stale with
  | true => rfl
  | false => cases anyChanged <;> rfl

theorem settle_eq (state : State) : state.settle =
    if state.summary.stale then state.rebuildSummary
    else { state with summary := { state.summary with anyChanged := false } } := by
  unfold settle
  rw [flush_eq]
  by_cases stale : state.summary.stale = true
  · rw [if_pos stale, if_pos stale]
    rfl
  · rw [if_neg stale, if_neg stale]
    by_cases anyChanged : state.summary.anyChanged = true
    · rw [if_pos anyChanged]
    · rw [if_neg anyChanged]

theorem settle_frame (state : State) : state.settle = { state with
    summary := state.settle.summary
    editor := state.settle.editor } := by
  rw [settle_eq]
  split <;> rfl

theorem settleOutsideBatch_frame (state : State) : state.settleOutsideBatch = { state with
    summary := state.settleOutsideBatch.summary
    editor := state.settleOutsideBatch.editor } := by
  unfold settleOutsideBatch
  split
  · rfl
  · exact settle_frame state

theorem settle_scene (state : State) : state.settle.scene = state.scene := by
  rw [settle_frame]

theorem settleOutsideBatch_scene (state : State) :
    state.settleOutsideBatch.scene = state.scene := by
  rw [settleOutsideBatch_frame]

theorem settle_editor (state : State) :
    state.settle.editor = .closed ∨ state.settle.editor = state.editor := by
  rw [settle_eq]
  split
  · exact .inl rfl
  · exact .inr rfl

theorem settleOutsideBatch_editor (state : State) :
    state.settleOutsideBatch.editor = .closed ∨
      state.settleOutsideBatch.editor = state.editor ∧
        (state.summary.stale = true → state.inBatch = true) := by
  unfold settleOutsideBatch
  split
  · rename_i inside
    exact .inr ⟨rfl, fun _ => inside⟩
  · rw [settle_eq]
    split
    · exact .inl rfl
    · rename_i fresh
      exact .inr ⟨rfl, fun stale => absurd stale fresh⟩

theorem settle_toolkit (state : State) : state.settle.toolkit = state.toolkit := by
  rw [settle_frame]

theorem settleOutsideBatch_toolkit (state : State) :
    state.settleOutsideBatch.toolkit = state.toolkit := by
  rw [settleOutsideBatch_frame]

theorem step_toolkit {before after : State} {message : Message} (step : Step before message after) :
    after.toolkit = before.toolkit := by
  cases step with
  | changed received inPlace => exact settleOutsideBatch_toolkit _
  | removed ids => exact settleOutsideBatch_toolkit _
  | ended => exact settle_toolkit _
  | _ => rfl

theorem run_toolkit (state : State) (messages : List Message) :
    (state.run messages).toolkit = state.toolkit := by
  induction messages generalizing state with
  | nil => rfl
  | cons message rest ih => exact (ih _).trans (step_toolkit (update_step state message))

-- Over a summary the items are still in their places, or the summary has been made anew from the
-- scene, and then no editor is open.
def SteadyOrRebuilt (summary : Summary) (after : State) : Prop :=
  after.summary.generation = summary.generation ∧
      after.summary.roots.map Summary.Item.place = summary.roots.map Summary.Item.place ∨
    after.summary = summary.rebuild after.catalogue after.scene.roots ∧ after.editor = .closed

-- A rebuild takes over the count and the limits of a summary and nothing else.
theorem SteadyOrRebuilt.over {earlier later : Summary} {after : State}
    (settled : SteadyOrRebuilt later after) (inPlace : earlier.InPlace later) :
    SteadyOrRebuilt earlier after := by
  rcases settled with ⟨generation, places⟩ | ⟨rebuilt, closed⟩
  · exact .inl ⟨generation.trans inPlace.generation, places.trans inPlace.places⟩
  · refine .inr ⟨?_, closed⟩
    unfold Summary.rebuild at rebuilt ⊢
    rw [inPlace.generation, inPlace.expandLevel, inPlace.sizeLimit] at rebuilt
    exact rebuilt

theorem settle_rebuilds (state : State) : SteadyOrRebuilt state.summary state.settle := by
  rw [settle_eq]
  split
  · exact .inr ⟨rfl, rfl⟩
  · exact .inl ⟨rfl, rfl⟩

theorem settleOutsideBatch_rebuilds (state : State) :
    SteadyOrRebuilt state.summary state.settleOutsideBatch := by
  unfold settleOutsideBatch
  split
  · exact .inl ⟨rfl, rfl⟩
  · exact settle_rebuilds state

theorem step_rebuilds {before after : State} {message : Message}
    (step : Step before message after) : SteadyOrRebuilt before.summary after := by
  cases step with
  | aside fit quitRequested => exact .inl ⟨rfl, rfl⟩
  | painted inPlace _ => exact .inl ⟨inPlace.generation, inPlace.places⟩
  | pressed shown editable live => exact .inl ⟨rfl, rfl⟩
  | edited made => exact .inl ⟨rfl, rfl⟩
  | closed => exact .inl ⟨rfl, rfl⟩
  | replaced roots => exact .inr ⟨rfl, rfl⟩
  | began => exact .inl ⟨rfl, rfl⟩
  | @changed change summary received inPlace =>
    exact (settleOutsideBatch_rebuilds (before.withChange change summary)).over inPlace
  | removed ids =>
    rw [withRemoval_eq]
    exact settleOutsideBatch_rebuilds _
  | ended => exact settle_rebuilds _

structure Sound (state : State) : Prop where
  indexed : state.scene.Indexed
  settled : state.inBatch = false → state.summary.stale = false
  expandLevel : state.summary.expandLevel = state.settings.summary.expandLevel
  sizeLimit : state.summary.sizeLimit = state.settings.summary.sizeLimit

theorem rebuildSummary_sound {state : State} (indexed : state.scene.Indexed)
    (expandLevel : state.summary.expandLevel = state.settings.summary.expandLevel)
    (sizeLimit : state.summary.sizeLimit = state.settings.summary.sizeLimit) :
    Sound state.rebuildSummary :=
  ⟨indexed, fun _ => rfl, expandLevel, sizeLimit⟩

theorem settle_sound {state : State} (indexed : state.scene.Indexed)
    (expandLevel : state.summary.expandLevel = state.settings.summary.expandLevel)
    (sizeLimit : state.summary.sizeLimit = state.settings.summary.sizeLimit) :
    Sound state.settle := by
  rw [settle_eq]
  split
  · exact rebuildSummary_sound indexed expandLevel sizeLimit
  · rename_i fresh
    exact ⟨indexed, fun _ => by simpa using fresh, expandLevel, sizeLimit⟩

theorem settleOutsideBatch_sound {state : State} (indexed : state.scene.Indexed)
    (expandLevel : state.summary.expandLevel = state.settings.summary.expandLevel)
    (sizeLimit : state.summary.sizeLimit = state.settings.summary.sizeLimit) :
    Sound state.settleOutsideBatch := by
  unfold settleOutsideBatch
  split
  · rename_i inside
    exact ⟨indexed, fun outside => by simp [inside] at outside, expandLevel, sizeLimit⟩
  · exact settle_sound indexed expandLevel sizeLimit

theorem step_sound {before after : State} {message : Message} (sound : Sound before)
    (step : Step before message after) : Sound after := by
  obtain ⟨indexed, settled, expandLevel, sizeLimit⟩ := sound
  cases step with
  | aside fit quitRequested => exact ⟨indexed, settled, expandLevel, sizeLimit⟩
  | painted inPlace _ =>
    refine ⟨indexed, fun outside => ?_, ?_, ?_⟩
    · exact inPlace.stale.trans (settled outside)
    · exact inPlace.expandLevel.trans expandLevel
    · exact inPlace.sizeLimit.trans sizeLimit
  | pressed shown editable live => exact ⟨indexed, settled, expandLevel, sizeLimit⟩
  | edited made => exact ⟨indexed, settled, expandLevel, sizeLimit⟩
  | closed => exact ⟨indexed, settled, expandLevel, sizeLimit⟩
  | replaced roots => exact ⟨rfl, fun _ => rfl, expandLevel, sizeLimit⟩
  | began => exact ⟨indexed, fun outside => (by cases outside), expandLevel, sizeLimit⟩
  | @changed change summary received inPlace =>
    have changed := Scene.apply_indexed indexed change.snapshot
    exact settleOutsideBatch_sound changed (inPlace.expandLevel.trans expandLevel)
      (inPlace.sizeLimit.trans sizeLimit)
  | removed ids =>
    rw [withRemoval_eq]
    exact settleOutsideBatch_sound rfl expandLevel sizeLimit
  | ended => exact settle_sound indexed expandLevel sizeLimit

theorem start_eq {settings : Settings} {state : State} (made : ofSettings settings = .ok state) :
    ∃ toolkit, state = ofToolkit settings toolkit := by
  unfold ofSettings at made
  split at made
  · rename_i toolkit _
    cases made
    exact ⟨toolkit, rfl⟩
  · cases made

theorem start_sound {settings : Settings} {state : State}
    (made : ofSettings settings = .ok state) : Sound state := by
  obtain ⟨toolkit, rfl⟩ := start_eq made
  exact ⟨rfl, fun _ => rfl, rfl, rfl⟩

theorem start_editor {settings : Settings} {state : State}
    (made : ofSettings settings = .ok state) : state.editor.session = none := by
  obtain ⟨toolkit, rfl⟩ := start_eq made
  rfl

theorem reached_sound {state : State} (reached : Reached state) : Sound state := by
  induction reached with
  | start made => exact start_sound made
  | step _ message ih => exact step_sound ih (update_step _ message)

theorem run_sound {state : State} (sound : Sound state) (messages : List Message) :
    Sound (state.run messages) := by
  induction messages generalizing state with
  | nil => exact sound
  | cons message rest ih => exact ih (step_sound sound (update_step state message))

theorem settle_wellFormed {state : State} (wellFormed : state.summary.WellFormed) :
    state.settle.summary.WellFormed := by
  rw [settle_eq]
  split
  · exact Summary.rebuild_wellFormed _ _ _
  · exact ⟨wellFormed.indexed, wellFormed.placed, wellFormed.limited⟩

theorem settleOutsideBatch_wellFormed {state : State} (wellFormed : state.summary.WellFormed) :
    state.settleOutsideBatch.summary.WellFormed := by
  unfold settleOutsideBatch
  split
  · exact wellFormed
  · exact settle_wellFormed wellFormed

theorem step_wellFormed {before after : State} {message : Message}
    (wellFormed : before.summary.WellFormed) (step : Step before message after) :
    after.summary.WellFormed := by
  cases step with
  | aside fit quitRequested => exact wellFormed
  | painted inPlace _ => exact inPlace.wellFormed wellFormed
  | pressed shown editable live => exact wellFormed
  | edited made => exact wellFormed
  | closed => exact wellFormed
  | replaced roots => exact Summary.rebuild_wellFormed _ _ _
  | began => exact wellFormed
  | changed received inPlace => exact settleOutsideBatch_wellFormed (inPlace.wellFormed wellFormed)
  | removed ids =>
    rw [withRemoval_eq]
    exact settleOutsideBatch_wellFormed
      ⟨wellFormed.indexed, wellFormed.placed, wellFormed.limited⟩
  | ended => exact settle_wellFormed wellFormed

theorem reached_summary {state : State} (reached : Reached state) : state.summary.WellFormed := by
  induction reached with
  | start made =>
    obtain ⟨toolkit, rfl⟩ := start_eq made
    exact Summary.blank_wellFormed _ _
  | step _ message ih => exact step_wellFormed ih (update_step _ message)

end SceneInspector.State
