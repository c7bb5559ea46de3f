import SceneInspector.Proofs.SessionStep

namespace SceneInspector

def Element.Change.Bare (change : Element.Change) : Prop := change.snapshot.children = .empty

namespace Scene
variable {scene : Scene}

def retold (scene : Scene) (element : Element) : Scene :=
  { scene with roots := scene.roots.edited scene.index[element.id]? fun _ => element }

def taken? (scene : Scene) (element : Element) : Option Element :=
  scene.index[element.id]?.map fun _ => element

theorem apply_bare (scene : Scene) {snapshot : Tree Element} (bare : snapshot.children = .empty) :
    (scene.apply snapshot).1 = scene.retold snapshot.root := by
  have kept : snapshot.updated = fun tree => ⟨snapshot.root, tree.children⟩ := by
    funext tree
    rw [Tree.updated, bare]
    rfl
  unfold apply retold
  cases scene.index[snapshot.root.id]? with
  | none => rfl
  | some position =>
    dsimp only
    rw [kept, bare]
    rfl

theorem element?_retold (indexed : scene.Indexed) (element : Element) :
    ((scene.retold element).element? element.id).map (·.root) = scene.taken? element := by
  unfold Scene.element? retold taken?
  cases known : scene.index[element.id]? with
  | none => rfl
  | some position =>
    obtain ⟨tree, found, _⟩ := tree?_of_index indexed known
    simp [Forest.edited, Forest.tree?_modify, found]

theorem map_id_retold (indexed : scene.Indexed) (element : Element) :
    (scene.retold element).roots.map Element.id = scene.roots.map Element.id := by
  refine Forest.map_edited Element.id (fun _ => element) fun position tree known found => ?_
  obtain ⟨other, there, named⟩ := tree?_of_index indexed known
  cases found.symm.trans there
  exact named.symm

theorem sceneOf?_retold (indexed : scene.Indexed) (element : Element) (id : ElementId) :
    (scene.retold element).sceneOf? id = scene.sceneOf? id := by
  have same := map_id_retold indexed element
  have numbered (position : Position) :
      ((scene.retold element).roots.tree? position).map (·.root.id) =
        (scene.roots.tree? position).map (·.root.id) := by
    have mapped := congrArg (fun forest => (forest.tree? position).map (·.root)) same
    simpa [Forest.tree?_map, Option.map_map, Function.comp_def, Tree.map] using mapped
  unfold sceneOf?
  show (scene.index[id]?.bind _) = (scene.index[id]?.bind _)
  congr 1
  funext position
  split
  · rename_i member below
    have owner := numbered [0, 2, member]
    simpa [Option.map_eq_bind] using owner
  · rfl

theorem retold_comm (indexed : scene.Indexed) {first second : Element}
    (different : first.id ≠ second.id) :
    (scene.retold first).retold second = (scene.retold second).retold first := by
  have apart := Forest.apart_of_labels different (fun _ => tree?_of_index indexed)
    fun _ => tree?_of_index indexed
  exact congrArg ({ scene with roots := · })
    (Forest.edited_comm (fun _ => first) (fun _ => second) apart scene.roots)

theorem retold_retold (scene : Scene) (element : Element) :
    (scene.retold element).retold element = scene.retold element :=
  congrArg ({ scene with roots := · })
    (Forest.edited_edited (fun _ => element) (fun _ => rfl) _ scene.roots)

end Scene

namespace Summary
variable {summary : Summary}

theorem refreshed_refreshed (catalogue : Catalogue) (element : Element) (item : Item) :
    (item.refreshed catalogue element).refreshed catalogue element =
      item.refreshed catalogue element := by
  unfold Item.refreshed
  dsimp only
  split
  · split <;> rfl
  · rfl

-- A second reading of the element overrides what the flag set, and the flag sets it again.
theorem changedItem_changedItem (catalogue : Catalogue) (live : Option Element)
    (change : Element.Change) (item : Item) :
    changedItem catalogue live change (changedItem catalogue live change item) =
      changedItem catalogue live change item := by
  unfold changedItem
  cases live with
  | none =>
    dsimp only
    split <;> rfl
  | some element =>
    dsimp only
    split
    · unfold Item.refreshed
      dsimp only
      split
      · split <;> rfl
      · rfl
    · exact refreshed_refreshed catalogue element item

def retold (summary : Summary) (catalogue : Catalogue) (live : Option Element)
    (change : Element.Change) (anyChanged : Bool) : Summary :=
  { summary with
    roots := summary.roots.edited summary.index[change.snapshot.root.id]?
      (changedItem catalogue live change)
    anyChanged }

theorem applyChange_eq (summary : Summary) (catalogue : Catalogue) (scene : Scene)
    (change : Element.Change) : summary.applyChange catalogue scene change =
      summary.retold catalogue ((scene.element? change.snapshot.root.id).map (·.root)) change
        true := by
  unfold applyChange retold
  dsimp only
  cases summary.index[change.snapshot.root.id]? with
  | none => rfl
  | some position => rfl

theorem retold_comm (indexed : summary.index = indexOf summary.roots) (catalogue : Catalogue)
    (live other : Option Element) {first second : Element.Change}
    (different : first.snapshot.root.id ≠ second.snapshot.root.id) (anyChanged : Bool) :
    (summary.retold catalogue live first anyChanged).retold catalogue other second anyChanged =
      (summary.retold catalogue other second anyChanged).retold catalogue live first
        anyChanged := by
  have apart := Forest.apart_of_labels different (fun _ => tree?_of_index indexed)
    fun _ => tree?_of_index indexed
  exact congrArg ({ summary with roots := ·, anyChanged })
    (Forest.edited_comm (changedItem catalogue live first) (changedItem catalogue other second)
      apart summary.roots)

theorem retold_retold (summary : Summary) (catalogue : Catalogue) (live : Option Element)
    (change : Element.Change) (anyChanged : Bool) :
    (summary.retold catalogue live change anyChanged).retold catalogue live change anyChanged =
      summary.retold catalogue live change anyChanged :=
  congrArg ({ summary with roots := ·, anyChanged })
    (Forest.edited_edited _ (changedItem_changedItem catalogue live change) _ summary.roots)

end Summary

namespace Editor.Panel
variable {panel : Panel} {toolkit : Toolkit}

def following (panel : Panel) (toolkit : Toolkit) (live : Option Element) : Panel :=
  match live with
  | some element => (panel.refresh toolkit element).1
  | none => panel

theorem refresh_other {element : Element} (other : panel.editing? ≠ some element.id) :
    (panel.refresh toolkit element).1 = panel := by
  unfold refresh
  split
  · rfl
  · rename_i session shown
    rw [if_neg]
    exact fun edited => other (by simp [editing?, shown, edited])

theorem refresh_edited {session : Session} {element : Element}
    (edited : session.model.element = element.id) :
    (Panel.refresh ⟨some session⟩ toolkit element).1 = opened toolkit session.path element := by
  simp [refresh, edited]

theorem editing?_refresh (panel : Panel) (toolkit : Toolkit) (element : Element) :
    (panel.refresh toolkit element).1.editing? = panel.editing? := by
  by_cases editing : panel.editing? = some element.id
  · obtain ⟨session, shown, edited⟩ := Option.map_eq_some_iff.mp editing
    obtain ⟨⟩ := panel
    cases shown
    rw [refresh_edited edited, editing]
    rfl
  · rw [refresh_other editing]

theorem refresh_refresh (panel : Panel) (toolkit : Toolkit) (element : Element) :
    ((panel.refresh toolkit element).1.refresh toolkit element).1 =
      (panel.refresh toolkit element).1 := by
  by_cases editing : panel.editing? = some element.id
  · obtain ⟨session, shown, edited⟩ := Option.map_eq_some_iff.mp editing
    obtain ⟨⟩ := panel
    cases shown
    rw [refresh_edited edited]
    exact refresh_edited rfl
  · rw [refresh_other editing, refresh_other editing]

-- One element is edited at a time, so that at most one of two is read anew.
theorem refresh_comm (panel : Panel) (toolkit : Toolkit) {first second : Element}
    (different : first.id ≠ second.id) :
    ((panel.refresh toolkit first).1.refresh toolkit second).1 =
      ((panel.refresh toolkit second).1.refresh toolkit first).1 := by
  by_cases editing : panel.editing? = some first.id
  · have other : panel.editing? ≠ some second.id := by
      rw [editing]
      exact fun same => different (Option.some.inj same)
    have still : (panel.refresh toolkit first).1.editing? ≠ some second.id := by
      rwa [editing?_refresh]
    rw [refresh_other other, refresh_other still]
  · have still : (panel.refresh toolkit second).1.editing? ≠ some first.id := by
      rwa [editing?_refresh]
    rw [refresh_other editing, refresh_other still]

theorem following_comm (panel : Panel) (toolkit : Toolkit) (scene : Scene) {first second : Element}
    (different : first.id ≠ second.id) :
    (panel.following toolkit (scene.taken? first)).following toolkit (scene.taken? second) =
      (panel.following toolkit (scene.taken? second)).following toolkit (scene.taken? first) := by
  unfold Scene.taken?
  cases scene.index[first.id]? with
  | none => rfl
  | some _ =>
    cases scene.index[second.id]? with
    | none => rfl
    | some _ => exact refresh_comm panel toolkit different

theorem following_following (panel : Panel) (toolkit : Toolkit) (live : Option Element) :
    (panel.following toolkit live).following toolkit live = panel.following toolkit live := by
  cases live with
  | none => rfl
  | some element => exact refresh_refresh panel toolkit element

end Editor.Panel

namespace State
variable {state : State} {change : Element.Change}

def patched (state : State) (change : Element.Change) : State :=
  { state with
    scene := state.scene.retold change.snapshot.root
    editor := state.editor.following state.toolkit (state.scene.taken? change.snapshot.root)
    summary := state.summary.retold state.catalogue (state.scene.taken? change.snapshot.root) change
      state.inBatch }

theorem editorAfter_bare (sound : Sound state) (bare : change.Bare) :
    state.editorAfter change =
      state.editor.following state.toolkit (state.scene.taken? change.snapshot.root) := by
  have live := Scene.element?_retold sound.indexed change.snapshot.root
  unfold editorAfter refreshEditor
  dsimp only
  rw [Scene.apply_bare state.scene bare]
  split
  · split
    · rename_i tree found
      rw [← live, found]
      rfl
    · rename_i gone
      rw [← live, gone]
      rfl
  · rename_i other
    unfold Scene.taken?
    cases state.scene.index[change.snapshot.root.id]? with
    | none => rfl
    | some _ => exact (Editor.Panel.refresh_other other).symm

-- Where no rebuild is due, all that is settled is whether there are changes.
theorem settleOutsideBatch_changed (fresh : state.inBatch = false → state.summary.stale = false)
    (changed : state.summary.anyChanged = true) : state.settleOutsideBatch =
      { state with summary := { state.summary with anyChanged := state.inBatch } } := by
  unfold settleOutsideBatch
  split
  · rename_i inside
    have same : state.summary.anyChanged = state.inBatch := changed.trans inside.symm
    exact congrArg (fun word => { state with summary := { state.summary with anyChanged := word } })
      same
  · rename_i outside
    have outside : state.inBatch = false := by simpa using outside
    rw [settle_eq, if_neg (by simp [fresh outside]), outside]

theorem elementChanged_bare (sound : Sound state) (bare : change.Bare) :
    state.elementChanged change =
      if state.receives change.snapshot.root.id = true then state.patched change else state := by
  by_cases received : state.receives change.snapshot.root.id = true
  · rw [if_pos received, elementChanged_received received, Summary.applyChange_eq, withChange,
      editorAfter_bare sound bare, Scene.apply_bare state.scene bare,
      Scene.element?_retold sound.indexed]
    exact settleOutsideBatch_changed sound.settled rfl
  · rw [if_neg received, elementChanged_refused received]

theorem receives_patched (sound : Sound state) (change : Element.Change) (id : ElementId) :
    (state.patched change).receives id = state.receives id := by
  unfold receives
  rw [patched, Scene.sceneOf?_retold sound.indexed]

-- A change in between has no part in whether another one is received.
theorem elementChanged_after (sound : Sound state) {first second : Element.Change}
    (first_bare : first.Bare) (second_bare : second.Bare) :
    (state.elementChanged first).elementChanged second =
      if state.receives second.snapshot.root.id = true
      then (state.elementChanged first).patched second else state.elementChanged first := by
  have still_sound := step_sound sound (elementChanged_step state first)
  have same : (state.elementChanged first).receives second.snapshot.root.id =
      state.receives second.snapshot.root.id := by
    rw [elementChanged_bare sound first_bare]
    split
    · exact receives_patched sound first _
    · rfl
  rw [elementChanged_bare still_sound second_bare, same]

theorem patched_comm (sound : Sound state) (wellFormed : state.summary.WellFormed)
    {first second : Element.Change}
    (different : first.snapshot.root.id ≠ second.snapshot.root.id) :
    (state.patched first).patched second = (state.patched second).patched first := by
  unfold patched
  dsimp only
  congr 1
  · exact Scene.retold_comm sound.indexed different
  · exact Summary.retold_comm wellFormed.indexed state.catalogue _ _ different state.inBatch
  · exact Editor.Panel.following_comm state.editor state.toolkit state.scene different

theorem patched_patched (state : State) (change : Element.Change) :
    (state.patched change).patched change = state.patched change := by
  unfold patched
  dsimp only
  congr 1
  · exact Scene.retold_retold _ _
  · exact Summary.retold_retold _ _ _ _ _
  · exact Editor.Panel.following_following _ _ _

theorem elementChanged_comm (reached : Reached state) {first second : Element.Change}
    (first_bare : first.Bare) (second_bare : second.Bare)
    (different : first.snapshot.root.id ≠ second.snapshot.root.id) :
    (state.elementChanged first).elementChanged second =
      (state.elementChanged second).elementChanged first := by
  have sound := reached_sound reached
  rw [elementChanged_after sound first_bare second_bare,
    elementChanged_after sound second_bare first_bare, elementChanged_bare sound first_bare,
    elementChanged_bare sound second_bare]
  by_cases first_received : state.receives first.snapshot.root.id = true
  · by_cases second_received : state.receives second.snapshot.root.id = true
    · simp only [if_pos first_received, if_pos second_received]
      exact patched_comm sound (reached_summary reached) different
    · simp only [if_pos first_received, if_neg second_received]
  · simp only [if_neg first_received]

theorem elementChanged_again (reached : Reached state) (bare : change.Bare) :
    (state.elementChanged change).elementChanged change = state.elementChanged change := by
  have sound := reached_sound reached
  rw [elementChanged_after sound bare bare, elementChanged_bare sound bare]
  split
  · exact patched_patched state change
  · rfl

def changeAll (changes : List Element.Change) : List Message :=
  changes.map fun change => .scene (.elementChanged change)

-- A run of changes of different elements leads to the same state in whatever order they come.
theorem run_permuted (reached : Reached state) {changes permuted : List Element.Change}
    (same : changes.Perm permuted) (bare : ∀ change ∈ changes, change.Bare)
    (different : changes.Pairwise fun first second =>
      first.snapshot.root.id ≠ second.snapshot.root.id) :
    state.run (changeAll changes) = state.run (changeAll permuted) := by
  induction same generalizing state with
  | nil => rfl
  | cons change _ ih =>
    exact ih (.step reached _) (fun other member => bare other (List.mem_cons_of_mem _ member))
      (List.pairwise_cons.mp different).2
  | swap second first rest =>
    have apart := (List.pairwise_cons.mp different).1 second (by simp)
    have swapped := elementChanged_comm reached (bare first (by simp)) (bare second (by simp)) apart
    exact congrArg (fun state => state.run (changeAll rest)) swapped
  | trans before _ ih_before ih_after =>
    refine (ih_before reached bare different).trans (ih_after reached ?_ ?_)
    · exact fun change member => bare change (before.mem_iff.mpr member)
    · exact (before.pairwise_iff fun apart => Ne.symm apart).mp different

-- In every state, in and outside a bracket, changes without children of two elements lead to the
-- same state in either order, and the second of two equal ones changes nothing.
theorem bare_changes_commute (reached : Reached state) :
    (∀ first second : Element.Change, first.Bare → second.Bare →
      first.snapshot.root.id ≠ second.snapshot.root.id →
      state.run (changeAll [first, second]) = state.run (changeAll [second, first])) ∧
    ∀ change : Element.Change, change.Bare →
      state.run (changeAll [change, change]) = state.run (changeAll [change]) :=
  ⟨fun _ _ first_bare second_bare different =>
    elementChanged_comm reached first_bare second_bare different,
    fun _ bare => elementChanged_again reached bare⟩

def trackUnderEdit : List Message := [
  .scene (.managerInit (.cons { id := 1, name := "World" }
    (.cons { id := 2, name := "Viewers" } .empty
      (.cons { id := 3, name := "Selections" } .empty
        (.cons { id := 4, name := "Scenes" }
          (.cons { id := 10, name := "Event" }
            (.cons { id := 12, name := "Track", typeName := "REveTrack" } .empty .empty)
            .empty) .empty))) .empty)),
  .detailPressed "/0/childs/2/childs/0/childs/0",
  .scene .beginChanges]

def eventRenamed : Element.Change := ⟨⟨{ id := 10, name := "Event 2" }, .empty⟩, false⟩

def trackHidden : Element.Change :=
  ⟨⟨{ id := 12, name := "Track 2", typeName := "REveTrack", rendersSelf := some false }, .empty⟩,
    true⟩

theorem bare_changes_commute_track :
    let state := initial.run trackUnderEdit
    let both := state.run (changeAll [eventRenamed, trackHidden])
    both = state.run (changeAll [trackHidden, eventRenamed]) ∧
      both.run (changeAll [trackHidden, trackHidden]) = both.run (changeAll [trackHidden]) ∧
      both.editor.editing? = some 12 ∧ both.summary.anyChanged = true ∧
      (both.summary.item? 10).map (·.root.name) = some "Event 2" ∧
      (both.summary.item? 12).map (·.root.name) = some "Track 2" := by
  intro state both
  have reached : Reached state := run_reached reached_initial trackUnderEdit
  obtain ⟨commute, _⟩ := bare_changes_commute reached
  obtain ⟨_, again⟩ := bare_changes_commute
    (run_reached reached (changeAll [eventRenamed, trackHidden]))
  exact ⟨commute eventRenamed trackHidden rfl rfl (by decide), again trackHidden rfl,
    by decide +kernel, by decide +kernel, by decide +kernel, by decide +kernel⟩

end State
end SceneInspector
