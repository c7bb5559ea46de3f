import SceneInspector.Proofs.ForestPositions
import SceneInspector.Proofs.SessionStep

namespace SceneInspector

namespace Scene

def members (scene : Scene) : List (Tree Element) :=
  match scene.roots.tree? listPosition with
  | some list => list.children.trees
  | none => []

theorem sceneIds_eq (scene : Scene) : scene.sceneIds = scene.members.map (·.root.id) := by
  unfold sceneIds members
  cases scene.roots.tree? listPosition with
  | none => rfl
  | some list => rfl

def reach (tree : Tree Element) : List ElementId := tree.root.id :: ids tree.children

def surroundings (roots : Forest Element) : Forest Element :=
  roots.modify (fun list => ⟨list.root, .empty⟩) listPosition

theorem index_of_distinct {roots : Forest Element} (distinct : (ids roots).Nodup)
    {position : Position} {tree : Tree Element} (found : roots.tree? position = some tree) :
    (indexOf roots)[tree.root.id]? = some position := by
  obtain ⟨hole, rfl, rfl⟩ := Forest.exists_hole found
  refine indexOf_fill hole tree fun later member same => ?_
  rw [ids, Hole.preorder_fill, List.map_append, List.map_cons] at distinct
  have once := (List.nodup_cons.mp (List.nodup_append.mp distinct).2.1).1
  exact once (same ▸ List.mem_map_of_mem member)

theorem sceneOf?_eq_some {scene : Scene} {id owner : ElementId} :
    scene.sceneOf? id = some owner ↔ ∃ number below member,
      scene.index[id]? = some (listPosition ++ number :: below) ∧
        scene.roots.tree? (listPosition ++ [number]) = some member ∧ member.root.id = owner := by
  constructor
  · intro owned
    unfold sceneOf? at owned
    obtain ⟨position, known, rest⟩ := Option.bind_eq_some_iff.mp owned
    split at rest
    · rename_i number below
      obtain ⟨member, found, answered⟩ := Option.bind_eq_some_iff.mp rest
      exact ⟨number, below, member, known, found, Option.some.inj answered⟩
    · cases rest
  · rintro ⟨number, below, member, known, found, rfl⟩
    unfold listPosition at known found
    simp only [List.cons_append, List.nil_append] at known found
    simp [sceneOf?, known, found]

section
variable {hole : Hole Element} {list : Element} {children : Forest Element}
variable (there : hole.position = listPosition)
include there

theorem members_fill (scene : Scene) (roots : scene.roots = hole.fill ⟨list, children⟩) :
    scene.members = children.trees := by
  rw [members, roots, ← there, Hole.tree?_fill]

theorem surroundings_fill :
    surroundings (hole.fill ⟨list, children⟩) = hole.fill ⟨list, .empty⟩ := by
  rw [surroundings, ← there, Hole.modify_fill]

theorem sceneOf?_place {id owner : ElementId}
    (owned : (ofRoots (hole.fill ⟨list, children⟩)).sceneOf? id = some owner) :
    ∃ number below tree member,
      (ofRoots (hole.fill ⟨list, children⟩)).index[id]? = some (hole.position ++ number :: below) ∧
      children.tree? (number :: below) = some tree ∧ tree.root.id = id ∧
      children.trees[number]? = some member ∧ member.root.id = owner := by
  obtain ⟨number, below, member, known, numbered, same⟩ := sceneOf?_eq_some.mp owned
  rw [← there] at known numbered
  have indexed : Indexed (ofRoots (hole.fill ⟨list, children⟩)) := rfl
  obtain ⟨tree, found, named⟩ := tree?_of_index indexed known
  refine ⟨number, below, tree, member, known, ?_, named, ?_, same⟩
  · exact (hole.tree?_below _ number below).symm.trans found
  · rw [← Forest.tree?_singleton]
    exact (hole.tree?_below _ number []).symm.trans numbered

theorem sceneOf?_member {id owner : ElementId}
    (owned : (ofRoots (hole.fill ⟨list, children⟩)).sceneOf? id = some owner) :
    ∃ member ∈ children.trees, member.root.id = owner ∧ id ∈ reach member := by
  obtain ⟨number, below, tree, member, _, found, named, numbered, same⟩ :=
    sceneOf?_place there owned
  refine ⟨member, List.mem_of_getElem? numbered, same, ?_⟩
  rw [← named]
  exact List.mem_map_of_mem (f := Element.id) (Forest.mem_numbered found numbered)

theorem sceneOf?_of_member (distinct : (ids (hole.fill ⟨list, children⟩)).Nodup)
    {member : Tree Element} (listed : member ∈ children.trees) {id : ElementId}
    (inside : id ∈ reach member) :
    (ofRoots (hole.fill ⟨list, children⟩)).sceneOf? id = some member.root.id := by
  obtain ⟨number, numbered⟩ := List.getElem?_of_mem listed
  have found : (hole.fill ⟨list, children⟩).tree? (hole.position ++ [number]) = some member := by
    rw [Hole.tree?_below, Forest.tree?_singleton]
    exact numbered
  obtain ⟨below, known⟩ : ∃ below, (indexOf (hole.fill ⟨list, children⟩))[id]? =
      some (hole.position ++ number :: below) := by
    rcases List.mem_cons.mp inside with rfl | deeper
    · exact ⟨[], index_of_distinct distinct found⟩
    · obtain ⟨element, present, rfl⟩ := List.mem_map.mp deeper
      obtain ⟨inner, tree, split, rfl, _⟩ :=
        member.children.exists_last (· = element) ⟨element, present, rfl⟩
      obtain ⟨outer, roots, position⟩ := Forest.exists_hole found
      have further := outer.tree?_below member inner.first inner.further
      rw [← roots, position, split] at further
      have reached := index_of_distinct distinct (further.trans (inner.tree?_fill tree))
      exact ⟨inner.position, by simpa [Hole.position] using reached⟩
  rw [there] at known found
  exact sceneOf?_eq_some.mpr ⟨number, below, member, known, found, rfl⟩

theorem apply_inside {snapshot : Tree Element} {owner : ElementId}
    (owned : (ofRoots (hole.fill ⟨list, children⟩)).sceneOf? snapshot.root.id = some owner) :
    ∃ changed : Forest Element,
      ((ofRoots (hole.fill ⟨list, children⟩)).apply snapshot).1 =
        ofRoots (hole.fill ⟨list, changed⟩) ∧
      changed.trees.map (·.root.id) = children.trees.map (·.root.id) := by
  obtain ⟨number, below, tree, _, known, found, named, _⟩ := sceneOf?_place there owned
  refine ⟨children.modify snapshot.updated (number :: below), ?_, ?_⟩
  · have indexed : Indexed (ofRoots (hole.fill ⟨list, children⟩)) := rfl
    have roots : ((ofRoots (hole.fill ⟨list, children⟩)).apply snapshot).1.roots =
        hole.fill ⟨list, children.modify snapshot.updated (number :: below)⟩ := by
      rw [← hole.modify_below snapshot.updated ⟨list, children⟩ number below]
      unfold apply
      simp only [known]
      split <;> rfl
    rw [(apply_indexed indexed snapshot).eq_ofRoots, roots]
  · refine Forest.roots_modify Element.id _ _ _ fun other there => ?_
    cases found.symm.trans there
    exact named.symm

omit there in
theorem remove_inside (distinct : (ids (hole.fill ⟨list, children⟩)).Nodup)
    {removed : List ElementId} (inside : ∀ id ∈ removed, id ∈ ids children) :
    ((ofRoots (hole.fill ⟨list, children⟩)).remove removed).1 =
      ofRoots (hole.fill ⟨list, children.without fun element => element.id ∈ removed⟩) := by
  have split : ids (hole.fill ⟨list, children⟩) = hole.before.map Element.id ++
      list.id :: (ids children ++ hole.after.map Element.id) := by
    rw [ids, Hole.preorder_fill]
    simp [ids]
  rw [split, List.nodup_append] at distinct
  obtain ⟨_, rest, apart⟩ := distinct
  obtain ⟨alone, rest⟩ := List.nodup_cons.mp rest
  obtain ⟨_, _, separate⟩ := List.nodup_append.mp rest
  have list_stays : list.id ∉ removed := fun named =>
    alone (List.mem_append_left _ (inside _ named))
  have others_stay : ∀ other ∈ hole.before ++ hole.after, other.id ∉ removed := by
    intro other member named
    rcases List.mem_append.mp member with earlier | later
    · have listed : other.id ∈ list.id :: (ids children ++ hole.after.map Element.id) :=
        List.mem_cons_of_mem _ (List.mem_append_left _ (inside _ named))
      exact apart _ (List.mem_map_of_mem earlier) _ listed rfl
    · exact separate _ (inside _ named) _ (List.mem_map_of_mem later) rfl
  exact congrArg ofRoots (hole.without_fill _ ⟨list, children⟩ (by simpa using list_stays)
    fun other member => by simpa using others_stay other member)

end

end Scene

namespace State
open Scene
variable {before after state : State} {message : Message} {loaded : Forest Element}
  {registered : List ElementId}

def Quiet (state : State) : Prop :=
  state.inBatch = false → state.summary.stale = false ∧ state.summary.anyChanged = false

theorem settle_quiet (state : State) : Quiet state.settle := by
  intro _
  rw [settle_eq]
  split
  · exact ⟨rfl, rfl⟩
  · rename_i fresh
    exact ⟨by simpa using fresh, rfl⟩

theorem settleOutsideBatch_quiet (state : State) : Quiet state.settleOutsideBatch := by
  unfold settleOutsideBatch
  split
  · rename_i inside
    intro outside
    cases inside.symm.trans outside
  · exact settle_quiet state

theorem step_quiet (quiet : Quiet before) (step : Step before message after) : Quiet after := by
  cases step with
  | aside fit quitRequested => exact quiet
  | painted inPlace settled =>
    intro outside
    obtain ⟨stale, anyChanged⟩ := quiet outside
    exact ⟨inPlace.stale.trans stale, settled.trans anyChanged⟩
  | pressed shown editable live => exact quiet
  | edited made => exact quiet
  | closed => exact quiet
  | replaced roots => exact fun _ => ⟨rfl, rfl⟩
  | began => intro outside; cases outside
  | changed received inPlace => exact settleOutsideBatch_quiet _
  | removed ids => exact settleOutsideBatch_quiet _
  | ended => exact settle_quiet _

theorem Quiet.settleOutsideBatch (quiet : Quiet state) : state.settleOutsideBatch = state := by
  unfold State.settleOutsideBatch
  split
  · rfl
  · rename_i outside
    obtain ⟨stale, anyChanged⟩ := quiet (by simpa using outside)
    rw [settle_eq, if_neg (by simp [stale]), ← anyChanged]

theorem receives_iff (some_scene : state.registeredScenes ≠ []) (id : ElementId) :
    state.receives id = true ↔
      ∃ owner ∈ state.registeredScenes, state.scene.sceneOf? id = some owner := by
  unfold receives
  cases state.scene.sceneOf? id with
  | none => simp [some_scene]
  | some owner => simp [some_scene]

-- The tree around the scenes is the one that was loaded, and every listed scene is registered.
structure Isolated (loaded : Forest Element) (registered : List ElementId) (state : State) :
    Prop where
  scenes : state.registeredScenes = registered
  surrounded : ∃ (hole : Hole Element) (list : Element) (children : Forest Element),
    hole.position = listPosition ∧ surroundings loaded = hole.fill ⟨list, .empty⟩ ∧
      state.scene = ofRoots (hole.fill ⟨list, children⟩) ∧
      ∀ id ∈ children.trees.map (·.root.id), id ∈ registered

theorem Isolated.indexed (isolated : Isolated loaded registered state) : state.scene.Indexed := by
  obtain ⟨_, _, _, _, _, scene, _⟩ := isolated.surrounded
  rw [scene]
  rfl

theorem Isolated.same (isolated : Isolated loaded registered before)
    (scenes : after.registeredScenes = before.registeredScenes)
    (scene : after.scene = before.scene) : Isolated loaded registered after := by
  refine ⟨scenes.trans isolated.scenes, ?_⟩
  rw [scene]
  exact isolated.surrounded

theorem settle_registeredScenes (state : State) :
    state.settle.registeredScenes = state.registeredScenes := by
  rw [settle_frame]

theorem settleOutsideBatch_registeredScenes (state : State) :
    state.settleOutsideBatch.registeredScenes = state.registeredScenes := by
  rw [settleOutsideBatch_frame]

theorem withChange_isolated (some_scene : registered ≠ [])
    (isolated : Isolated loaded registered state) {change : Element.Change} (summary : Summary)
    (received : state.receives change.snapshot.root.id = true) :
    Isolated loaded registered (state.withChange change summary) := by
  obtain ⟨scenes, hole, list, children, there, around, scene, listed⟩ := isolated
  obtain ⟨owner, _, owned⟩ := (receives_iff (by rwa [scenes]) _).mp received
  rw [scene] at owned
  obtain ⟨changed, applied, same⟩ := apply_inside there owned
  refine ⟨scenes, hole, list, changed, there, around, ?_, ?_⟩
  · show (state.scene.apply change.snapshot).1 = _
    rw [scene, applied]
  · rw [same]
    exact listed

theorem withRemoval_isolated (some_scene : registered ≠ [])
    (isolated : Isolated loaded registered state)
    (distinct : (Scene.ids state.scene.roots).Nodup) (removed : List ElementId) :
    Isolated loaded registered (state.withRemoval removed) := by
  obtain ⟨scenes, hole, list, children, there, around, scene, listed⟩ := isolated
  rw [scene] at distinct
  have inside : ∀ id ∈ state.receivedIds removed, id ∈ Scene.ids children := by
    intro id member
    obtain ⟨_, received⟩ := List.mem_filter.mp member
    obtain ⟨owner, _, owned⟩ := (receives_iff (by rwa [scenes]) _).mp received
    rw [scene] at owned
    obtain ⟨_, _, tree, _, _, found, named, _⟩ := sceneOf?_place there owned
    rw [← named]
    exact List.mem_map_of_mem (Forest.mem_preorder found)
  refine ⟨scenes, hole, list,
    children.without fun element => element.id ∈ state.receivedIds removed, there, around, ?_, ?_⟩
  · show (state.scene.remove (state.receivedIds removed)).1 = _
    rw [scene, remove_inside distinct inside]
  · intro id member
    obtain ⟨tree, left, rfl⟩ := List.mem_map.mp member
    have kept := List.mem_map_of_mem (f := (·.root)) left
    rw [Forest.roots_without] at kept
    obtain ⟨other, present, same⟩ := List.mem_map.mp (List.mem_filter.mp kept).1
    exact listed _ (List.mem_map.mpr ⟨other, present, congrArg Element.id same⟩)

theorem step_isolated (some_scene : registered ≠ [])
    (isolated : Isolated loaded registered before)
    (distinct : (Scene.ids before.scene.roots).Nodup)
    (single : ∀ roots, message ≠ .scene (.managerInit roots))
    (step : Step before message after) : Isolated loaded registered after := by
  cases step with
  | aside fit quitRequested => exact isolated.same rfl rfl
  | painted inPlace _ => exact isolated.same rfl rfl
  | pressed shown editable live => exact isolated.same rfl rfl
  | edited made => exact isolated.same rfl rfl
  | closed => exact isolated.same rfl rfl
  | replaced roots => exact absurd rfl (single roots)
  | began => exact isolated.same rfl rfl
  | @changed change summary received inPlace =>
    exact (withChange_isolated some_scene isolated summary received).same
      (settleOutsideBatch_registeredScenes _) (settleOutsideBatch_scene _)
  | removed ids =>
    exact (withRemoval_isolated some_scene isolated distinct ids).same
      (settleOutsideBatch_registeredScenes _) (settleOutsideBatch_scene _)
  | ended =>
    exact isolated.same (settle_registeredScenes _) (settle_scene _)

theorem managerInit_isolated {roots : Forest Element}
    (some_scene : (before.managerInit roots).registeredScenes ≠ []) :
    Isolated roots (before.managerInit roots).registeredScenes (before.managerInit roots) := by
  have scenes : (before.managerInit roots).registeredScenes = (ofRoots roots).sceneIds := rfl
  cases found : roots.tree? listPosition with
  | none =>
    refine absurd ?_ some_scene
    rw [scenes, sceneIds, ofRoots, found]
  | some tree =>
    obtain ⟨hole, rfl, there⟩ := Forest.exists_hole found
    refine ⟨rfl, hole, tree.root, tree.children, there, surroundings_fill there, rfl, ?_⟩
    rw [scenes, sceneIds_eq, members_fill there (ofRoots (hole.fill tree)) rfl]
    exact fun _ member => member

theorem run_quiet (quiet : Quiet state) (messages : List Message) : Quiet (state.run messages) := by
  induction messages generalizing state with
  | nil => exact quiet
  | cons message rest ih => exact ih (step_quiet quiet (update_step state message))

theorem run_isolated (some_scene : registered ≠ []) (isolated : Isolated loaded registered state)
    (messages : List Message)
    (single : ∀ message ∈ messages, ∀ roots, message ≠ .scene (.managerInit roots))
    (distinct : ∀ part, part <+: messages → (Scene.ids (state.run part).scene.roots).Nodup) :
    Isolated loaded registered (state.run messages) := by
  induction messages using List.reverseRecOn with
  | nil => exact isolated
  | append_singleton messages message ih =>
    have prior := ih (fun other member => single other (by simp [member]))
      fun part started => distinct part (started.trans (List.prefix_append _ _))
    rw [run_concat]
    exact step_isolated some_scene prior (distinct messages (List.prefix_append _ _))
      (single message (by simp)) (update_step _ message)

theorem Isolated.surroundings (isolated : Isolated loaded registered state) :
    Scene.surroundings state.scene.roots = Scene.surroundings loaded := by
  obtain ⟨hole, list, children, there, around, scene, _⟩ := isolated.surrounded
  rw [scene, around]
  exact surroundings_fill there

theorem Isolated.sceneOf? (isolated : Isolated loaded registered state)
    (distinct : (Scene.ids state.scene.roots).Nodup) {member : Tree Element}
    (listed : member ∈ state.scene.members) {id : ElementId} (inside : id ∈ reach member) :
    state.scene.sceneOf? id = some member.root.id := by
  obtain ⟨hole, list, children, there, _, scene, _⟩ := isolated.surrounded
  rw [members_fill there state.scene (congrArg Scene.roots scene)] at listed
  rw [scene] at distinct ⊢
  exact sceneOf?_of_member there distinct listed inside

theorem Isolated.receives_iff (some_scene : registered ≠ [])
    (isolated : Isolated loaded registered state)
    (distinct : (Scene.ids state.scene.roots).Nodup) (id : ElementId) :
    state.receives id = true ↔ ∃ member ∈ state.scene.members, id ∈ reach member := by
  obtain ⟨hole, list, children, there, _, scene, members_registered⟩ := isolated.surrounded
  have members := members_fill there state.scene (congrArg Scene.roots scene)
  rw [State.receives_iff (isolated.scenes ▸ some_scene)]
  constructor
  · rintro ⟨owner, _, owned⟩
    rw [scene] at owned
    obtain ⟨member, listed, _, inside⟩ := sceneOf?_member there owned
    exact ⟨member, members ▸ listed, inside⟩
  · rintro ⟨member, listed, inside⟩
    refine ⟨member.root.id, ?_, isolated.sceneOf? distinct listed inside⟩
    rw [isolated.scenes]
    rw [members] at listed
    exact members_registered _ (List.mem_map.mpr ⟨member, listed, rfl⟩)

theorem change_ignored {change : Element.Change}
    (refused : ¬ state.receives change.snapshot.root.id = true) :
    state.update (.scene (.elementChanged change)) = (state, []) :=
  congrArg (·, []) (if_neg refused)

-- Without a registered element in it a removal finds nothing, and nothing is left to be settled.
theorem removal_ignored (indexed : state.scene.Indexed) (quiet : Quiet state)
    {removed : List ElementId} (refused : ∀ id ∈ removed, ¬ state.receives id = true) :
    state.update (.scene (.elementsRemoved removed)) = (state, []) := by
  have none_received : state.receivedIds removed = [] := List.filter_eq_nil_iff.mpr refused
  have nothing : ¬ 0 < (state.scene.remove (state.receivedIds removed)).2 := by
    rw [none_received]
    exact Nat.lt_irrefl 0
  refine congrArg (·, []) ?_
  rw [elementsRemoved_eq, withRemoval_nothing indexed nothing, quiet.settleOutsideBatch]

-- As long as ids do not repeat and no other tree is loaded, the tree around the scenes stays as it
-- was loaded, and just the elements of the scenes are received. To name others changes nothing.
theorem scenes_isolated {roots : Forest Element} {messages : List Message}
    (some_scene : (before.managerInit roots).registeredScenes ≠ [])
    (single : ∀ message ∈ messages, ∀ other, message ≠ .scene (.managerInit other))
    (distinct : ∀ part, part <+: messages →
      (Scene.ids (before.run (.scene (.managerInit roots) :: part)).scene.roots).Nodup) :
    ∀ part, part <+: messages →
      let state := before.run (.scene (.managerInit roots) :: part)
      surroundings state.scene.roots = surroundings roots ∧
      (∀ id, state.receives id = true ↔ ∃ member ∈ state.scene.members, id ∈ reach member) ∧
      (∀ member ∈ state.scene.members, ∀ id ∈ reach member,
        state.scene.sceneOf? id = some member.root.id) ∧
      (∀ change : Element.Change,
        (∀ member ∈ state.scene.members, change.snapshot.root.id ∉ reach member) →
        state.update (.scene (.elementChanged change)) = (state, [])) ∧
      (∀ removed : List ElementId,
        (∀ id ∈ removed, ∀ member ∈ state.scene.members, id ∉ reach member) →
        state.update (.scene (.elementsRemoved removed)) = (state, [])) := by
  intro part started state
  have isolated : Isolated roots _ state := run_isolated some_scene
    (managerInit_isolated some_scene) part
    (fun message member => single message (started.subset member))
    fun earlier within => distinct earlier (within.trans started)
  have quiet : Quiet state := run_quiet (fun _ => ⟨rfl, rfl⟩) part
  have apart : (Scene.ids state.scene.roots).Nodup := distinct part started
  have received := isolated.receives_iff some_scene apart
  have refused {id : ElementId} (outside : ∀ member ∈ state.scene.members, id ∉ reach member) :
      ¬ state.receives id = true := by
    rw [received]
    rintro ⟨member, listed, inside⟩
    exact outside member listed inside
  refine ⟨isolated.surroundings, received, ?_, ?_, ?_⟩
  · exact fun member listed id inside => isolated.sceneOf? apart listed inside
  · exact fun change outside => change_ignored (refused outside)
  · exact fun removed outside =>
      removal_ignored isolated.indexed quiet fun id named => refused (outside id named)

def eventDisplay : Forest Element :=
  .cons { id := 1, name := "World" }
    (.cons { id := 2, name := "Viewers" } .empty
      (.cons { id := 3, name := "Selections" } .empty
        (.cons { id := 4, name := "Scenes" }
          (.cons { id := 10, name := "Event scene" }
            (.cons { id := 12, name := "Track" } .empty .empty) .empty) .empty))) .empty

def trackLeaves : List Message := [
  .scene (.elementChanged
    ⟨⟨{ id := 12, name := "Track" }, .cons { id := 13 } .empty .empty⟩, false⟩),
  .scene (.elementChanged ⟨⟨{ id := 2, name := "Views" }, .empty⟩, false⟩),
  .scene .beginChanges,
  .scene (.elementsRemoved [1, 12])]

theorem scenes_isolated_track :
    let state := initial.run (.scene (.managerInit eventDisplay) :: trackLeaves)
    surroundings state.scene.roots = surroundings eventDisplay ∧
      state.scene.members = [⟨{ id := 10, name := "Event scene" }, .empty⟩] ∧
      state.receives 10 = true ∧ state.scene.sceneOf? 10 = some 10 ∧
      state.update (.scene (.elementsRemoved [1, 2, 12])) = (state, []) := by
  intro state
  have single : ∀ message ∈ trackLeaves, ∀ other, message ≠ .scene (.managerInit other) := by
    intro message member
    simp only [trackLeaves, List.mem_cons, List.not_mem_nil, or_false] at member
    rcases member with rfl | rfl | rfl | rfl <;> exact fun _ => nofun
  have distinct : ∀ part, part <+: trackLeaves →
      (Scene.ids (initial.run (.scene (.managerInit eventDisplay) :: part)).scene.roots).Nodup := by
    have parts : ∀ part ∈ trackLeaves.inits, (Scene.ids
        (initial.run (.scene (.managerInit eventDisplay) :: part)).scene.roots).Nodup := by
      decide +kernel
    exact fun part started => parts part ((List.mem_inits part trackLeaves).mpr started)
  have members : state.scene.members = [⟨{ id := 10, name := "Event scene" }, .empty⟩] := by
    decide +kernel
  obtain ⟨around, received, owner, _, removal⟩ :=
    scenes_isolated (by decide +kernel) single distinct trackLeaves List.prefix_rfl
  have listed : ⟨{ id := 10, name := "Event scene" }, .empty⟩ ∈ state.scene.members := by
    simp [members]
  have outside : ∀ id ∈ [1, 2, 12], ∀ member ∈ state.scene.members, id ∉ reach member := by
    rw [members]
    simp [reach, Scene.ids, Forest.preorder]
  have inside : 10 ∈ reach ⟨{ id := 10, name := "Event scene" }, .empty⟩ := List.mem_cons_self
  exact ⟨around, members, (received 10).mpr ⟨_, listed, inside⟩, owner _ listed 10 inside,
    removal [1, 2, 12] outside⟩

end State
end SceneInspector
