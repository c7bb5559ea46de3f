import SceneInspector.Proofs.SessionStep
import SceneInspector.Proofs.SummaryProjection

namespace SceneInspector.State
open Summary

def freshSummary (state : State) : Summary :=
  (Summary.blank state.settings.summary.expandLevel state.settings.summary.sizeLimit).rebuild
    state.catalogue state.scene.roots

def UpToDate (state : State) : Prop :=
  outline state.summary.roots = outline state.freshSummary.roots

-- A change that takes part leaves the same of its tree to be shown. While a rebuild is due
-- anything may change.
def LeavesShown (state : State) (message : Message) : Prop :=
  ∀ (change : Element.Change) (tree : Tree Element), message = .scene (.elementChanged change) →
    state.receives change.snapshot.root.id = true → state.summary.stale = false →
    state.scene.element? change.snapshot.root.id = some tree →
    shown state.catalogue (.ofTrees [change.snapshot.updated tree]) =
      shown state.catalogue (.ofTrees [tree])

theorem rebuilt_upToDate {state : State} {summary : Summary}
    (rebuilt : state.summary = summary.rebuild state.catalogue state.scene.roots)
    (sizeLimit : state.summary.sizeLimit = state.settings.summary.sizeLimit) : UpToDate state := by
  unfold UpToDate freshSummary
  rw [← sizeLimit, rebuilt]
  rfl

theorem step_outline {before after : State} {message : Message} (sound : Sound before)
    (step : Step before message after) :
    after.summary.generation = before.summary.generation ∧
      outline after.summary.roots = outline before.summary.roots ∨
    after.summary.generation = before.summary.generation + 1 ∧ UpToDate after := by
  rcases step_rebuilds step with ⟨generation, places⟩ | ⟨rebuilt, _⟩
  · exact .inl ⟨generation, outline_of_places places⟩
  · refine .inr ⟨?_, rebuilt_upToDate rebuilt (step_sound sound step).sizeLimit⟩
    rw [rebuilt]
    rfl

-- Where the summary is made: at the start, and by each message that puts its generation up.
def MadeAt (start : State) (messages : List Message) : Prop :=
  messages = [] ∨ ∃ earlier message, messages = earlier ++ [message] ∧
    (start.run messages).summary.generation = (start.run earlier).summary.generation + 1

theorem run_outline {start : State} (sound : Sound start) (fresh : UpToDate start)
    (messages : List Message) :
    ∃ before after, messages = before ++ after ∧ MadeAt start before ∧
      UpToDate (start.run before) ∧ ∀ kept, kept <+: after →
        (start.run (before ++ kept)).summary.generation =
            (start.run before).summary.generation ∧
          outline (start.run (before ++ kept)).summary.roots =
            outline (start.run before).summary.roots := by
  induction messages using List.reverseRecOn with
  | nil =>
    refine ⟨[], [], rfl, .inl rfl, fresh, ?_⟩
    intro kept within
    rw [List.prefix_nil.mp within]
    exact ⟨rfl, rfl⟩
  | append_singleton messages message ih =>
    obtain ⟨before, after, rfl, made, upToDate, steady⟩ := ih
    have stepped := step_outline (run_sound sound (before ++ after))
      (update_step (start.run (before ++ after)) message)
    rw [← run_concat] at stepped
    -- The prefix stays as it is, unless the last message has rebuilt the summary.
    rcases stepped with ⟨sameGeneration, sameOutline⟩ | ⟨raised, rebuilt⟩
    · refine ⟨before, after ++ [message], List.append_assoc .., made, upToDate, ?_⟩
      intro kept within
      rcases List.prefix_concat_iff.mp within with rfl | within
      · obtain ⟨generation, outlined⟩ := steady after (List.prefix_refl after)
        rw [← List.append_assoc]
        exact ⟨sameGeneration.trans generation, sameOutline.trans outlined⟩
      · exact steady kept within
    · refine ⟨before ++ after ++ [message], [], (List.append_nil _).symm, ?_, rebuilt, ?_⟩
      · exact .inr ⟨before ++ after, message, rfl, raised⟩
      · intro kept within
        rw [List.prefix_nil.mp within, List.append_nil]
        exact ⟨rfl, rfl⟩

theorem project_apply {scene : Scene} (indexed : scene.Indexed) (catalogue : Catalogue)
    (snapshot : Tree Element)
    (leaves : ∀ tree, scene.element? snapshot.root.id = some tree →
      shown catalogue (.ofTrees [snapshot.updated tree]) = shown catalogue (.ofTrees [tree])) :
    (project catalogue (scene.apply snapshot).1.roots).map Item.place =
      (project catalogue scene.roots).map Item.place := by
  obtain ⟨roots, rfl⟩ : ∃ roots, scene = Scene.ofRoots roots := ⟨scene.roots, indexed.eq_ofRoots⟩
  rcases Scene.apply_ofRoots roots snapshot with
    ⟨_, applied⟩ | ⟨hole, tree, rfl, same, later, applied⟩
  · rw [applied]
  · have live : (Scene.ofRoots (hole.fill tree)).element? snapshot.root.id = some tree := by
      rw [Scene.element?_ofRoots, ← same]
      exact Scene.last?_fill hole tree (by rwa [same])
    have kept := shown_fill catalogue hole (leaves tree live)
    rw [applied]
    unfold project
    rw [projectFrom_places, projectFrom_places]
    exact congrArg (numbered [] 0) kept

def Kept (state : State) : Prop := state.summary.stale = true ∨ UpToDate state

theorem settle_kept {state : State} (kept : Kept state)
    (sizeLimit : state.summary.sizeLimit = state.settings.summary.sizeLimit) :
    Kept state.settle := by
  rw [settle_eq]
  split
  · exact .inr (rebuilt_upToDate rfl sizeLimit)
  · rename_i fresh
    exact kept.elim (fun stale => absurd stale fresh) .inr

theorem settleOutsideBatch_kept {state : State} (kept : Kept state)
    (sizeLimit : state.summary.sizeLimit = state.settings.summary.sizeLimit) :
    Kept state.settleOutsideBatch := by
  unfold settleOutsideBatch
  split
  · exact kept
  · exact settle_kept kept sizeLimit

theorem upToDate_of_places {before after : State} (upToDate : UpToDate before)
    (settings : after.settings = before.settings)
    (summary : outline after.summary.roots = outline before.summary.roots)
    (projected : (project after.catalogue after.scene.roots).map Item.place =
      (project before.catalogue before.scene.roots).map Item.place) : UpToDate after := by
  have asked : outline after.freshSummary.roots = outline before.freshSummary.roots := by
    unfold freshSummary
    rw [settings]
    exact outline_of_places (limited_places _ projected)
  exact summary.trans (upToDate.trans asked.symm)

theorem step_kept {before after : State} {message : Message} (sound : Sound before)
    (leaves : LeavesShown before message) (kept : Kept before)
    (step : Step before message after) : Kept after := by
  cases step with
  | aside fit quitRequested => exact kept
  | painted inPlace _ =>
    rcases kept with stale | upToDate
    · exact .inl (inPlace.stale.trans stale)
    · exact .inr (upToDate_of_places upToDate rfl (outline_of_places inPlace.places) rfl)
  | pressed shown editable live => exact kept
  | edited made => exact kept
  | closed => exact kept
  | replaced roots => exact .inr (rebuilt_upToDate rfl sound.sizeLimit)
  | began => exact kept
  | @changed change summary received inPlace =>
    refine settleOutsideBatch_kept ?_ (inPlace.sizeLimit.trans sound.sizeLimit)
    -- Whatever a change does while a rebuild is due is made up for by the rebuild.
    cases due : before.summary.stale with
    | true => exact .inl (inPlace.stale.trans due)
    | false =>
      have upToDate : UpToDate before := kept.resolve_left (by simp [due])
      refine .inr (upToDate_of_places upToDate rfl (outline_of_places inPlace.places) ?_)
      exact project_apply sound.indexed before.catalogue change.snapshot
        fun tree live => leaves change tree rfl received due live
  | removed ids =>
    by_cases found : 0 < (before.scene.remove (before.receivedIds ids)).2
    · rw [withRemoval_eq]
      exact settleOutsideBatch_kept (.inl (by simp [found])) sound.sizeLimit
    · rw [withRemoval_nothing sound.indexed found]
      exact settleOutsideBatch_kept kept sound.sizeLimit
  | ended => exact settle_kept kept sound.sizeLimit

theorem run_kept {state : State} (sound : Sound state) (kept : Kept state) (messages : List Message)
    (leaves : ∀ earlier message later, messages = earlier ++ message :: later →
      LeavesShown (state.run earlier) message) : Kept (state.run messages) := by
  induction messages generalizing state with
  | nil => exact kept
  | cons message rest ih =>
    have step := update_step state message
    refine ih (step_sound sound step) (step_kept sound (leaves [] message rest rfl) kept step) ?_
    intro earlier other later split
    exact leaves (message :: earlier) other later (by rw [split]; rfl)

theorem leavesShown_childless {state : State} (indexed : state.scene.Indexed) {snapshot : Element}
    {rendersSelfChanged : Bool}
    (sameShown : ∀ tree, state.scene.element? snapshot.id = some tree →
      isShown state.catalogue ⟨snapshot, tree.children⟩ = isShown state.catalogue tree) :
    LeavesShown state (.scene (.elementChanged ⟨⟨snapshot, .empty⟩, rendersSelfChanged⟩)) := by
  rintro change tree same received fresh live
  cases same
  exact shown_root state.catalogue tree.children (Scene.element?_id indexed live).symm
    (sameShown tree live)

theorem start_upToDate {settings : Settings} {start : State}
    (made : ofSettings settings = .ok start) : UpToDate start := by
  obtain ⟨toolkit, rfl⟩ := start_eq made
  have nothing (limit : Nat) : limited limit .empty = .empty := by
    unfold limited
    split <;> rfl
  exact congrArg outline (nothing settings.summary.sizeLimit).symm

-- The ids, the nesting and the paths of the summary are at any moment those that the scene asked
-- for when the summary was last made, and have been all the time since. Outside a bracket they are
-- those that the present scene asks for, if every change since some moment at which they were has
-- left the same to be shown.
theorem outline_since_rebuild {settings : Settings} {start : State}
    (made : ofSettings settings = .ok start) :
    (∀ messages, ∃ before after, messages = before ++ after ∧ MadeAt start before ∧
      UpToDate (start.run before) ∧ ∀ kept, kept <+: after →
        (start.run (before ++ kept)).summary.generation =
            (start.run before).summary.generation ∧
          outline (start.run (before ++ kept)).summary.roots =
            outline (start.run before).summary.roots) ∧
    ∀ before after, UpToDate (start.run before) →
      (∀ earlier message later, after = earlier ++ message :: later →
        LeavesShown (start.run (before ++ earlier)) message) →
      (start.run (before ++ after)).inBatch = false → UpToDate (start.run (before ++ after)) := by
  have sound := start_sound made
  refine ⟨run_outline sound (start_upToDate made), ?_⟩
  intro before after upToDate leaves outside
  rw [run_append] at outside ⊢
  have there := run_sound sound before
  have kept : Kept ((start.run before).run after) := by
    refine run_kept there (.inr upToDate) after ?_
    intro earlier message later split
    rw [← run_append]
    exact leaves earlier message later split
  rcases kept with due | upToDate
  · have settled := (run_sound there after).settled outside
    exact absurd due (by simp [settled])
  · exact upToDate

def eventAlone : Message :=
  .scene (.managerInit
    (.cons { id := 2, name := "Event" } (.cons { id := 6 } .empty .empty) .empty))

def renamedEvent : List Message := [
  .scene .beginChanges,
  .scene (.elementChanged ⟨⟨{ id := 2, name := "Event 2" }, .empty⟩, false⟩),
  .scene .endChanges]

theorem outline_since_rebuild_renamed :
    UpToDate (initial.run (eventAlone :: renamedEvent)) ∧
      outline (initial.run (eventAlone :: renamedEvent)).summary.roots =
        .cons (2, "/0") .empty .empty := by
  obtain ⟨_, stays⟩ := outline_since_rebuild ofSettings_standard
  have before : UpToDate (initial.run [eventAlone]) := by
    unfold UpToDate
    decide +kernel
  refine ⟨stays [eventAlone] renamedEvent before ?_ (by decide +kernel), by decide +kernel⟩
  rintro earlier message later split
  match earlier, split with
  | [], split =>
    cases split
    rintro change tree ⟨⟩
  | [_], split =>
    cases split
    refine leavesShown_childless (run_sound (start_sound ofSettings_standard) _).indexed ?_
    intro tree live
    have event : (initial.run [eventAlone, .scene .beginChanges]).scene.element? 2 =
        some ⟨{ id := 2, name := "Event" }, .cons { id := 6 } .empty .empty⟩ := by decide +kernel
    cases event.symm.trans live
    rfl
  | [_, _], split =>
    cases split
    rintro change tree ⟨⟩
  | _ :: _ :: _ :: rest, split => simp [renamedEvent] at split

-- An element that is given a name does not come to be shown by that.
theorem named_element_not_shown :
    ¬ ∀ state, Reached state → state.inBatch = false → UpToDate state := by
  intro always
  let messages : List Message :=
    [eventAlone, .scene (.elementChanged ⟨⟨{ id := 6, name := "Jets" }, .empty⟩, false⟩)]
  have same := always _ (run_reached reached_initial messages) (by decide +kernel)
  unfold UpToDate at same
  exact absurd same (by decide +kernel)

end SceneInspector.State
