import SceneInspector.Proofs.SceneRemoval
import SceneInspector.Proofs.SummaryOutline

namespace SceneInspector

theorem Scene.remove_counts {scene : Scene} (indexed : scene.Indexed) (removed : List ElementId) :
    0 < (scene.remove removed).2 ↔ ∃ id ∈ removed, (scene.element? id).isSome = true := by
  rw [remove_count indexed, List.countP_pos_iff]
  simp only [element?_indexed indexed, isSome_last?, decide_eq_true_iff]

namespace State
open Summary
variable {state before after : State} {message : Message}

def Gathers (message : Message) : Prop :=
  message ≠ .scene .endChanges ∧ ∀ roots, message ≠ .scene (.managerInit roots)

def TakesAway (state : State) (message : Message) : Prop :=
  ∃ ids, message = .scene (.elementsRemoved ids) ∧
    ∃ id ∈ ids, state.receives id = true ∧ (state.scene.element? id).isSome = true

theorem settleOutsideBatch_inside (inside : state.inBatch = true) :
    state.settleOutsideBatch = state := if_pos inside

theorem withRemoval_stale (sound : Sound state) (ids : List ElementId) :
    (state.withRemoval ids).summary.stale = true ↔
      state.summary.stale = true ∨ TakesAway state (.scene (.elementsRemoved ids)) := by
  have found : 0 < (state.scene.remove (state.receivedIds ids)).2 ↔
      TakesAway state (.scene (.elementsRemoved ids)) := by
    rw [Scene.remove_counts sound.indexed]
    constructor
    · rintro ⟨id, received, live⟩
      obtain ⟨named, accepted⟩ := List.mem_filter.mp received
      exact ⟨ids, rfl, id, named, accepted, live⟩
    · rintro ⟨_, ⟨⟩, id, named, accepted, live⟩
      exact ⟨id, List.mem_filter.mpr ⟨named, accepted⟩, live⟩
  rw [← found, withRemoval_eq]
  simp

-- Inside a bracket nothing is settled, so that items stay where they are.
theorem step_inside (inside : before.inBatch = true) (gathers : Gathers message)
    (step : Step before message after) :
    after.inBatch = true ∧ after.summary.generation = before.summary.generation ∧
      after.summary.roots.map Item.place = before.summary.roots.map Item.place := by
  cases step with
  | aside fit quitRequested => exact ⟨inside, rfl, rfl⟩
  | painted inPlace _ => exact ⟨inside, inPlace.generation, inPlace.places⟩
  | pressed shown editable live => exact ⟨inside, rfl, rfl⟩
  | edited made => exact ⟨inside, rfl, rfl⟩
  | closed => exact ⟨inside, rfl, rfl⟩
  | replaced roots => exact absurd rfl (gathers.2 roots)
  | began => exact ⟨rfl, rfl, rfl⟩
  | @changed change summary received inPlace =>
    have still : (before.withChange change summary).inBatch = true := inside
    rw [settleOutsideBatch_inside still]
    exact ⟨inside, inPlace.generation, inPlace.places⟩
  | removed ids =>
    have still : (before.withRemoval ids).inBatch = true := inside
    rw [settleOutsideBatch_inside still, withRemoval_eq]
    exact ⟨inside, rfl, rfl⟩
  | ended => exact absurd rfl gathers.1

-- A rebuild comes to be due by a removal that takes something away, and by nothing else.
theorem update_stale (sound : Sound state) (inside : state.inBatch = true)
    (gathers : Gathers message) :
    (state.update message).1.summary.stale = true ↔
      state.summary.stale = true ∨ TakesAway state message := by
  by_cases removal : ∃ ids, message = .scene (.elementsRemoved ids)
  · obtain ⟨ids, rfl⟩ := removal
    have still : (state.withRemoval ids).inBatch = true := inside
    have updated : (state.update (.scene (.elementsRemoved ids))).1 = state.withRemoval ids :=
      (elementsRemoved_eq state ids).trans (settleOutsideBatch_inside still)
    rw [updated]
    exact withRemoval_stale sound ids
  · have takes_nothing : ¬ TakesAway state message := fun ⟨ids, same, _⟩ => removal ⟨ids, same⟩
    rw [or_iff_left takes_nothing]
    generalize update_eq : (state.update message).1 = after
    have step : Step state message after := update_eq ▸ update_step state message
    cases step with
    | aside fit quitRequested => exact Iff.rfl
    | painted inPlace _ => rw [inPlace.stale]
    | pressed shown editable live => exact Iff.rfl
    | edited made => exact Iff.rfl
    | closed => exact Iff.rfl
    | replaced roots => exact absurd rfl (gathers.2 roots)
    | began => exact Iff.rfl
    | @changed change summary received inPlace =>
      have still : (state.withChange change summary).inBatch = true := inside
      rw [settleOutsideBatch_inside still]
      exact iff_of_eq (congrArg (· = true) inPlace.stale)
    | removed ids => exact absurd ⟨ids, rfl⟩ removal
    | ended => exact absurd rfl gathers.1

theorem run_inside (inside : state.inBatch = true) (messages : List Message)
    (gather : ∀ message ∈ messages, Gathers message) :
    (state.run messages).inBatch = true ∧
      (state.run messages).summary.generation = state.summary.generation ∧
      (state.run messages).summary.roots.map Item.place = state.summary.roots.map Item.place := by
  induction messages using List.reverseRecOn with
  | nil => exact ⟨inside, rfl, rfl⟩
  | append_singleton messages message ih =>
    obtain ⟨still, generation, places⟩ := ih fun other member => gather other (by simp [member])
    have gathers : Gathers message := gather message (by simp)
    obtain ⟨open_after, sameGeneration, samePlaces⟩ :=
      step_inside still gathers (update_step (state.run messages) message)
    rw [run_concat]
    exact ⟨open_after, sameGeneration.trans generation, samePlaces.trans places⟩

theorem run_stale (sound : Sound state) (inside : state.inBatch = true) (messages : List Message)
    (gather : ∀ message ∈ messages, Gathers message) :
    (state.run messages).summary.stale = true ↔
      state.summary.stale = true ∨
        ∃ earlier message, earlier ++ [message] <+: messages ∧
          TakesAway (state.run earlier) message := by
  induction messages using List.reverseRecOn with
  | nil => simp
  | append_singleton messages message ih =>
    have earlier_gather : ∀ other ∈ messages, Gathers other :=
      fun other member => gather other (by simp [member])
    have still := (run_inside inside messages earlier_gather).1
    rw [run_concat, update_stale (run_sound sound messages) still (gather message (by simp)),
      ih earlier_gather, or_assoc]
    refine or_congr_right ?_
    constructor
    · rintro (⟨earlier, other, part, takes⟩ | takes)
      · exact ⟨earlier, other, part.trans (List.prefix_append _ _), takes⟩
      · exact ⟨messages, message, List.prefix_rfl, takes⟩
    · rintro ⟨earlier, other, part, takes⟩
      rcases List.prefix_concat_iff.mp part with whole | inner
      · obtain ⟨rfl, same⟩ := List.append_inj' whole rfl
        cases same
        exact .inr takes
      · exact .inl ⟨earlier, other, inner, takes⟩

def BracketTakesAway (state : State) (inner : List Message) : Prop :=
  ∃ earlier message, earlier ++ [message] <+: inner ∧
    TakesAway (state.run (.scene .beginChanges :: earlier)) message

theorem bracket_inside (state : State) (inner : List Message)
    (gather : ∀ message ∈ inner, Gathers message) :
    (state.run (.scene .beginChanges :: inner)).inBatch = true ∧
      (state.run (.scene .beginChanges :: inner)).summary.generation = state.summary.generation ∧
      (state.run (.scene .beginChanges :: inner)).summary.roots.map Item.place =
        state.summary.roots.map Item.place := by
  have began : (state.update (.scene .beginChanges)).1.inBatch = true := rfl
  exact run_inside began inner gather

theorem bracket_stale (sound : Sound state) (outside : state.inBatch = false)
    (inner : List Message) (gather : ∀ message ∈ inner, Gathers message) :
    (state.run (.scene .beginChanges :: inner)).summary.stale = true ↔
      BracketTakesAway state inner := by
  have fresh : ¬ (state.update (.scene .beginChanges)).1.summary.stale = true := by
    have settled := sound.settled outside
    simpa [update, notice] using settled
  have began := step_sound sound (update_step state (.scene .beginChanges))
  exact (run_stale began rfl inner gather).trans (or_iff_right fresh)

-- A rebuild under the limits of the settings is a first build of the scene, its count aside.
theorem rebuildSummary_fresh
    (expandLevel : state.summary.expandLevel = state.settings.summary.expandLevel)
    (sizeLimit : state.summary.sizeLimit = state.settings.summary.sizeLimit) :
    state.rebuildSummary.summary = { state.rebuildSummary.freshSummary with
      generation := state.summary.generation + 1 } := by
  unfold rebuildSummary freshSummary rebuild Summary.blank
  dsimp only
  rw [← expandLevel, ← sizeLimit]
  rfl

theorem bracket_part (state : State) {inner part : List Message}
    (gather : ∀ message ∈ inner, Gathers message)
    (started : part <+: .scene .beginChanges :: inner) :
    (state.run part).summary.generation = state.summary.generation ∧
      outline (state.run part).summary.roots = outline state.summary.roots := by
  rcases List.prefix_cons_iff.mp started with rfl | ⟨rest, rfl, within⟩
  · exact ⟨rfl, rfl⟩
  · have gathered : ∀ message ∈ rest, Gathers message :=
      fun message member => gather message (within.subset member)
    obtain ⟨_, generation, places⟩ := bracket_inside state rest gathered
    exact ⟨generation, outline_of_places places⟩

theorem endChanges_rebuilds (sound : Sound state) (due : state.summary.stale = true) :
    let ended := (state.update (.scene .endChanges)).1
    ended.summary.generation = state.summary.generation + 1 ∧
      ended.summary = { ended.freshSummary with generation := ended.summary.generation } ∧
      ended.editor.session = none := by
  have rebuilt : (state.update (.scene .endChanges)).1 =
      { state with inBatch := false }.rebuildSummary := (settle_eq _).trans (if_pos due)
  dsimp only
  rw [rebuilt]
  exact ⟨rfl, rebuildSummary_fresh sound.expandLevel sound.sizeLimit, rfl⟩

theorem endChanges_settles (fresh : ¬ state.summary.stale = true) :
    let ended := (state.update (.scene .endChanges)).1
    ended.summary.generation = state.summary.generation ∧
      ended.summary.roots = state.summary.roots := by
  have settled : (state.update (.scene .endChanges)).1 = { state with
      inBatch := false
      summary := { state.summary with anyChanged := false } } :=
    (settle_eq _).trans (if_neg fresh)
  dsimp only
  rw [settled]
  exact ⟨rfl, rfl⟩

-- A bracket costs at most one rebuild, however many messages it has and in whatever order: at its
-- end, if a removal in it has taken something away, and then the summary is that of a first build.
-- Until then no item moves.
theorem bracket_rebuilds_once (reached : Reached state) (outside : state.inBatch = false) :
    state.summary.stale = false ∧
    ∀ inner : List Message, (∀ message ∈ inner, Gathers message) →
      let opened := .scene .beginChanges :: inner
      let ended := state.run (opened ++ [.scene .endChanges])
      (∀ part, part <+: opened →
        (state.run part).summary.generation = state.summary.generation ∧
        outline (state.run part).summary.roots = outline state.summary.roots) ∧
      (BracketTakesAway state inner →
        ended.summary.generation = state.summary.generation + 1 ∧
        ended.summary =
          { ended.freshSummary with generation := ended.summary.generation } ∧
        ended.editor.session = none) ∧
      (¬ BracketTakesAway state inner →
        ended.summary.generation = state.summary.generation ∧
        outline ended.summary.roots = outline state.summary.roots) := by
  have sound := reached_sound reached
  refine ⟨sound.settled outside, ?_⟩
  intro inner gather opened ended
  have stale := bracket_stale sound outside inner gather
  obtain ⟨generation, items⟩ := bracket_part state gather (List.prefix_refl opened)
  have closing : ended = ((state.run opened).update (.scene .endChanges)).1 :=
    run_concat state opened (.scene .endChanges)
  refine ⟨fun part started => bracket_part state gather started, ?_, ?_⟩
  · intro takes
    rw [closing, ← generation]
    exact endChanges_rebuilds (run_sound sound opened) (stale.mpr takes)
  · intro takes_nothing
    obtain ⟨counted, roots⟩ := endChanges_settles (stale.not.mpr takes_nothing)
    rw [closing, ← generation, ← items]
    exact ⟨counted, congrArg outline roots⟩

def editedTrack : List Message := [
  .scene (.managerInit (.cons { id := 2, name := "Event" }
    (.cons { id := 7, name := "Jets" } .empty
      (.cons { id := 5, name := "Track", typeName := "REveTrack" } .empty .empty)) .empty)),
  .detailPressed "/0/childs/1"]

def jetsLeave : List Message := [
  .scene (.elementsRemoved [99]),
  .scene (.elementsRemoved [7, 98]),
  .scene .beginChanges,
  .scene (.elementChanged ⟨⟨{ id := 2, name := "Event 2" }, .empty⟩, false⟩)]

theorem bracket_rebuilds_once_jets :
    let state := initial.run editedTrack
    let ended := state.run (.scene .beginChanges :: jetsLeave ++ [.scene .endChanges])
    state.editor.editing? = some 5 ∧ ended.summary.generation = state.summary.generation + 1 ∧
      outline ended.summary.roots =
        .cons (2, "/0") (.cons (5, "/0/childs/0") .empty .empty) .empty ∧
      ended.editor.session = none := by
  dsimp only
  have reached : Reached (initial.run editedTrack) := run_reached reached_initial editedTrack
  obtain ⟨_, brackets⟩ := bracket_rebuilds_once reached (by decide +kernel)
  have gather : ∀ message ∈ jetsLeave, Gathers message := by
    intro message member
    simp only [jetsLeave, List.mem_cons, List.not_mem_nil, or_false] at member
    rcases member with rfl | rfl | rfl | rfl
    all_goals exact ⟨nofun, fun _ => nofun⟩
  have takes : BracketTakesAway (initial.run editedTrack) jetsLeave := by
    refine ⟨[.scene (.elementsRemoved [99])], .scene (.elementsRemoved [7, 98]),
      ⟨_, rfl⟩, [7, 98], rfl, 7, by simp, by decide +kernel, by decide +kernel⟩
  obtain ⟨_, rebuilt, _⟩ := brackets jetsLeave gather
  obtain ⟨generation, _, closed⟩ := rebuilt takes
  exact ⟨by decide +kernel, generation, by decide +kernel, closed⟩

end State
end SceneInspector
