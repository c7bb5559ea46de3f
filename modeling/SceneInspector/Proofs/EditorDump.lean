import SceneInspector.Proofs.EditorPlace
import SceneInspector.Proofs.EditorTarget
import SceneInspector.Proofs.RepeatedIds
import SceneInspector.Report

namespace SceneInspector
namespace State
variable {state : State} {id : ElementId} {item : Tree Summary.Item} {tree : Tree Element}

def HasEditor (state : State) (id : ElementId) : Prop :=
  ∃ item tree, state.summary.item? id = some item ∧ item.root.kind = .detailAndActive ∧
    state.scene.element? id = some tree

-- The path of an item leads back to the item, as long as its numbers are machine words.
theorem item_atPath? (wellFormed : state.summary.WellFormed)
    (found : state.summary.item? id = some item)
    (words : ∀ number ∈ item.root.position, number ≤ Text.maxUInt64) :
    state.summary.atPath? item.root.path = some item ∧ item.root.element = id := by
  obtain ⟨position, _, there⟩ := Option.bind_eq_some_iff.mp found
  rw [wellFormed.position there] at words
  exact ⟨wellFormed.atPath? there words, Summary.item_named wellFormed.indexed found⟩

end State

namespace Report
open State
variable {state : State} {id : ElementId} {item : Tree Summary.Item} {tree : Tree Element}

def noEditor (id : ElementId) : Fault :=
  .scene ("element " ++ toString id.toNat ++ " has no editor")

def answer (id : ElementId) (editor : Editor.Panel) : Except Fault String :=
  match editor.session with
  | some session => .ok (editorJson session).pretty
  | none => .error (noEditor id)

theorem editor_unknown (unknown : state.summary.item? id = none) :
    editor state id = (state, .error (.elementNotFound id)) := by
  unfold editor
  rw [unknown]

theorem editor_shown (found : state.summary.item? id = some item) : editor state id =
    ((state.update (.detailPressed item.root.path)).1,
      answer id (state.update (.detailPressed item.root.path)).1.editor) := by
  unfold editor answer
  rw [found]
  dsimp only
  cases (state.update (.detailPressed item.root.path)).1.editor.session with
  | none => rfl
  | some session => rfl

theorem editor_editable (reached : Reached state) (found : state.summary.item? id = some item)
    (words : ∀ number ∈ item.root.position, number ≤ Text.maxUInt64)
    (editable : item.root.kind = .detailAndActive) (live : state.scene.element? id = some tree) :
    let made := state.toolkit.synthesize tree.root
    editor state id =
        (if state.editor.path? = some item.root.path then
          ({ state with editor := .closed }, .error (noEditor id))
        else ({ state with editor := .opened state.toolkit item.root.path tree.root },
          .ok (editorJson ⟨item.root.path, made.1, made.2⟩).pretty)) ∧
      made.1.element = id := by
  intro made
  obtain ⟨shown, named⟩ := item_atPath? (reached_summary reached) found words
  have pressed := press_editable shown editable (by rw [named]; exact live)
  refine ⟨?_, Scene.element?_id (reached_sound reached).indexed live⟩
  rw [editor_shown found, pressed, Editor.Panel.toggle_eq]
  split <;> rfl

theorem editor_uneditable (reached : Reached state) (found : state.summary.item? id = some item)
    (words : ∀ number ∈ item.root.position, number ≤ Text.maxUInt64)
    (uneditable : ¬ HasEditor state id) : editor state id = (state, answer id state.editor) := by
  obtain ⟨shown, named⟩ := item_atPath? (reached_summary reached) found words
  have pressed : (state.update (.detailPressed item.root.path)).1 = state := by
    refine press_uneditable shown fun editable => ?_
    rw [named]
    cases live : state.scene.element? id with
    | none => rfl
    | some tree => exact absurd ⟨item, tree, found, editable, live⟩ uneditable
  rw [editor_shown found, pressed]

structure DumpsAsked (state : State) (id : ElementId) : Prop where
  succeeds : (∃ text, (editor state id).2 = .ok text) ↔ HasEditor state id
  own : ∀ text, (editor state id).2 = .ok text → ∃ session,
    (editor state id).1.editor.session = some session ∧ text = (editorJson session).pretty ∧
      session.model.element = id
  unknown : state.summary.item? id = none → (editor state id).2 = .error (.elementNotFound id)
  refused : state.summary.item? id ≠ none → ¬ HasEditor state id →
    ∃ message, (editor state id).2 = .error (.scene message)

def Unhindered (state : State) (id : ElementId) : Prop :=
  ∀ item, state.summary.item? id = some item →
    (HasEditor state id → state.editor.path? ≠ some item.root.path) ∧
      (¬ HasEditor state id → state.editor.session = none)

theorem unknown_dumped (unknown : state.summary.item? id = none) : DumpsAsked state id := by
  have answered := editor_unknown unknown
  have lacking : ¬ HasEditor state id := by
    rintro ⟨item, tree, shown, _⟩
    cases unknown.symm.trans shown
  refine ⟨?_, ?_, fun _ => by rw [answered], fun shown => absurd unknown shown⟩
  · rw [answered]
    exact iff_of_false nofun lacking
  · rw [answered]
    exact nofun

theorem editable_dumped_iff (reached : Reached state) (found : state.summary.item? id = some item)
    (words : ∀ number ∈ item.root.position, number ≤ Text.maxUInt64) (has : HasEditor state id) :
    DumpsAsked state id ↔ state.editor.path? ≠ some item.root.path := by
  have ⟨other, tree, same, editable, live⟩ := has
  cases found.symm.trans same
  obtain ⟨answered, named⟩ := editor_editable reached found words editable live
  by_cases open_there : state.editor.path? = some item.root.path
  · rw [if_pos open_there] at answered
    refine iff_of_false (fun dumps => ?_) (not_not_intro open_there)
    obtain ⟨text, dumped⟩ := dumps.succeeds.mpr has
    rw [answered] at dumped
    cases dumped
  · rw [if_neg open_there] at answered
    refine iff_of_true ⟨?_, ?_, ?_, fun _ lacking => absurd has lacking⟩ open_there
    · exact iff_of_true ⟨_, by rw [answered]⟩ has
    · intro text dumped
      rw [answered] at dumped ⊢
      cases dumped
      exact ⟨_, rfl, rfl, named⟩
    · intro unknown
      cases found.symm.trans unknown

theorem uneditable_dumped_iff (reached : Reached state)
    (found : state.summary.item? id = some item)
    (words : ∀ number ∈ item.root.position, number ≤ Text.maxUInt64)
    (lacking : ¬ HasEditor state id) :
    DumpsAsked state id ↔ state.editor.session = none := by
  have answered := editor_uneditable reached found words lacking
  cases opened : state.editor.session with
  | none =>
    have refused : (editor state id).2 = .error (noEditor id) := by
      rw [answered, answer, opened]
    refine iff_of_true ⟨?_, ?_, ?_, fun _ _ => ⟨_, refused⟩⟩ rfl
    · rw [refused]
      exact iff_of_false nofun lacking
    · rw [refused]
      exact nofun
    · intro unknown
      cases found.symm.trans unknown
  | some session =>
    have dumped : (editor state id).2 = .ok (editorJson session).pretty := by
      rw [answered, answer, opened]
    exact iff_of_false (fun dumps => lacking (dumps.succeeds.mp ⟨_, dumped⟩)) nofun

theorem dumpsAsked_iff (reached : Reached state)
    (words : ∀ item, state.summary.item? id = some item →
      ∀ number ∈ item.root.position, number ≤ Text.maxUInt64) :
    DumpsAsked state id ↔ Unhindered state id := by
  unfold Unhindered
  cases found : state.summary.item? id with
  | none => exact iff_of_true (unknown_dumped found) nofun
  | some item =>
    have within := words item found
    by_cases has : HasEditor state id
    · simp [editable_dumped_iff reached found within has, has]
    · simp [uneditable_dumped_iff reached found within has, has]

-- What is asked for by an id that no item has is not found. Of an element with an editor that
-- editor is dumped, but if it is open at the item already the press closes it, and it is said that
-- there is none. Of an element without one whatever editor is open is dumped. So the answer is the
-- one that is asked for exactly if neither of the two is in its way.
theorem editor_dump_iff (reached : Reached state) (id : ElementId)
    (words : ∀ item, state.summary.item? id = some item →
      ∀ number ∈ item.root.position, number ≤ Text.maxUInt64) :
    (state.summary.item? id = none → editor state id = (state, .error (.elementNotFound id))) ∧
    (∀ item, state.summary.item? id = some item →
      (∀ tree, item.root.kind = .detailAndActive → state.scene.element? id = some tree →
        let made := state.toolkit.synthesize tree.root
        editor state id =
            (if state.editor.path? = some item.root.path then
              ({ state with editor := .closed }, .error (noEditor id))
            else ({ state with editor := .opened state.toolkit item.root.path tree.root },
              .ok (editorJson ⟨item.root.path, made.1, made.2⟩).pretty)) ∧
          made.1.element = id) ∧
      (¬ HasEditor state id → editor state id = (state, answer id state.editor))) ∧
    (DumpsAsked state id ↔ Unhindered state id) := by
  refine ⟨editor_unknown, fun item found => ⟨fun tree editable live => ?_, fun lacking => ?_⟩,
    dumpsAsked_iff reached words⟩
  · exact editor_editable reached found (words item found) editable live
  · exact editor_uneditable reached found (words item found) lacking

-- The editor of the track was opened by another text of its path, so a press at the path of its
-- item opens it there. The event has no editor, and the one of the track is in its way.
theorem editor_dump_iff_track :
    let state := initial.run trackByOtherPath
    Reached state ∧
      (∀ id item, state.summary.item? id = some item →
        ∀ number ∈ item.root.position, number ≤ Text.maxUInt64) ∧
      DumpsAsked state 5 ∧ ¬ DumpsAsked state 2 ∧
      (editor state 9).2 = .error (.elementNotFound 9) := by
  intro state
  have reached : Reached state := run_reached reached_initial trackByOtherPath
  have words : ∀ id item, state.summary.item? id = some item →
      ∀ number ∈ item.root.position, number ≤ Text.maxUInt64 := by
    intro id item found
    have small : ∀ shown ∈ state.summary.roots.preorder,
        ∀ number ∈ shown.position, number ≤ Text.maxUInt64 := by decide +kernel
    exact small item.root (Summary.item?_mem found)
  obtain ⟨_, _, track⟩ := editor_dump_iff reached 5 (words 5)
  obtain ⟨_, _, event⟩ := editor_dump_iff reached 2 (words 2)
  obtain ⟨unknown, _⟩ := editor_dump_iff reached 9 (words 9)
  have opened : state.editor.path? = some "/00/childs/+1" := by decide +kernel
  have track_item : (state.summary.item? 5).map (fun item => (item.root.kind, item.root.path)) =
      some (.detailAndActive, "/0/childs/1") := by decide +kernel
  have event_item : (state.summary.item? 2).map (·.root.kind) = some .active := by decide +kernel
  obtain ⟨live, held⟩ : ∃ tree, state.scene.element? 5 = some tree :=
    Option.isSome_iff_exists.mp (by decide +kernel)
  refine ⟨reached, words, track.mpr fun item found => ?_, event.not.mpr fun unhindered => ?_, ?_⟩
  · rw [found] at track_item
    obtain ⟨editable, path⟩ := Prod.mk.inj (Option.some.inj track_item)
    refine ⟨fun _ => ?_, fun lacking => absurd ⟨item, live, found, editable, held⟩ lacking⟩
    rw [opened, path]
    decide
  · obtain ⟨item, found, active⟩ := Option.map_eq_some_iff.mp event_item
    have lacking : ¬ HasEditor state 2 := by
      rintro ⟨other, tree, same, editable, _⟩
      cases found.symm.trans same
      cases active.symm.trans editable
    have closed := (unhindered item found).2 lacking
    rw [Editor.Panel.path?, closed] at opened
    cases opened
  · rw [unknown (by decide +kernel)]

theorem dump_of_other_editor :
    ¬ ∀ state, Reached state → ∀ id, DumpsAsked state id := by
  intro always
  let state := initial.run openedTrack
  have dumps : DumpsAsked state 2 := always state (run_reached reached_initial openedTrack) 2
  have given : (editor state 2).2.toBool = true := by decide +kernel
  have active : (state.summary.item? 2).map (·.root.kind) = some .active := by decide +kernel
  cases answered : (editor state 2).2 with
  | error fault =>
    rw [answered] at given
    cases given
  | ok text =>
    obtain ⟨item, _, found, editable, _⟩ := dumps.succeeds.mp ⟨text, answered⟩
    rw [found, Option.map_some, editable] at active
    cases active

end Report
end SceneInspector
