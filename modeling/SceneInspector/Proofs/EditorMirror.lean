import SceneInspector.Proofs.EditorSession

namespace SceneInspector.State

def EditorCurrent (state : State) : Prop :=
  ∀ session tree, state.editor.session = some session →
    state.scene.element? session.model.element = some tree →
    session.model = (state.toolkit.synthesize tree.root).1

-- The editor stays open over a message that it does not follow, and afterwards its id stands for
-- an element that would be shown in another way.
def RewritesElement (before : State) (message : Message) (after : State) : Prop :=
  ∃ session tree, before.editor.session = some session ∧ after.editor.session = some session ∧
    PassesEditor before session.model.element message ∧
    after.scene.element? session.model.element = some tree ∧
    session.model ≠ (after.toolkit.synthesize tree.root).1

def Mirrors (toolkit : Editor.Toolkit) (model : Editor.Model) (live : Option Element) : Prop :=
  ∀ element, live = some element → model = (toolkit.synthesize element).1

theorem mirrors_iff (toolkit : Editor.Toolkit) (scene : Scene) (model : Editor.Model) :
    Mirrors toolkit model ((scene.element? model.element).map (·.root)) ↔
      ∀ tree, scene.element? model.element = some tree →
        model = (toolkit.synthesize tree.root).1 := by
  constructor
  · intro mirrors tree live
    exact mirrors tree.root (by rw [live]; rfl)
  · intro mirrors element found
    obtain ⟨tree, live, rfl⟩ := Option.map_eq_some_iff.mp found
    exact mirrors tree live

theorem editorCurrent_iff (state : State) :
    EditorCurrent state ↔ Agrees (Mirrors state.toolkit) state := by
  constructor
  · intro current session opened
    rw [mirrors_iff]
    exact fun tree live => current session tree opened live
  · intro agrees session tree opened live
    exact (mirrors_iff state.toolkit state.scene session.model).mp (agrees session opened) tree live

theorem rewritesElement_iff {before after : State} {message : Message} :
    RewritesElement before message after ↔
      Undermined (Mirrors after.toolkit) before message after := by
  constructor
  · rintro ⟨session, tree, opened, still, passes, live, differs⟩
    refine ⟨session, opened, still, passes, fun mirrors => differs ?_⟩
    exact (mirrors_iff after.toolkit after.scene session.model).mp mirrors tree live
  · rintro ⟨session, opened, still, passes, differs⟩
    rw [mirrors_iff] at differs
    push Not at differs
    obtain ⟨tree, live, other⟩ := differs
    exact ⟨session, tree, opened, still, passes, live, other⟩

theorem fresh_mirrors (toolkit : Editor.Toolkit) (element : Element) :
    Mirrors toolkit (toolkit.synthesize element).1 (some element) := by
  intro other same
  cases same
  rfl

-- Where ids do not repeat, what a removal leaves is what was there before.
theorem removal_current {state : State} (sound : Sound state)
    (distinct : (Scene.ids state.scene.roots).Nodup) (current : EditorCurrent state)
    (removed : List ElementId) : EditorCurrent (state.elementsRemoved removed) := by
  rw [elementsRemoved_eq]
  intro session tree opened live
  rw [settleOutsideBatch_scene] at live
  rw [settleOutsideBatch_toolkit]
  rcases settleOutsideBatch_editor (state.withRemoval removed) with closed | ⟨kept, _⟩
  · rw [closed] at opened
    cases opened
  · rw [kept] at opened
    have before := Scene.remove_other sound.indexed distinct live
    obtain ⟨old, found, same⟩ := Option.map_eq_some_iff.mp before
    rw [← same]
    exact current session old opened found

theorem run_current_iff {state : State} (sound : Sound state) (current : EditorCurrent state)
    (messages : List Message) :
    (∀ earlier, earlier <+: messages → EditorCurrent (state.run earlier)) ↔
      ∀ earlier message later, messages = earlier ++ message :: later →
        ¬ RewritesElement (state.run earlier) message (state.run (earlier ++ [message])) := by
  simp only [editorCurrent_iff, rewritesElement_iff, run_toolkit] at current ⊢
  exact run_agrees_iff sound current (fresh_mirrors state.toolkit) messages

theorem run_current_outside {state : State} (sound : Sound state) (current : EditorCurrent state)
    (messages : List Message)
    (kept : ∀ earlier change later, messages = earlier ++ .scene (.elementChanged change) :: later →
      ¬ RewritesElement (state.run earlier) (.scene (.elementChanged change))
        (state.run (earlier ++ [.scene (.elementChanged change)])))
    (outside : (state.run messages).inBatch = false) : EditorCurrent (state.run messages) := by
  simp only [editorCurrent_iff, rewritesElement_iff, run_toolkit] at current kept ⊢
  have pending := run_pending sound (.inl current) (fresh_mirrors state.toolkit) messages kept
  exact pending.agrees (run_sound sound messages) outside

theorem start_current {settings : Settings} {start : State}
    (made : ofSettings settings = .ok start) : EditorCurrent start := by
  intro session tree opened
  rw [start_editor made] at opened
  cases opened

-- An editor that shows what its element is now, be it just opened or closed, goes on to do so for
-- exactly as long as no message rewrites the element without the editor following. Outside a
-- bracket only a change can have done that, and a removal never does where ids do not repeat.
theorem editor_current_until_rewritten {settings : Settings} {start : State}
    (made : ofSettings settings = .ok start) :
    EditorCurrent start ∧
    (∀ before after, EditorCurrent (start.run before) →
      ((∀ earlier, earlier <+: after → EditorCurrent (start.run (before ++ earlier))) ↔
        ∀ earlier message later, after = earlier ++ message :: later →
          ¬ RewritesElement (start.run (before ++ earlier)) message
            (start.run (before ++ earlier ++ [message])))) ∧
    (∀ before after, EditorCurrent (start.run before) →
      (∀ earlier change later, after = earlier ++ .scene (.elementChanged change) :: later →
        ¬ RewritesElement (start.run (before ++ earlier)) (.scene (.elementChanged change))
          (start.run (before ++ earlier ++ [.scene (.elementChanged change)]))) →
      (start.run (before ++ after)).inBatch = false → EditorCurrent (start.run (before ++ after))) ∧
    ∀ messages removed, (Scene.ids (start.run messages).scene.roots).Nodup →
      EditorCurrent (start.run messages) →
      EditorCurrent (start.run (messages ++ [.scene (.elementsRemoved removed)])) := by
  have sound := start_sound made
  refine ⟨start_current made, ?_, ?_, ?_⟩
  · intro before after current
    have iff := run_current_iff (run_sound sound before) current after
    simpa only [run_append] using iff
  · intro before after current kept outside
    simp only [List.append_assoc, run_append start before] at current kept outside ⊢
    exact run_current_outside (run_sound sound before) current after kept outside
  · intro messages removed distinct current
    rw [run_concat]
    exact removal_current (run_sound sound messages) distinct current removed

def eventWith (track : String) : Tree Element :=
  ⟨{ id := 2, name := "Event" },
    .cons { id := 5, name := track, typeName := "REveTrack" } .empty .empty⟩

def trackSentAgain (track : String) : List Message := [
  .scene (.managerInit (Forest.ofTrees [eventWith "Track 1"])),
  .detailPressed "/0/childs/0",
  .scene (.elementChanged ⟨eventWith track, false⟩)]

theorem editor_current_until_rewritten_track :
    EditorCurrent (initial.run (trackSentAgain "Track 1")) ∧
      (initial.run (trackSentAgain "Track 1")).editor.editing? = some 5 := by
  obtain ⟨start, exactly, _, _⟩ := editor_current_until_rewritten ofSettings_standard
  refine ⟨(exactly [] (trackSentAgain "Track 1") start).mpr ?_ _ (List.prefix_refl _),
    by decide +kernel⟩
  rintro earlier message later split ⟨session, tree, opened, _, passes, live, differs⟩
  match earlier, split with
  | [], split =>
    cases split
    rcases passes with ⟨_, other, _⟩ | ⟨_, other, _⟩ <;> cases other
  | [_], split =>
    cases split
    rcases passes with ⟨_, other, _⟩ | ⟨_, other, _⟩ <;> cases other
  | [_, _], split =>
    cases split
    let track : Element := { id := 5, name := "Track 1", typeName := "REveTrack" }
    have shown : (initial.run ((trackSentAgain "Track 1").take 2)).editor.session.map (·.model) =
        some (initial.toolkit.synthesize track).1 := by decide +kernel
    obtain ⟨other, there, model⟩ := Option.map_eq_some_iff.mp shown
    cases opened.symm.trans there
    have found : (initial.run (trackSentAgain "Track 1")).scene.element? 5 =
        some ⟨track, .empty⟩ := by decide +kernel
    rw [model] at live differs
    cases found.symm.trans live
    exact differs (by rw [run_toolkit])
  | _ :: _ :: _ :: rest, split => simp [trackSentAgain] at split

theorem not_current_of_titles {state : State} {id : ElementId} {title : String}
    {tree : Tree Element}
    (shown : state.editor.session.map
      (fun session => (session.model.element, session.model.title)) = some (id, title))
    (live : state.scene.element? id = some tree)
    (other : (state.toolkit.synthesize tree.root).1.title ≠ title) : ¬ EditorCurrent state := by
  intro current
  obtain ⟨session, opened, same⟩ := Option.map_eq_some_iff.mp shown
  obtain ⟨rfl, rfl⟩ := Prod.mk.inj same
  exact other (congrArg Editor.Model.title (current session tree opened live)).symm

def trackRemoved : List Message := [
  .scene (.managerInit (.cons { id := 2, name := "Event" }
    (.cons { id := 5, name := "Track 1", typeName := "REveTrack" } .empty
      (.cons { id := 7, name := "Copies" }
        (.cons { id := 5, name := "Track 2", typeName := "REveTrack" } .empty .empty) .empty))
    .empty)),
  .detailPressed "/0/childs/0",
  .scene .beginChanges,
  .scene (.elementsRemoved [7])]

-- A bracket keeps the editor open over a removal, and a change of another element does not reach
-- it, so that it can keep a title that its element no longer has.
theorem editor_keeps_former_title :
    (¬ ∀ state, Reached state → EditorCurrent state) ∧
      ¬ ∀ state, Reached state → state.inBatch = false →
        (Scene.ids state.scene.roots).Nodup → EditorCurrent state := by
  constructor
  · intro always
    have current := always _ (run_reached reached_initial trackRemoved)
    have shown : (initial.run trackRemoved).editor.session.map
        (fun session => (session.model.element, session.model.title)) =
          some (5, "Track 2 (REveTrack)") := by decide +kernel
    have live : (initial.run trackRemoved).scene.element? 5 =
        some ⟨{ id := 5, name := "Track 1", typeName := "REveTrack" }, .empty⟩ := by decide +kernel
    exact not_current_of_titles shown live (by decide +kernel) current
  · intro always
    have current := always _ (run_reached reached_initial (trackSentAgain "Track 2"))
      (by decide +kernel) (by decide +kernel)
    have shown : (initial.run (trackSentAgain "Track 2")).editor.session.map
        (fun session => (session.model.element, session.model.title)) =
          some (5, "Track 1 (REveTrack)") := by decide +kernel
    have live : (initial.run (trackSentAgain "Track 2")).scene.element? 5 =
        some ⟨{ id := 5, name := "Track 2", typeName := "REveTrack" }, .empty⟩ := by decide +kernel
    exact not_current_of_titles shown live (by decide +kernel) current

end SceneInspector.State
