import SceneInspector.Proofs.EditorSession

namespace SceneInspector.State

def Addresses (scene : Scene) (target : Call.Target) : Prop :=
  ∃ tree, scene.element? target.element = some tree ∧ tree.root.typeName = target.typeName

theorem tickActions_live {state : State} (sound : Sound state) (items : List Message.Ticked)
    {call : Call} {target : Call.Target}
    (sent : .invoke call target ∈ state.tickActions items) : Addresses state.scene target := by
  obtain ⟨item, _, made⟩ := List.mem_filterMap.mp sent
  obtain ⟨shown, _, rest⟩ := Option.bind_eq_some_iff.mp made
  obtain ⟨tree, live, answered⟩ := Option.bind_eq_some_iff.mp rest
  cases answered
  have named := Scene.element?_id sound.indexed live
  exact ⟨tree, by rw [← named] at live; exact live, rfl⟩

theorem hoverActions_sends_nothing {state : State} {element : Option ElementId} {call : Call}
    {target : Call.Target} : .invoke call target ∉ state.hoverActions element := by
  unfold hoverActions
  split <;> simp

-- Calls come from the marks of items and from the controls of the editor alone.
theorem invoke_cases {state : State} {message : Message} {call : Call} {target : Call.Target}
    (sent : .invoke call target ∈ (state.update message).2) :
    (∃ items, message = .selectionChanged items ∧ .invoke call target ∈ state.tickActions items) ∨
    ∃ index event editor, message = .controlEdited index event ∧
      state.editor.edit index event = (editor, some (call, target)) := by
  cases message with
  | scene notice => cases notice <;> simp [update, notice] at sent
  | selectionChanged items => exact .inl ⟨items, rfl, sent⟩
  | mouseEnter element => exact absurd sent hoverActions_sends_nothing
  | mouseLeave => exact absurd sent hoverActions_sends_nothing
  | controlEdited index event =>
    right
    unfold update controlEdited at sent
    dsimp only at sent
    split at sent
    · rename_i editor other there made
      simp only [List.mem_singleton, Action.invoke.injEq] at sent
      obtain ⟨rfl, rfl⟩ := sent
      exact ⟨index, event, editor, rfl, made⟩
    · cases sent
  | fit command =>
    simp [update, fitCommand] at sent
  | _ => simp [update] at sent

theorem controlEdited_scene (state : State) (index : Nat) (event : Editor.Control.Event) :
    (state.controlEdited index event).1.scene = state.scene := by
  unfold controlEdited
  split <;> rfl

def TargetLive (state : State) : Prop :=
  ∀ target, state.editor.target? = some target → Addresses state.scene target

def Named (model : Editor.Model) (live : Option Element) : Prop :=
  ∃ element, live = some element ∧ element.typeName = model.typeName

theorem named_iff (scene : Scene) (model : Editor.Model) :
    Named model ((scene.element? model.element).map (·.root)) ↔
      Addresses scene ⟨model.element, model.typeName⟩ := by
  unfold Named Addresses
  constructor
  · rintro ⟨element, live, same⟩
    obtain ⟨tree, found, rfl⟩ := Option.map_eq_some_iff.mp live
    exact ⟨tree, found, same⟩
  · rintro ⟨tree, found, same⟩
    exact ⟨tree.root, by rw [found]; rfl, same⟩

theorem targetLive_iff (state : State) : TargetLive state ↔ Agrees Named state := by
  constructor
  · intro live session opened
    refine (named_iff state.scene session.model).mpr (live _ ?_)
    rw [Editor.Panel.target?, opened]
    rfl
  · intro agrees target made
    obtain ⟨session, opened, rfl⟩ := Option.map_eq_some_iff.mp made
    exact (named_iff state.scene session.model).mp (agrees session opened)

-- The editor stays open over a message that it does not follow, and afterwards the scene does not
-- hold its element, or holds it under another type.
def LosesElement (before : State) (message : Message) (after : State) : Prop :=
  ∃ session, before.editor.session = some session ∧ after.editor.session = some session ∧
    PassesEditor before session.model.element message ∧
    ¬ Addresses after.scene ⟨session.model.element, session.model.typeName⟩

theorem losesElement_of_undermined {before after : State} {message : Message}
    (undermined : Undermined Named before message after) : LosesElement before message after := by
  obtain ⟨session, opened, still, passes, differs⟩ := undermined
  exact ⟨session, opened, still, passes, (named_iff after.scene session.model).not.mp differs⟩

theorem edit_live {state : State} (live : TargetLive state) {index : Nat}
    {event : Editor.Control.Event} {editor : Editor.Panel} {call : Call} {target : Call.Target}
    (made : state.editor.edit index event = (editor, some (call, target))) :
    Addresses state.scene target := by
  obtain ⟨session, controls, opened, _, rfl⟩ := Editor.Panel.edit_made made
  refine live _ ?_
  rw [Editor.Panel.target?, opened]
  rfl

theorem start_targetLive {settings : Settings} {start : State}
    (made : ofSettings settings = .ok start) : TargetLive start := by
  intro target found
  rw [Editor.Panel.target?, start_editor made] at found
  cases found

theorem run_targetLive {state : State} (sound : Sound state) (live : TargetLive state)
    (messages : List Message)
    (kept : ∀ earlier message later, messages = earlier ++ message :: later →
      ¬ LosesElement (state.run earlier) message (state.run (earlier ++ [message]))) :
    TargetLive (state.run messages) := by
  rw [targetLive_iff] at live ⊢
  refine run_agrees sound live (fun element => ⟨element, rfl, rfl⟩) messages ?_
  intro earlier message later split undermined
  exact kept earlier message later split (losesElement_of_undermined undermined)

theorem run_targetLive_outside {state : State} (sound : Sound state) (live : TargetLive state)
    (messages : List Message)
    (kept : ∀ earlier change later, messages = earlier ++ .scene (.elementChanged change) :: later →
      ¬ LosesElement (state.run earlier) (.scene (.elementChanged change))
        (state.run (earlier ++ [.scene (.elementChanged change)])))
    (outside : (state.run messages).inBatch = false) : TargetLive (state.run messages) := by
  rw [targetLive_iff] at live ⊢
  have pending : Pending Named (state.run messages) := by
    refine run_pending sound (.inl live) (fun element => ⟨element, rfl, rfl⟩) messages ?_
    intro earlier change later split undermined
    exact kept earlier change later split (losesElement_of_undermined undermined)
  exact pending.agrees (run_sound sound messages) outside

-- A call for the mark of an item goes to a live element, whatever happened before, and a call for
-- an edit does where the editor names a live element. The editor goes on to name one, from any
-- moment at which it did or was closed, as long as no message makes it lose its element. Outside a
-- bracket only a change can have done that.
theorem calls_reach_live_elements {settings : Settings} {start : State}
    (made : ofSettings settings = .ok start) :
    (∀ messages message call target,
      .invoke call target ∈ ((start.run messages).update message).2 →
      ((∃ index event, message = .controlEdited index event) → TargetLive (start.run messages)) →
      Addresses ((start.run messages).update message).1.scene target) ∧
    TargetLive start ∧
    (∀ before after, TargetLive (start.run before) →
      (∀ earlier message later, after = earlier ++ message :: later →
        ¬ LosesElement (start.run (before ++ earlier)) message
          (start.run (before ++ earlier ++ [message]))) →
      TargetLive (start.run (before ++ after))) ∧
    ∀ before after, TargetLive (start.run before) →
      (∀ earlier change later, after = earlier ++ .scene (.elementChanged change) :: later →
        ¬ LosesElement (start.run (before ++ earlier)) (.scene (.elementChanged change))
          (start.run (before ++ earlier ++ [.scene (.elementChanged change)]))) →
      (start.run (before ++ after)).inBatch = false → TargetLive (start.run (before ++ after)) := by
  have sound := start_sound made
  refine ⟨?_, start_targetLive made, ?_, ?_⟩
  · intro messages message call target sent live
    rcases invoke_cases sent with ⟨items, rfl, ticked⟩ | ⟨index, event, editor, rfl, edited⟩
    · exact tickActions_live (run_sound sound messages) items ticked
    · have here := edit_live (live ⟨index, event, rfl⟩) edited
      rw [← controlEdited_scene (start.run messages) index event] at here
      exact here
  · intro before after live kept
    simp only [List.append_assoc, run_append start before] at live kept ⊢
    exact run_targetLive (run_sound sound before) live after kept
  · intro before after live kept outside
    simp only [List.append_assoc, run_append start before] at live kept outside ⊢
    exact run_targetLive_outside (run_sound sound before) live after kept outside

def openedTrack : List Message := [
  .scene (.managerInit (.cons { id := 2, name := "Event" }
    (.cons { id := 5, name := "Track 1", typeName := "REveTrack" } .empty
      (.cons { id := 7, name := "Jets" } .empty .empty)) .empty)),
  .detailPressed "/0/childs/0"]

theorem calls_reach_live_elements_track :
    let state := initial.run (openedTrack ++ [.scene .beginChanges, .scene (.elementsRemoved [7])])
    .invoke ⟨"Destroy", []⟩ ⟨5, "REveTrack"⟩ ∈ (state.update (.controlEdited 3 .press)).2 ∧
      Addresses (state.update (.controlEdited 3 .press)).1.scene ⟨5, "REveTrack"⟩ := by
  intro state
  obtain ⟨reach, _, stays, _⟩ := calls_reach_live_elements ofSettings_standard
  have addresses {scene : Scene}
      (found : scene.element? 5 =
        some ⟨{ id := 5, name := "Track 1", typeName := "REveTrack" }, .empty⟩) :
      Addresses scene ⟨5, "REveTrack"⟩ := ⟨_, found, rfl⟩
  have before : TargetLive (initial.run openedTrack) := by
    intro target made
    have named : (initial.run openedTrack).editor.target? = some ⟨5, "REveTrack"⟩ := by
      decide +kernel
    cases named.symm.trans made
    exact addresses (by decide +kernel)
  have after : TargetLive state := by
    refine stays openedTrack [.scene .beginChanges, .scene (.elementsRemoved [7])] before ?_
    rintro earlier message later split ⟨session, opened, _, passes, lost⟩
    match earlier, split with
    | [], split =>
      cases split
      rcases passes with ⟨_, other, _⟩ | ⟨_, other, _⟩
      · cases other
      · cases other
    | [_], split =>
      cases split
      have named : ((initial.run (openedTrack ++ [.scene .beginChanges])).editor.target?) =
          some ⟨5, "REveTrack"⟩ := by decide +kernel
      obtain ⟨element, typeName⟩ :
          session.model.element = 5 ∧ session.model.typeName = "REveTrack" := by
        simpa [Editor.Panel.target?, opened] using named
      rw [element, typeName] at lost
      exact lost (addresses (by decide +kernel))
    | _ :: _ :: rest, split => simp at split
  have sent : .invoke ⟨"Destroy", []⟩ ⟨5, "REveTrack"⟩ ∈
      (state.update (.controlEdited 3 .press)).2 := by decide +kernel
  exact ⟨sent, reach _ _ _ _ sent fun _ => after⟩

-- The editor outlives its element inside a bracket, and outside of one when the event comes again
-- without its track.
theorem edit_of_removed_element :
    (¬ ∀ state, Reached state → ∀ message call target,
      .invoke call target ∈ (state.update message).2 →
      Addresses (state.update message).1.scene target) ∧
    ¬ ∀ state, Reached state → state.inBatch = false → ∀ message call target,
      .invoke call target ∈ (state.update message).2 →
      Addresses (state.update message).1.scene target := by
  constructor
  · intro always
    let messages := openedTrack ++ [.scene .beginChanges, .scene (.elementsRemoved [5])]
    have sent : .invoke ⟨"Destroy", []⟩ ⟨5, "REveTrack"⟩ ∈
        ((initial.run messages).update (.controlEdited 3 .press)).2 := by decide +kernel
    have gone : ((initial.run messages).update (.controlEdited 3 .press)).1.scene.element? 5 =
        none := by decide +kernel
    obtain ⟨tree, live, _⟩ := always _ (run_reached reached_initial messages) _ _ _ sent
    cases gone.symm.trans live
  · intro always
    let jets : Forest Element := .cons { id := 7, name := "Jets" } .empty .empty
    let messages := openedTrack ++
      [.scene (.elementChanged ⟨⟨{ id := 2, name := "Event" }, jets⟩, false⟩)]
    have sent : .invoke ⟨"Destroy", []⟩ ⟨5, "REveTrack"⟩ ∈
        ((initial.run messages).update (.controlEdited 3 .press)).2 := by decide +kernel
    have gone : ((initial.run messages).update (.controlEdited 3 .press)).1.scene.element? 5 =
        none := by decide +kernel
    obtain ⟨tree, live, _⟩ :=
      always _ (run_reached reached_initial messages) (by decide +kernel) _ _ _ sent
    cases gone.symm.trans live

end SceneInspector.State
