import SceneInspector.Proofs.SessionStep

namespace SceneInspector.Editor.Panel

theorem edit_made {panel editor : Panel} {index : Nat} {event : Control.Event} {call : Call}
    {target : Call.Target} (made : panel.edit index event = (editor, some (call, target))) :
    ∃ session controls, panel.session = some session ∧
      editor.session = some { session with controls } ∧
      target = ⟨session.model.element, session.model.typeName⟩ := by
  unfold edit at made
  split at made
  · cases made
  · rename_i session opened
    split at made
    · rename_i controls call _
      cases made
      exact ⟨session, controls, opened, rfl, rfl⟩
    · cases made

theorem toggle_eq (panel : Panel) (toolkit : Toolkit) (path : String) (element : Element) :
    (panel.toggle toolkit path element).1 =
      if panel.path? = some path then closed else opened toolkit path element := by
  unfold toggle
  cases panel.path? with
  | none => rfl
  | some current => by_cases same : current = path <;> simp [same]

theorem toggle_cases (panel : Panel) (toolkit : Toolkit) (path : String) (element : Element) :
    (panel.toggle toolkit path element).1 = closed ∨
      (panel.toggle toolkit path element).1 = opened toolkit path element := by
  rw [toggle_eq]
  split
  · exact .inl rfl
  · exact .inr rfl

end SceneInspector.Editor.Panel

namespace SceneInspector.State

-- How the open editor stands to the element that it edits, its children aside. The element may be
-- gone. Without an open editor there is nothing to compare.
def Agrees (relation : Editor.Model → Option Element → Prop) (state : State) : Prop :=
  ∀ session, state.editor.session = some session →
    relation session.model ((state.scene.element? session.model.element).map (·.root))

variable {relation : Editor.Model → Option Element → Prop}
variable {state before after : State} {message : Message}

theorem agrees_closed (closed : state.editor.session = none) : Agrees relation state := by
  intro session opened
  rw [closed] at opened
  cases opened

theorem agrees_opened {path : String} {tree : Tree Element}
    (made : relation (state.toolkit.synthesize tree.root).1 (some tree.root))
    (editor : state.editor = .opened state.toolkit path tree.root)
    (live : state.scene.element? tree.root.id = some tree) : Agrees relation state := by
  intro session opened
  rw [editor] at opened
  cases opened
  have named : (state.toolkit.synthesize tree.root).1.element = tree.root.id := rfl
  dsimp only
  rw [named, live]
  exact made

theorem editorAfter_cases (sound : Sound state) (change : Element.Change) :
    (∃ path tree, (state.scene.apply change.snapshot).1.element? tree.root.id = some tree ∧
      state.editorAfter change = .opened state.toolkit path tree.root) ∨
    state.editorAfter change = state.editor ∧
      (state.editor.editing? = some change.snapshot.root.id →
        (state.scene.apply change.snapshot).1.element? change.snapshot.root.id = none) := by
  unfold editorAfter refreshEditor
  dsimp only
  split
  · rename_i editing
    split
    · rename_i tree live
      have indexed := Scene.apply_indexed sound.indexed change.snapshot
      have named : tree.root.id = change.snapshot.root.id := Scene.element?_id indexed live
      obtain ⟨session, opened, edited⟩ := Option.map_eq_some_iff.mp editing
      left
      refine ⟨session.path, tree, by rw [named]; exact live, ?_⟩
      unfold Editor.Panel.refresh
      simp [opened, edited, named]
    · rename_i gone
      exact .inr ⟨rfl, fun _ => gone⟩
  · rename_i other
    exact .inr ⟨rfl, fun editing => absurd editing other⟩

-- Messages that the editor of this element does not follow: a change of another element that
-- brings children, which may be or hold the edited one, and a removal inside a bracket.
def PassesEditor (state : State) (edited : ElementId) (message : Message) : Prop :=
  (∃ change, message = .scene (.elementChanged change) ∧
    state.receives change.snapshot.root.id = true ∧ change.snapshot.root.id ≠ edited ∧
    change.snapshot.children.isEmpty = false) ∨
  ∃ ids, message = .scene (.elementsRemoved ids) ∧ state.inBatch = true

-- The editor stays as it is over such a message, and then it does not go with what the edited id
-- stands for.
def Undermined (relation : Editor.Model → Option Element → Prop) (before : State)
    (message : Message) (after : State) : Prop :=
  ∃ session, before.editor.session = some session ∧ after.editor.session = some session ∧
    PassesEditor before session.model.element message ∧
    ¬ relation session.model ((after.scene.element? session.model.element).map (·.root))

theorem Undermined.not_agrees (undermined : Undermined relation before message after) :
    ¬ Agrees relation after := by
  obtain ⟨session, _, opened, _, differs⟩ := undermined
  exact fun agrees => differs (agrees session opened)

theorem agrees_or_undermined (editor : after.editor = before.editor)
    (passes : ∀ session, before.editor.session = some session →
      PassesEditor before session.model.element message) :
    Agrees relation after ∨ Undermined relation before message after := by
  by_cases agrees : Agrees relation after
  · exact .inl agrees
  · unfold Agrees at agrees
    push Not at agrees
    obtain ⟨session, opened, differs⟩ := agrees
    have before_opened : before.editor.session = some session := by
      rw [← editor]
      exact opened
    exact .inr ⟨session, before_opened, opened, passes session before_opened, differs⟩

theorem Agrees.same (agrees : Agrees relation before) (editor : after.editor = before.editor)
    (live : ∀ session, before.editor.session = some session →
      (after.scene.element? session.model.element).map (·.root) =
        (before.scene.element? session.model.element).map (·.root)) : Agrees relation after := by
  intro session opened
  rw [editor] at opened
  rw [live session opened]
  exact agrees session opened

-- A change that does not refresh the editor leaves alone what the edited id stands for, unless it
-- names another element and brings children.
theorem unrefreshed_agrees (sound : Sound before) (agrees : Agrees relation before)
    {change : Element.Change} (received : before.receives change.snapshot.root.id = true)
    (gone : before.editor.editing? = some change.snapshot.root.id →
      (before.scene.apply change.snapshot).1.element? change.snapshot.root.id = none)
    (scene : after.scene = (before.scene.apply change.snapshot).1)
    (kept : after.editor = before.editor) :
    Agrees relation after ∨ Undermined relation before (.scene (.elementChanged change)) after := by
  cases opened : before.editor.session with
  | none => exact .inl (agrees_closed (by rw [kept]; exact opened))
  | some session =>
    by_cases own : change.snapshot.root.id = session.model.element
    · left
      have editing : before.editor.editing? = some change.snapshot.root.id := by
        rw [Editor.Panel.editing?, opened, own]
        rfl
      refine agrees.same kept fun _ _ => ?_
      rw [scene, Scene.apply_absent sound.indexed (gone editing)]
    cases bare : change.snapshot.children.isEmpty with
    | true =>
      left
      refine agrees.same kept fun other found => ?_
      cases opened.symm.trans found
      rw [scene]
      exact Scene.apply_other sound.indexed bare (Ne.symm own)
    | false =>
      refine agrees_or_undermined kept fun other found => ?_
      cases opened.symm.trans found
      exact .inl ⟨change, rfl, received, own, bare⟩

theorem changed_agrees (sound : Sound before) (agrees : Agrees relation before)
    (fresh : ∀ element, relation (before.toolkit.synthesize element).1 (some element))
    (change : Element.Change) (received : before.receives change.snapshot.root.id = true)
    (summary : Summary) :
    Agrees relation (before.withChange change summary).settleOutsideBatch ∨
      Undermined relation before (.scene (.elementChanged change))
        (before.withChange change summary).settleOutsideBatch := by
  have scene := settleOutsideBatch_scene (before.withChange change summary)
  have toolkit := settleOutsideBatch_toolkit (before.withChange change summary)
  rcases settleOutsideBatch_editor (before.withChange change summary) with closed | ⟨editor, _⟩
  · exact .inl (agrees_closed (by rw [closed]; rfl))
  generalize (before.withChange change summary).settleOutsideBatch = after at scene toolkit editor ⊢
  rcases editorAfter_cases sound change with ⟨path, tree, live, made⟩ | ⟨same, gone⟩
  · left
    have remade : after.editor = .opened after.toolkit path tree.root := by
      rw [editor, toolkit]
      exact made
    have current : after.scene.element? tree.root.id = some tree := by
      rw [scene]
      exact live
    refine agrees_opened ?_ remade current
    rw [toolkit]
    exact fresh tree.root
  · exact unrefreshed_agrees sound agrees received gone scene (editor.trans same)

theorem removed_agrees (sound : Sound before) (agrees : Agrees relation before)
    (removed : List ElementId) :
    Agrees relation (before.withRemoval removed).settleOutsideBatch ∨
      Undermined relation before (.scene (.elementsRemoved removed))
        (before.withRemoval removed).settleOutsideBatch := by
  rcases settleOutsideBatch_editor (before.withRemoval removed) with closed | ⟨kept, due⟩
  · exact .inl (agrees_closed (by rw [closed]; rfl))
  by_cases found : 0 < (before.scene.remove (before.receivedIds removed)).2
  · have inside : before.inBatch = true := due (by simp [withRemoval_eq, found])
    exact agrees_or_undermined kept fun _ _ => .inr ⟨removed, rfl, inside⟩
  · left
    refine agrees.same kept fun _ _ => ?_
    rw [settleOutsideBatch_scene, withRemoval_nothing sound.indexed found]

theorem step_agrees (sound : Sound before) (agrees : Agrees relation before)
    (fresh : ∀ element, relation (before.toolkit.synthesize element).1 (some element))
    (step : Step before message after) :
    Agrees relation after ∨ Undermined relation before message after := by
  cases step with
  | aside fit quitRequested => exact .inl agrees
  | painted inPlace _ => exact .inl agrees
  | @pressed path item tree shown editable live =>
    left
    rcases before.editor.toggle_cases before.toolkit path tree.root with closed | opened
    · exact agrees_closed (by rw [closed]; rfl)
    · have named := Scene.element?_id sound.indexed live
      exact agrees_opened (fresh tree.root) opened (by rw [named]; exact live)
  | edited made =>
    left
    obtain ⟨session, controls, opened, now, _⟩ := Editor.Panel.edit_made made
    intro other found
    rw [now] at found
    cases found
    exact agrees session opened
  | closed => exact .inl (agrees_closed rfl)
  | replaced roots => exact .inl (agrees_closed rfl)
  | began => exact .inl agrees
  | @changed change summary received inPlace =>
    exact changed_agrees sound agrees fresh change received summary
  | removed removed => exact removed_agrees sound agrees removed
  | ended =>
    left
    rcases settle_editor { before with inBatch := false } with closed | kept
    · exact agrees_closed (by rw [closed]; rfl)
    · refine agrees.same kept fun session _ => ?_
      rw [settle_scene]

-- An editor that goes with its element does so for as long as no message undermines it.
theorem run_agrees (sound : Sound state) (agrees : Agrees relation state)
    (fresh : ∀ element, relation (state.toolkit.synthesize element).1 (some element))
    (messages : List Message)
    (firm : ∀ earlier message later, messages = earlier ++ message :: later →
      ¬ Undermined relation (state.run earlier) message (state.run (earlier ++ [message]))) :
    Agrees relation (state.run messages) := by
  induction messages using List.reverseRecOn with
  | nil => exact agrees
  | append_singleton messages message ih =>
    have prior : Agrees relation (state.run messages) := by
      refine ih fun earlier other later split => firm earlier other (later ++ [message]) ?_
      rw [split, List.append_assoc, List.cons_append]
    have step := update_step (state.run messages) message
    rw [← run_concat] at step
    have made : ∀ element,
        relation ((state.run messages).toolkit.synthesize element).1 (some element) := by
      rw [run_toolkit]
      exact fresh
    rcases step_agrees (run_sound sound messages) prior made step with kept | undermined
    · exact kept
    · exact absurd undermined (firm messages message [] rfl)

theorem run_agrees_iff (sound : Sound state) (agrees : Agrees relation state)
    (fresh : ∀ element, relation (state.toolkit.synthesize element).1 (some element))
    (messages : List Message) :
    (∀ earlier, earlier <+: messages → Agrees relation (state.run earlier)) ↔
      ∀ earlier message later, messages = earlier ++ message :: later →
        ¬ Undermined relation (state.run earlier) message (state.run (earlier ++ [message])) := by
  constructor
  · intro always earlier message later split undermined
    exact undermined.not_agrees (always _ ⟨later, by rw [split]; simp⟩)
  · intro firm earlier part
    obtain ⟨rest, split⟩ := part
    refine run_agrees sound agrees fresh earlier fun first message later inner => ?_
    exact firm first message (later ++ rest) (by rw [← split, inner]; simp)

def Pending (relation : Editor.Model → Option Element → Prop) (state : State) : Prop :=
  Agrees relation state ∨ state.summary.stale = true

theorem Pending.agrees (pending : Pending relation state) (sound : Sound state)
    (outside : state.inBatch = false) : Agrees relation state := by
  rcases pending with agrees | stale
  · exact agrees
  · exact absurd stale (by simp [sound.settled outside])

theorem settle_pending (stale : state.summary.stale = true) : Pending relation state.settle := by
  rw [settle_eq, if_pos stale]
  exact .inl (agrees_closed rfl)

theorem settleOutsideBatch_pending (stale : state.summary.stale = true) :
    Pending relation state.settleOutsideBatch := by
  unfold settleOutsideBatch
  split
  · exact .inr stale
  · exact settle_pending stale

theorem stale_pending (stale : before.summary.stale = true) (step : Step before message after) :
    Pending relation after := by
  cases step with
  | aside fit quitRequested => exact .inr stale
  | painted inPlace _ => exact .inr (inPlace.stale.trans stale)
  | pressed shown editable live => exact .inr stale
  | edited made => exact .inr stale
  | closed => exact .inr stale
  | replaced roots => exact .inl (agrees_closed rfl)
  | began => exact .inr stale
  | changed received inPlace => exact settleOutsideBatch_pending (inPlace.stale.trans stale)
  | removed removed =>
    rw [withRemoval_eq]
    exact settleOutsideBatch_pending (by simp [stale])
  | ended => exact settle_pending stale

-- A removal that takes anything away leaves a rebuild due, or has made it.
theorem removed_pending (sound : Sound before) (agrees : Agrees relation before)
    (removed : List ElementId) :
    Pending relation (before.withRemoval removed).settleOutsideBatch := by
  by_cases found : 0 < (before.scene.remove (before.receivedIds removed)).2
  · exact settleOutsideBatch_pending (by simp [withRemoval_eq, found])
  · left
    rcases settleOutsideBatch_editor (before.withRemoval removed) with closed | ⟨kept, _⟩
    · exact agrees_closed (by rw [closed]; rfl)
    · refine agrees.same kept fun session _ => ?_
      rw [settleOutsideBatch_scene, withRemoval_nothing sound.indexed found]

theorem step_pending (sound : Sound before) (pending : Pending relation before)
    (fresh : ∀ element, relation (before.toolkit.synthesize element).1 (some element))
    (step : Step before message after)
    (firm : ∀ change, message = .scene (.elementChanged change) →
      ¬ Undermined relation before message after) : Pending relation after := by
  rcases pending with agrees | stale
  · cases step_agrees sound agrees fresh step with
    | inl kept => exact .inl kept
    | inr undermined =>
      have ⟨_, _, _, passes, _⟩ := undermined
      rcases passes with ⟨change, rfl, _⟩ | ⟨removed, rfl, _⟩
      · exact absurd undermined (firm change rfl)
      · cases step with
        | aside fit quitRequested => exact .inl agrees
        | painted inPlace _ => exact .inl agrees
        | removed _ => exact removed_pending sound agrees removed
  · exact stale_pending stale step

-- Where no rebuild is due, nothing but a change can have undermined the editor.
theorem run_pending (sound : Sound state) (pending : Pending relation state)
    (fresh : ∀ element, relation (state.toolkit.synthesize element).1 (some element))
    (messages : List Message)
    (firm : ∀ earlier change later, messages = earlier ++ .scene (.elementChanged change) :: later →
      ¬ Undermined relation (state.run earlier) (.scene (.elementChanged change))
        (state.run (earlier ++ [.scene (.elementChanged change)]))) :
    Pending relation (state.run messages) := by
  induction messages using List.reverseRecOn with
  | nil => exact pending
  | append_singleton messages message ih =>
    have prior : Pending relation (state.run messages) := by
      refine ih fun earlier change later split => firm earlier change (later ++ [message]) ?_
      rw [split, List.append_assoc, List.cons_append]
    have step := update_step (state.run messages) message
    rw [← run_concat] at step
    refine step_pending (run_sound sound messages) prior ?_ step ?_
    · rw [run_toolkit]
      exact fresh
    · rintro change rfl
      exact firm messages change [] rfl

end SceneInspector.State
