import SceneInspector.Proofs.EditorEdits
import SceneInspector.Proofs.EditorPlace
import SceneInspector.Proofs.FitHistory

namespace SceneInspector.Fit

def Frame.words : List (String × (Json → Frame)) :=
  [("MODEL:", .model), ("PARS:", .parameters), ("ADVANCED:", .advanced)]

inductive Unusable (text : String) : Prop where
  | unknown (other : ∀ word ∈ Frame.words, ¬ word.1.toList <+: text.toList) : Unusable text
  | unreadable {word : String × (Json → Frame)} {payload : String} (known : word ∈ Frame.words)
      (split : text = word.1 ++ payload) (invalid : Json.read? payload = none) : Unusable text
  | notObject {payload : String} {value : Json}
      (whole : text = "MODEL:" ++ payload ∨ text = "ADVANCED:" ++ payload)
      (read : Json.read? payload = some value) (other : ∀ members, value ≠ .object members) :
      Unusable text

theorem after?_append (start : String) (rest : List Char) :
    after? start (start.toList ++ rest) = some rest := by
  unfold after?
  rw [if_pos (List.isPrefixOf_iff_prefix.mpr (List.prefix_append _ _)), ← String.length_toList,
    List.drop_left]

theorem after?_eq_none {start : String} {text : List Char} (other : ¬ start.toList <+: text) :
    after? start text = none := by
  rw [after?, if_neg (mt List.isPrefixOf_iff_prefix.mp other)]

theorem Frame.parse?_unknown {text : String}
    (other : ∀ word ∈ Frame.words, ¬ word.1.toList <+: text.toList) :
    Frame.parse? text = none := by
  obtain ⟨model, parameters, advanced, _⟩ : _ ∧ _ ∧ _ ∧ _ := by
    simpa only [words, List.forall_mem_cons] using other
  unfold parse?
  rw [after?_eq_none model, after?_eq_none parameters, after?_eq_none advanced]

-- No word begins like another one, so that the order in which they are tried does not matter.
theorem Frame.parse?_known {word : String × (Json → Frame)} (known : word ∈ Frame.words)
    (payload : String) : Frame.parse? (word.1 ++ payload) =
      (Json.read? payload).map fun value => word.2 value.canonical := by
  have read : payload? payload.toList = (Json.read? payload).map Json.canonical := by
    rw [payload?, String.ofList_toList]
  simp only [words, List.mem_cons, List.not_mem_nil, or_false] at known
  unfold parse?
  rw [String.toList_append]
  rcases known with rfl | rfl | rfl
  · rw [after?_append]
    simp [read, Function.comp_def]
  · rw [after?_eq_none (by simp), after?_append]
    simp [read, Function.comp_def]
  · rw [after?_eq_none (by simp), after?_eq_none (by simp), after?_append]
    simp [read, Function.comp_def]

theorem Frame.known_or_unknown (text : String) :
    (∃ word ∈ Frame.words, ∃ payload, text = word.1 ++ payload) ∨
      ∀ word ∈ Frame.words, ¬ word.1.toList <+: text.toList := by
  refine or_iff_not_imp_left.mpr fun unknown word member => ?_
  rintro ⟨rest, split⟩
  refine unknown ⟨word, member, String.ofList rest, ?_⟩
  rw [← String.toList_inj, String.toList_append, String.toList_ofList, split]

namespace Panel
variable {panel : Panel} {text : String}

theorem receive_unusable (unusable : Unusable text) : panel.receive text = (panel, false) := by
  unfold receive
  cases unusable with
  | unknown other => rw [Frame.parse?_unknown other]
  | unreadable known split invalid =>
    rw [split, Frame.parse?_known known, invalid]
    rfl
  | @notObject payload value whole read other =>
    rcases whole with rfl | rfl
    · have known : ("MODEL:", Frame.model) ∈ Frame.words := by simp [Frame.words]
      rw [Frame.parse?_known known, read]
      cases value with
      | object members => exact absurd rfl (other members)
      | _ => rfl
    · have known : ("ADVANCED:", Frame.advanced) ∈ Frame.words := by simp [Frame.words]
      rw [Frame.parse?_known known, read]
      cases value with
      | object members => exact absurd rfl (other members)
      | _ => rfl

theorem receive_usable (usable : ¬ Unusable text) : (panel.receive text).2 = true := by
  rcases Frame.known_or_unknown text with ⟨word, known, payload, split⟩ | unknown
  · cases read : Json.read? payload with
    | none => exact absurd (.unreadable known split read) usable
    | some value =>
      have parsed := Frame.parse?_known known payload
      rw [read, ← split] at parsed
      unfold receive
      rw [parsed]
      simp only [Frame.words, List.mem_cons, List.not_mem_nil, or_false] at known
      rcases known with rfl | rfl | rfl
      · by_cases object : ∃ members, value = .object members
        · obtain ⟨members, rfl⟩ := object
          rfl
        · exact absurd (.notObject (.inl split) read (not_exists.mp object)) usable
      · rfl
      · by_cases object : ∃ members, value = .object members
        · obtain ⟨members, rfl⟩ := object
          rfl
        · exact absurd (.notObject (.inr split) read (not_exists.mp object)) usable
  · exact absurd (.unknown unknown) usable

theorem receive_false_iff : (panel.receive text).2 = false ↔ Unusable text := by
  constructor
  · intro refused
    by_contra usable
    rw [receive_usable usable] at refused
    cases refused
  · intro unusable
    rw [receive_unusable unusable]

end Panel
end SceneInspector.Fit

namespace SceneInspector.Summary
variable {summary : Summary} {id : ElementId}

theorem change_absent {position : Position} (absent : summary.roots.tree? position = none)
    (edit : Item → Item) : summary.change position edit = summary := by
  rw [change, Forest.modify_absent absent]

-- An element that is not shown cannot be painted, wherever the index has it.
theorem select_unshown (unshown : summary.item? id = none) (selection : Element) :
    (summary.select selection id).1 = summary := by
  unfold select
  split
  · rename_i position known
    have absent : summary.roots.tree? position = none := by
      simpa [item?, known] using unshown
    exact change_absent absent fun item => { item with paint := .ofSelection selection }
  · rfl

theorem unselect_unshown (unshown : summary.item? id = none) (selection : Element) :
    (summary.unselect selection id).1 = summary := by
  rw [unselect, unshown]
  cases summary.index[id]? <;> rfl

end SceneInspector.Summary

namespace SceneInspector.Editor

theorem Control.edit_sent_iff (control : Control) (event : Control.Event) :
    (control.edit event).2.isSome = true ↔ Control.Takes control.handler.kind event := by
  rw [← Control.arguments?_isSome_iff]
  unfold Control.edit Control.Handler.encode?
  cases control.handler.arguments? event <;> simp

namespace Panel
variable {index : Nat} {event : Control.Event}

def control? (panel : Panel) (index : Nat) : Option Control :=
  panel.controls.find? fun control => control.index = index

theorem editControl_sent (index : Nat) (event : Control.Event) (controls : List Control) :
    (editControl index event controls).2 =
      (controls.find? fun control => control.index = index).bind fun control =>
        (control.edit event).2 := by
  induction controls with
  | nil => rfl
  | cons first rest ih =>
    unfold editControl
    by_cases here : first.index = index
    · simp [here]
    · simp [here, ih]

theorem edit_sent (panel : Panel) (index : Nat) (event : Control.Event) :
    (panel.edit index event).2.map Prod.fst =
      (panel.control? index).bind fun control => (control.edit event).2 := by
  unfold edit control? controls
  cases panel.session with
  | none => rfl
  | some session =>
    dsimp only [Option.elim]
    rw [← editControl_sent]
    split
    · rename_i made
      rw [made]
      rfl
    · rename_i made
      rw [made]
      rfl

theorem edit_unsent {panel : Panel} (unsent : (panel.edit index event).2 = none) :
    panel.edit index event = (panel, none) := by
  unfold edit at unsent ⊢
  split at unsent
  · rfl
  · split at unsent
    · cases unsent
    · rfl

theorem edit_refused_iff (panel : Panel) (index : Nat) (event : Control.Event) :
    panel.edit index event = (panel, none) ↔
      ∀ control, panel.control? index = some control →
        ¬ Control.Takes control.handler.kind event := by
  have sent := panel.edit_sent index event
  have unsent : (panel.edit index event).2 = none ↔
      ∀ control, panel.control? index = some control → (control.edit event).2 = none := by
    rw [← Option.map_eq_none_iff, sent, Option.bind_eq_none_iff]
  simp only [← Control.edit_sent_iff, Option.not_isSome_iff_eq_none, ← unsent]
  exact ⟨fun unedited => by rw [unedited], edit_unsent⟩

theorem toggle_moves (panel : Panel) (toolkit : Toolkit) (path : String) (element : Element) :
    (panel.toggle toolkit path element).1 ≠ panel := by
  rw [toggle_eq]
  intro same
  split at same
  · rename_i there
    rw [← same] at there
    cases there
  · rename_i elsewhere
    rw [← same] at elsewhere
    exact elsewhere rfl

end Panel
end SceneInspector.Editor

namespace SceneInspector.State
variable {state : State} {message : Message}

inductive Refused (state : State) : Message → Prop where
  | nowhere {path : String} (nothing : state.summary.atPath? path = none) :
      Refused state (.detailPressed path)
  | uneditable {path : String} {item : Tree Summary.Item}
      (shown : state.summary.atPath? path = some item)
      (plain : item.root.kind ≠ .detailAndActive) : Refused state (.detailPressed path)
  | gone {path : String} {item : Tree Summary.Item}
      (shown : state.summary.atPath? path = some item)
      (dead : state.scene.element? item.root.element = none) : Refused state (.detailPressed path)
  | unopened {index : Nat} {event : Editor.Control.Event} (closed : state.editor.session = none) :
      Refused state (.controlEdited index event)
  | missing {index : Nat} {event : Editor.Control.Event}
      (absent : ∀ control ∈ state.editor.controls, control.index ≠ index) :
      Refused state (.controlEdited index event)
  | untaken {index : Nat} {event : Editor.Control.Event} {control : Editor.Control}
      (addressed : state.editor.control? index = some control)
      (unfit : ¬ Editor.Control.Takes control.handler.kind event) :
      Refused state (.controlEdited index event)
  | unselectable {selection element : ElementId}
      (lacking : state.scene.element? selection = none ∨ state.summary.item? element = none) :
      Refused state (.selectElement selection element)
  | ununselectable {selection element : ElementId}
      (lacking : state.scene.element? selection = none ∨ state.summary.item? element = none) :
      Refused state (.unselectElement selection element)
  | outside {change : Element.Change}
      (unreceived : state.receives change.snapshot.root.id = false) :
      Refused state (.scene (.elementChanged change))
  | unusable {text : String} (unusable : Fit.Unusable text) : Refused state (.panel text)
  | first (first : state.fit.cursor = 0) : Refused state (.fit .back)
  | blank (blank : state.fit.history = []) : Refused state (.fit .reset)

inductive Asks : Message → Prop where
  | ticked (items : List Message.Ticked) : Asks (.selectionChanged items)
  | entered (element : ElementId) : Asks (.mouseEnter element)
  | left : Asks .mouseLeave

inductive Moves : Message → Prop where
  | press (path : String) : Moves (.detailPressed path)
  | edit (index : Nat) (event : Editor.Control.Event) : Moves (.controlEdited index event)
  | back : Moves (.fit .back)

theorem press_refused_iff (state : State) (path : String) :
    state.detailPressed path = state ↔ Refused state (.detailPressed path) := by
  constructor
  · intro unmoved
    cases shown : state.summary.atPath? path with
    | none => exact .nowhere shown
    | some item =>
      by_cases editable : item.root.kind = .detailAndActive
      · cases live : state.scene.element? item.root.element with
        | none => exact .gone shown live
        | some tree =>
          have pressed := press_editable shown editable live
          have same := congrArg State.editor (pressed.symm.trans unmoved)
          exact absurd same (Editor.Panel.toggle_moves _ _ _ _)
      · exact .uneditable shown editable
  · intro refused
    cases refused with
    | nowhere nothing => rw [detailPressed, nothing]
    | uneditable shown plain => exact press_uneditable shown fun editable => absurd editable plain
    | gone shown dead => exact press_uneditable shown fun _ => dead

theorem edit_refused_iff (state : State) (index : Nat) (event : Editor.Control.Event) :
    state.controlEdited index event = (state, []) ↔ Refused state (.controlEdited index event) := by
  have edited : state.controlEdited index event = (state, []) ↔
      state.editor.edit index event = (state.editor, none) := by
    unfold controlEdited
    split
    · rename_i made
      rw [made]
      simp
    · rename_i unsent
      have none_sent : (state.editor.edit index event).2 = none := by rw [unsent]
      exact iff_of_true rfl (Editor.Panel.edit_unsent none_sent)
  rw [edited, Editor.Panel.edit_refused_iff]
  constructor
  · intro untaken
    cases addressed : state.editor.control? index with
    | none =>
      refine .missing fun control member same => ?_
      have other := List.find?_eq_none.mp addressed control member
      simp [same] at other
    | some control => exact .untaken addressed (untaken control addressed)
  · intro refused control addressed
    cases refused with
    | unopened closed =>
      rw [Editor.Panel.control?, Editor.Panel.controls, closed] at addressed
      cases addressed
    | missing absent =>
      have there := List.find?_some addressed
      exact absurd (by simpa using there) (absent control (List.mem_of_find?_eq_some addressed))
    | untaken same unfit =>
      cases same.symm.trans addressed
      exact unfit

theorem back_refused_iff (panel : Fit.Panel) : panel.back.1 = panel ↔ panel.cursor = 0 := by
  constructor
  · intro unmoved
    by_contra above
    have lower : panel.back.1.cursor = panel.cursor - 1 := by
      unfold Fit.Panel.back
      rw [if_neg above]
      dsimp only
      split <;> rfl
    rw [unmoved] at lower
    omega
  · intro first
    rw [Fit.Panel.back_first first]

theorem select_refused {selection element : ElementId}
    (lacking : state.scene.element? selection = none ∨ state.summary.item? element = none) :
    state.select selection element = state := by
  unfold select
  split
  · rename_i tree live
    have unshown := lacking.resolve_left fun absent => nomatch absent.symm.trans live
    rw [Summary.select_unshown unshown]
  · rfl

theorem unselect_refused {selection element : ElementId}
    (lacking : state.scene.element? selection = none ∨ state.summary.item? element = none) :
    state.unselect selection element = state := by
  unfold unselect
  split
  · rename_i tree live
    have unshown := lacking.resolve_left fun absent => nomatch absent.symm.trans live
    rw [Summary.unselect_unshown unshown]
  · rfl

theorem update_refused (refused : Refused state message) : state.update message = (state, []) := by
  cases message with
  | scene notice =>
    cases notice with
    | elementChanged change =>
      cases refused with
      | outside unreceived =>
        exact congrArg (·, []) (elementChanged_refused (by simpa using unreceived))
    | _ => cases refused
  | panel text =>
    cases refused with
    | unusable unusable =>
      show ({ state with fit := (state.fit.receive text).1 }, []) = _
      rw [Fit.Panel.receive_unusable unusable]
  | selectElement selection element =>
    cases refused with
    | unselectable lacking => exact congrArg (·, []) (select_refused lacking)
  | unselectElement selection element =>
    cases refused with
    | ununselectable lacking => exact congrArg (·, []) (unselect_refused lacking)
  | detailPressed path => exact congrArg (·, []) ((press_refused_iff state path).mpr refused)
  | controlEdited index event => exact (edit_refused_iff state index event).mpr refused
  | fit command =>
    cases refused with
    | first first =>
      show ({ state with fit := state.fit.back.1 }, []) = _
      rw [Fit.Panel.back_first first]
    | blank blank =>
      show ({ state with fit := state.fit.reset.1 }, []) = _
      rw [Fit.Panel.reset, blank]
  | _ => cases refused

theorem asks_unchanged (asks : Asks message) : (state.update message).1 = state := by
  cases asks <;> rfl

theorem moves_unless_refused (moves : Moves message)
    (unmoved : state.update message = (state, [])) : Refused state message := by
  cases moves with
  | press path => exact (press_refused_iff state path).mp (congrArg Prod.fst unmoved)
  | edit index event => exact (edit_refused_iff state index event).mp unmoved
  | back =>
    have same : state.fit.back.1 = state.fit := congrArg (fun done => done.1.fit) unmoved
    exact .first ((back_refused_iff state.fit).mp same)

-- A message that is refused sends nothing and leaves everything as it was, however late its refusal
-- is found, and one that only asks changes nothing in any case. Nor is more refused than is said
-- here: every other press, edit and step back does something, and every other frame is taken.
theorem refused_unchanged (state : State) :
    (∀ message, Refused state message → state.update message = (state, [])) ∧
    (∀ message, Asks message → (state.update message).1 = state) ∧
    (∀ message, Moves message → state.update message = (state, []) → Refused state message) ∧
    ∀ text, (state.fit.receive text).2 = false ↔ Refused state (.panel text) := by
  refine ⟨fun _ => update_refused, fun _ => asks_unchanged, fun _ => moves_unless_refused, ?_⟩
  intro text
  rw [Fit.Panel.receive_false_iff]
  constructor
  · exact .unusable
  · intro refused
    cases refused with
    | unusable unusable => exact unusable

-- A track with its editor open. Inside the bracket the jets beside it are gone from the scene.
def openedInBracket : List Message := [
  .scene (.managerInit (.cons { id := 1, name := "World" }
    (.cons { id := 2, name := "Viewers" } .empty
      (.cons { id := 3, name := "Selections" } .empty
        (.cons { id := 4, name := "Scenes" }
          (.cons { id := 10, name := "Event scene" }
            (.cons { id := 12, name := "Track", typeName := "REveTrack" } .empty
              (.cons { id := 14, name := "Jets", typeName := "REveJetCone" } .empty .empty))
            .empty)
          .empty))) .empty)),
  .detailPressed "/0/childs/2/childs/0/childs/0",
  .scene .beginChanges,
  .scene (.elementsRemoved [14])]

def refusedThen : List Message := [
  .detailPressed "/0/childs/2/childs/0/childs/1", .controlEdited 2 (.number "wide"),
  .selectElement 14 12, .scene (.elementChanged ⟨⟨{ id := 2, name := "Views" }, .empty⟩, false⟩),
  .panel "ADVANCED:[1]", .fit .back]

theorem refused_unchanged_bracket :
    let state := initial.run openedInBracket
    state.editor.isVisible = true ∧ state.inBatch = true ∧
      ∀ message ∈ refusedThen, state.update message = (state, []) := by
  intro state
  obtain ⟨refused, _⟩ := refused_unchanged state
  refine ⟨by decide +kernel, by decide +kernel, ?_⟩
  have jets : (state.summary.atPath? "/0/childs/2/childs/0/childs/1").map (fun item =>
      (state.scene.element? item.root.element).isNone) = some true := by decide +kernel
  have width : (state.editor.control? 2).map (·.handler.kind) = some .number := by decide +kernel
  simp only [refusedThen, List.forall_mem_cons]
  refine ⟨refused _ ?_, refused _ ?_, refused _ ?_, refused _ ?_, refused _ ?_, refused _ ?_, nofun⟩
  · obtain ⟨item, shown, dead⟩ := Option.map_eq_some_iff.mp jets
    exact .gone shown (Option.isNone_iff_eq_none.mp dead)
  · obtain ⟨control, addressed, number⟩ := Option.map_eq_some_iff.mp width
    refine .untaken addressed ?_
    rw [number]
    rintro ⟨_, value, typed, _⟩
    have untyped : Editor.Control.typedNumber? "wide" = none := by decide +kernel
    cases untyped.symm.trans typed
  · exact .unselectable (.inl (by decide +kernel))
  · exact .outside (by decide +kernel)
  · have one : Json.read? "[1]" = some (.array [.integer 1]) := by decide +kernel
    exact .unusable (.notObject (.inr rfl) one nofun)
  · exact .first (by decide +kernel)

end SceneInspector.State
