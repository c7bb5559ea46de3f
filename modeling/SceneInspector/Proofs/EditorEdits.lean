import Mathlib.Data.List.Sigma
import SceneInspector.Proofs.EditorSynthesis
import SceneInspector.Session.State

namespace SceneInspector.Editor
open Schema

def Control.Takes (kind : ValueKind) : Control.Event → Prop
  | .number typed =>
    kind = .number ∧ ∃ value, typedNumber? typed = some value ∧ value.isFinite = true
  | .text _ => kind = .string
  | .toggle _ => kind = .bool
  | .colour picked => kind = .colour ∧ ∃ rgb, Colour.parse? picked = some rgb
  | .press => kind = .action

inductive Control.Edits (control : Control) :
    Control.Event → List Call.Argument → Control → Prop where
  | number {old value : Binary64} {typed : String} (shown : control.display = .numberInput old)
      (read : typedNumber? typed = some value) (finite : value.isFinite = true) :
      Edits control (.number typed) [.number value] { control with display := .numberInput value }
  | text {old : String} {width : UInt32} (shown : control.display = .textInput old width)
      (text : String) :
      Edits control (.text text) [if control.handler.quoted then .quoted text else .verbatim text]
        { control with display := .textInput text width }
  | toggle {old : Bool} (shown : control.display = .toggle old) (checked : Bool) :
      Edits control (.toggle checked) [.bool checked] { control with display := .toggle checked }
  | colour {palette : List String} {default picked : String} {rgb : Colour.Rgb}
      (shown : control.display = .colourSwatch palette default)
      (read : Colour.parse? picked = some rgb) :
      Edits control (.colour picked) [.byte rgb.red, .byte rgb.green, .byte rgb.blue]
        { control with style := { control.style with background := some picked } }
  | press : Edits control .press [] control

-- The control of a record in a row, whatever value of its kind it shows by now.
def Control.MadeFrom (factory : Factory) (labelWidth : Nat) (place : Record × Nat)
    (control : Control) : Prop :=
  ∃ value : Value, value.kind = place.1.entry.kind ∧
    BuiltFrom factory labelWidth ({ place.1 with value }, place.2) control

namespace Control
variable {factory : Factory} {labelWidth : Nat} {place : Record × Nat} {control : Control}
  {event : Control.Event}

theorem MadeFrom.index (made : MadeFrom factory labelWidth place control) :
    control.index = place.2 := by
  obtain ⟨_, _, built⟩ := made
  exact built.index

theorem MadeFrom.verb (made : MadeFrom factory labelWidth place control) :
    control.handler.verb = place.1.entry.verb := by
  obtain ⟨_, _, built⟩ := made
  exact built.verb

theorem MadeFrom.kind (made : MadeFrom factory labelWidth place control) :
    control.handler.kind = place.1.entry.kind := by
  obtain ⟨_, _, built⟩ := made
  exact built.kind

theorem MadeFrom.indexes {places : List (Record × Nat)} {controls : List Control}
    (made : List.Forall₂ (MadeFrom factory labelWidth) places controls) :
    controls.map (·.index) = places.map Prod.snd := by
  induction made with
  | nil => rfl
  | cons here _ ih => rw [List.map_cons, List.map_cons, here.index, ih]

theorem arguments?_isSome_iff (handler : Handler) (event : Event) :
    (handler.arguments? event).isSome = true ↔ Takes handler.kind event := by
  unfold Handler.arguments? Takes
  cases event with
  | number typed =>
    cases handler.kind with
    | number =>
      cases read : typedNumber? typed with
      | none => simp [read]
      | some value => cases finite : value.isFinite <;> simp [read, finite]
    | _ => simp
  | text text => cases handler.kind <;> simp
  | toggle checked => cases handler.kind <;> simp
  | colour picked =>
    cases handler.kind with
    | colour => cases read : Colour.parse? picked <;> simp [read]
    | _ => simp
  | press => cases handler.kind <;> simp

-- What the handler sends fits what the control shows, as both were made from one record.
theorem showing_edits (made : MadeFrom factory labelWidth place control)
    {arguments : List Call.Argument} (sent : control.handler.arguments? event = some arguments) :
    Edits control event arguments (control.showing event) := by
  obtain ⟨value, kind, built⟩ := made
  have wanted : control.handler.kind = value.kind := built.kind.trans kind.symm
  have shows := built.shows
  obtain ⟨row, label, display, ⟨width, paint⟩, verb, _, quoted⟩ := control
  subst wanted
  change Shows factory value display paint at shows
  cases shows with
  | number old =>
    cases event with
    | number typed =>
      have taken := (arguments?_isSome_iff _ _).mp (Option.isSome_of_eq_some sent)
      obtain ⟨_, value, read, finite⟩ := taken
      obtain rfl : [.number value] = arguments := by
        simpa [Handler.arguments?, Value.kind, read, finite] using sent
      simp only [showing, read]
      exact .number rfl read finite
    | _ => cases sent
  | string old =>
    cases event with
    | text text =>
      cases sent
      exact .text rfl text
    | _ => cases sent
  | bool old =>
    cases event with
    | toggle checked =>
      cases sent
      exact .toggle rfl checked
    | _ => cases sent
  | colour old =>
    cases event with
    | colour picked =>
      obtain ⟨rgb, read, rfl⟩ := Option.map_eq_some_iff.mp sent
      exact .colour rfl read
    | _ => cases sent
  | action =>
    cases event with
    | press =>
      cases sent
      exact .press
    | _ => cases sent

theorem Edits.madeFrom {arguments : List Call.Argument} {edited : Control}
    (edits : Edits control event arguments edited)
    (made : MadeFrom factory labelWidth place control) :
    MadeFrom factory labelWidth place edited := by
  obtain ⟨value, kind, built⟩ := made
  have shows := built.shows
  obtain ⟨row, label, display, ⟨width, paint⟩, handler⟩ := control
  change Shows factory value display paint at shows
  cases edits with
  | @number _ value _ shown =>
    cases shown
    cases shows
    exact ⟨.number value, kind, { built with shows := .number value }⟩
  | text shown text =>
    cases shown
    cases shows
    exact ⟨.string text, kind, { built with shows := .string text }⟩
  | toggle shown checked =>
    cases shown
    cases shows
    exact ⟨.bool checked, kind, { built with shows := .bool checked }⟩
  | @colour _ _ picked _ shown =>
    cases shown
    cases shows
    exact ⟨.colour (some picked), kind, { built with shows := .colour (some picked) }⟩
  | press => exact ⟨value, kind, built⟩

theorem edit_cases (made : MadeFrom factory labelWidth place control) (event : Event) :
    ¬ Takes place.1.entry.kind event ∧ control.edit event = (control, none) ∨
    Takes place.1.entry.kind event ∧ ∃ arguments edited,
      control.edit event = (edited, some ⟨place.1.entry.verb, arguments⟩) ∧
        Edits control event arguments edited := by
  have taken := arguments?_isSome_iff control.handler event
  rw [made.kind] at taken
  unfold edit Handler.encode?
  cases sent : control.handler.arguments? event with
  | none => exact .inl ⟨by simpa [sent] using taken, rfl⟩
  | some arguments =>
    refine .inr ⟨taken.mp (by simp [sent]), arguments, _, ?_, showing_edits made sent⟩
    rw [← made.verb]
    rfl

end Control

def Session.Made (factory : Factory) (session : Session) : Prop :=
  List.Forall₂ (Control.MadeFrom factory session.model.maxLabelWidth)
    (supported session.model.records.zipIdx) session.controls

def Session.Takes (factory : Factory) (session : Session) (index : Nat) (event : Control.Event) :
    Prop :=
  ∃ record control, session.model.records[index]? = some record ∧ control ∈ session.controls ∧
    Control.MadeFrom factory session.model.maxLabelWidth (record, index) control ∧
    Control.Takes record.entry.kind event

inductive Session.Edits (factory : Factory) (session : Session) (index : Nat)
    (event : Control.Event) : Call → Session → Prop where
  | row {record : Record} {left right : List Control} {control edited : Control}
      {arguments : List Call.Argument} (listed : session.model.records[index]? = some record)
      (controls : session.controls = left ++ control :: right)
      (others : ∀ other ∈ left ++ right, other.index ≠ index)
      (made : Control.MadeFrom factory session.model.maxLabelWidth (record, index) control)
      (edits : control.Edits event arguments edited) :
      Edits factory session index event ⟨record.entry.verb, arguments⟩
        { session with controls := left ++ edited :: right }

section
variable {α β : Type} {R : α → β → Prop}

theorem forall₂_middle {places : List α} {left right : List β} {control : β}
    (made : List.Forall₂ R places (left ++ control :: right)) :
    ∃ before place after, places = before ++ place :: after ∧
      List.Forall₂ R before left ∧ R place control ∧ List.Forall₂ R after right := by
  induction left generalizing places with
  | nil =>
    obtain ⟨place, after, here, rest, rfl⟩ := List.forall₂_cons_right_iff.mp made
    exact ⟨[], place, after, rfl, .nil, here, rest⟩
  | cons first left ih =>
    obtain ⟨place, others, here, rest, rfl⟩ := List.forall₂_cons_right_iff.mp made
    obtain ⟨before, middle, after, rfl, earlier, there, later⟩ := ih rest
    exact ⟨place :: before, middle, after, rfl, .cons here earlier, there, later⟩

end

namespace Session
variable {factory : Factory} {session : Session}

theorem Made.indexes_nodup (made : session.Made factory) :
    (session.controls.map (·.index)).Nodup := by
  rw [Control.MadeFrom.indexes made]
  exact (List.nodup_zipIdx_map_snd _).sublist (List.filter_sublist.map _)

-- A control stands for one row, and no other control does.
theorem Made.row (made : session.Made factory) {left right : List Control} {control : Control}
    (controls : session.controls = left ++ control :: right) :
    (∀ other ∈ left ++ right, other.index ≠ control.index) ∧
    ∃ record, session.model.records[control.index]? = some record ∧
      Control.MadeFrom factory session.model.maxLabelWidth (record, control.index) control ∧
      ∀ edited, Control.MadeFrom factory session.model.maxLabelWidth (record, control.index) edited →
        Made factory { session with controls := left ++ edited :: right } := by
  constructor
  · have distinct := made.indexes_nodup
    rw [controls, List.map_append, List.map_cons, List.nodup_middle, ← List.map_append] at distinct
    intro other member same
    exact (List.nodup_cons.mp distinct).1 (List.mem_map.mpr ⟨other, member, same⟩)
  · unfold Made at made
    rw [controls] at made
    obtain ⟨before, ⟨record, index⟩, after, places, earlier, here, later⟩ := forall₂_middle made
    obtain rfl : control.index = index := here.index
    have listed : (record, control.index) ∈ session.model.records.zipIdx :=
      List.mem_of_mem_filter (places ▸ List.mem_append_right _ List.mem_cons_self)
    refine ⟨record, List.mem_zipIdx_iff_getElem?.mp listed, here, ?_⟩
    intro edited there
    unfold Made
    rw [places]
    exact List.rel_append earlier (.cons there later)

end Session

theorem Toolkit.synthesize_made (toolkit : Toolkit) (path : String) (element : Element) :
    Session.Made toolkit.factory
      ⟨path, (toolkit.synthesize element).1, (toolkit.synthesize element).2⟩ := by
  have kinds : ∀ place ∈ supported (toolkit.synthesize element).1.records.zipIdx,
      place.1.value.kind = place.1.entry.kind := by
    intro place member
    exact toolkit.synthesize_kind element _
      (List.fst_mem_of_mem_zipIdx (List.mem_of_mem_filter member))
  have built := Factory.controlsFrom_built toolkit.factory
    (toolkit.synthesize element).1.maxLabelWidth 0 (toolkit.synthesize_kind element)
  exact ((List.forall₂_and_left _ _).mpr ⟨kinds, built⟩).imp fun place control from_row =>
    ⟨place.1.value, from_row.1, from_row.2⟩

namespace Panel
variable {factory : Factory} {panel : Panel} {session : Session}

theorem editControl_cases (index : Nat) (event : Control.Event) (controls : List Control) :
    (∀ control ∈ controls, control.index ≠ index) ∧
      editControl index event controls = (controls, none) ∨
    ∃ left control right, controls = left ++ control :: right ∧ control.index = index ∧
      editControl index event controls =
        (left ++ (control.edit event).1 :: right, (control.edit event).2) := by
  induction controls with
  | nil => exact .inl ⟨nofun, rfl⟩
  | cons first rest ih =>
    rw [editControl]
    split
    · rename_i here
      exact .inr ⟨[], first, rest, rfl, here, rfl⟩
    · rename_i elsewhere
      rcases ih with ⟨absent, unedited⟩ | ⟨left, control, right, rfl, there, edited⟩
      · rw [unedited]
        exact .inl ⟨List.forall_mem_cons.mpr ⟨elsewhere, absent⟩, rfl⟩
      · rw [edited]
        exact .inr ⟨first :: left, control, right, rfl, there, rfl⟩

theorem edit_cases (opened : panel.session = some session) (made : session.Made factory)
    (index : Nat) (event : Control.Event) :
    ¬ session.Takes factory index event ∧ panel.edit index event = (panel, none) ∨
    session.Takes factory index event ∧ ∃ call after,
      panel.edit index event =
        (⟨some after⟩, some (call, ⟨session.model.element, session.model.typeName⟩)) ∧
      session.Edits factory index event call after ∧ after.Made factory := by
  unfold edit
  rw [opened]
  rcases editControl_cases index event session.controls with
    ⟨absent, unedited⟩ | ⟨left, control, right, controls, rfl, edited⟩
  · refine .inl ⟨?_, by simp only [unedited]⟩
    rintro ⟨record, control, _, member, from_row, _⟩
    exact absent control member from_row.index
  · obtain ⟨others, record, listed, from_row, put⟩ := made.row controls
    rcases Control.edit_cases from_row event with
      ⟨misfit, unedited⟩ | ⟨fits, arguments, now, called, edits⟩
    · rw [unedited] at edited
      refine .inl ⟨?_, by simp only [edited]⟩
      rintro ⟨other, _, found, _, _, fits⟩
      cases listed.symm.trans found
      exact misfit fits
    · rw [called] at edited
      simp only [edited]
      have member : control ∈ session.controls := by simp [controls]
      exact .inr ⟨⟨record, control, listed, member, from_row, fits⟩, _, _, rfl,
        .row listed controls others from_row edits, put now (edits.madeFrom from_row)⟩

theorem toggle_opened (toolkit : Toolkit) {path : String} {element : Element}
    (shown : (panel.toggle toolkit path element).2 ≠ .closed) :
    (panel.toggle toolkit path element).1 = opened toolkit path element := by
  unfold toggle at shown ⊢
  split at shown
  · rfl
  · split at shown
    · exact absurd rfl shown
    · rename_i other
      rw [if_neg other]

def editAll (panel : Panel) (edits : List (Nat × Control.Event)) : Panel :=
  edits.foldl (fun panel edit => (panel.edit edit.1 edit.2).1) panel

theorem editAll_made {path : String} {model : Model} {controls : List Control}
    (opened : panel.session = some ⟨path, model, controls⟩)
    (made : Session.Made factory ⟨path, model, controls⟩) (edits : List (Nat × Control.Event)) :
    ∃ later, (panel.editAll edits).session = some ⟨path, model, later⟩ ∧
      Session.Made factory ⟨path, model, later⟩ := by
  induction edits generalizing panel controls with
  | nil => exact ⟨controls, opened, made⟩
  | cons edit rest ih =>
    rw [editAll, List.foldl_cons, ← editAll]
    rcases edit_cases opened made edit.1 edit.2 with
      ⟨_, unedited⟩ | ⟨_, call, after, edited, edits, still⟩
    · rw [unedited]
      exact ih opened made
    · rw [edited]
      cases edits
      exact ih rfl still

-- The edits of an opened editor, whatever was edited before. What a user enters is sent exactly if
-- the row has a control that takes it, and the control shows it then.
theorem edit_exact {toolkit : Toolkit} {path : String} {element : Element}
    (shown : (panel.toggle toolkit path element).2 ≠ .closed)
    (earlier : List (Nat × Control.Event)) (index : Nat) (event : Control.Event) :
    let before := (panel.toggle toolkit path element).1.editAll earlier
    let edited := before.edit index event
    ∃ session, before.session = some session ∧ session.path = path ∧
      session.model = (toolkit.synthesize element).1 ∧
      (edited.2.isSome = true ↔ session.Takes toolkit.factory index event) ∧
      (edited.2 = none → edited.1 = before) ∧
      ∀ call target, edited.2 = some (call, target) → target = ⟨element.id, element.typeName⟩ ∧
        ∃ after, edited.1 = ⟨some after⟩ ∧ session.Edits toolkit.factory index event call after := by
  intro before edited
  have start : (panel.toggle toolkit path element).1.session =
      some ⟨path, (toolkit.synthesize element).1, (toolkit.synthesize element).2⟩ := by
    rw [toggle_opened toolkit shown]
    rfl
  obtain ⟨controls, open_now, made⟩ :=
    editAll_made start (toolkit.synthesize_made path element) earlier
  refine ⟨_, open_now, rfl, rfl, ?_⟩
  rcases edit_cases open_now made index event with
    ⟨untaken, now⟩ | ⟨taken, call, after, now, edits, _⟩
  · have unedited : edited = (before, none) := now
    rw [unedited]
    refine ⟨iff_of_false (by simp) untaken, fun _ => rfl, ?_⟩
    intro call target sent
    cases sent
  · have sent : edited = (⟨some after⟩, some (call, ⟨element.id, element.typeName⟩)) := now
    rw [sent]
    refine ⟨iff_of_true rfl taken, nofun, ?_⟩
    intro call target same
    cases same
    exact ⟨rfl, after, rfl, edits⟩

theorem edit_exact_width :
    let track : Element := { id := 5, name := "Track 1", typeName := "REveTrack" }
    let shown := closed.toggle State.standardToolkit "/0" track
    let before := shown.1.editAll [(1, .colour "gold"), (2, .number "wide")]
    let edited := before.edit 2 (.number " 3 ")
    shown.2 ≠ .closed ∧ (edited.2.map fun sent => sent.1.command) = some "SetLineWidth( 3 )" ∧
      ∃ session call after, before.session = some session ∧
        edited = (⟨some after⟩, some (call, ⟨5, "REveTrack"⟩)) ∧
        session.Edits State.standardToolkit.factory 2 (.number " 3 ") call after := by
  intro track shown before edited
  have opens : shown.2 ≠ .closed := by decide +kernel
  have command : (edited.2.map fun sent => sent.1.command) = some "SetLineWidth( 3 )" := by
    decide +kernel
  obtain ⟨session, open_now, _, _, _, _, called⟩ :=
    edit_exact opens [(1, .colour "gold"), (2, .number "wide")] 2 (.number " 3 ")
  obtain ⟨⟨call, target⟩, sent, _⟩ := Option.map_eq_some_iff.mp command
  obtain ⟨rfl, after, now, edits⟩ := called call target sent
  exact ⟨opens, command, session, call, after, open_now, Prod.ext now sent, edits⟩

end Panel
end SceneInspector.Editor
