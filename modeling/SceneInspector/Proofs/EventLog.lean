import SceneInspector.Proofs.SessionStep
import SceneInspector.Session.Engine

namespace SceneInspector

-- What a listener knows of a session from its events and from nothing else: how often the summary
-- was made, the element and the path of the open editor, and the length and the cursor of the
-- history of fits.
structure Account where
  generation : Nat := 0
  editor : Option (ElementId × String) := none
  fitHistory : Nat × Nat := (0, 0)
deriving DecidableEq, Repr

def State.account (state : State) : Account where
  generation := state.summary.generation
  editor := state.editor.session.map fun session => (session.model.element, session.path)
  fitHistory := (state.fit.history.length, state.fit.cursor)

namespace Account

def hear (account : Account) : Event → Account
  | .summaryRebuilt generation _ => { account with generation }
  | .editorOpened element path _ _ => { account with editor := some (element, path) }
  | .editorClosed _ => { account with editor := none }
  | .fitHistoryChanged length cursor => { account with fitHistory := (length, cursor) }

def hearAll (account : Account) (events : List Event) : Account := events.foldl hear account

-- The events that make sense after what is known: summaries are counted one by one, only the
-- editor that is open closes, none opens over another, and a history is told of when it differs.
def Admits (account : Account) : Event → Prop
  | .summaryRebuilt generation _ => generation = account.generation + 1
  | .editorOpened .. => account.editor = none
  | .editorClosed element => ∃ path, account.editor = some (element, path)
  | .fitHistoryChanged length cursor => (length, cursor) ≠ account.fitHistory

def AdmitsAll (account : Account) : List Event → Prop
  | [] => True
  | event :: later => account.Admits event ∧ (account.hear event).AdmitsAll later

structure Tells (earlier : Account) (events : List Event) (later : Account) : Prop where
  admitted : earlier.AdmitsAll events
  heard : earlier.hearAll events = later

theorem Tells.nothing (account : Account) : Tells account [] account := ⟨trivial, rfl⟩

theorem Tells.one {account : Account} {event : Event} (admitted : account.Admits event) :
    Tells account [event] (account.hear event) :=
  ⟨⟨admitted, trivial⟩, rfl⟩

theorem Tells.append {first second third : Account} {earlier later : List Event}
    (told : Tells first earlier second) (onward : Tells second later third) :
    Tells first (earlier ++ later) third := by
  induction earlier generalizing first with
  | nil =>
    obtain ⟨_, rfl⟩ := told
    exact onward
  | cons event rest ih =>
    obtain ⟨⟨admitted, rest_admitted⟩, heard⟩ := told
    have both := ih ⟨rest_admitted, heard⟩
    exact ⟨⟨admitted, both.admitted⟩, both.heard⟩

section
variable {account : Account} {before after : State}

theorem tells_ofSummary (known : account.generation = before.summary.generation)
    (counted : after.summary.generation = before.summary.generation ∨
      after.summary.generation = before.summary.generation + 1) :
    Tells account (Event.ofSummary before.glimpse after)
      { account with generation := after.summary.generation } := by
  unfold Event.ofSummary
  split
  · rename_i same
    have same : after.summary.generation = account.generation := same.trans known.symm
    rw [same]
    exact .nothing account
  · rename_i differs
    refine .one ?_
    show after.summary.generation = account.generation + 1
    rw [known]
    exact counted.resolve_left differs

theorem editor_of_glimpse (editing : after.glimpse.editing = before.glimpse.editing)
    (path : after.glimpse.path = before.glimpse.path) :
    after.account.editor = before.account.editor := by
  simp only [State.glimpse, Editor.Panel.editing?, Editor.Panel.path?] at editing path
  unfold State.account
  cases now : after.editor.session with
  | none =>
    cases earlier : before.editor.session with
    | none => rfl
    | some session => simp [now, earlier] at editing
  | some shown =>
    cases earlier : before.editor.session with
    | none => simp [now, earlier] at editing
    | some session =>
      rw [now, earlier] at editing path
      exact congrArg some (Prod.ext (Option.some.inj editing) (Option.some.inj path))

theorem tells_closed (known : account.editor = before.account.editor) :
    Tells account (before.glimpse.editing.map Event.editorClosed).toList
      { account with editor := none } := by
  unfold State.account at known
  unfold State.glimpse Editor.Panel.editing?
  cases session : before.editor.session with
  | none =>
    have closed : account.editor = none := by rw [known, session]; rfl
    rw [← closed]
    exact .nothing account
  | some shown =>
    refine .one ⟨shown.path, ?_⟩
    rw [known, session]
    rfl

theorem tells_opened (closed : account.editor = none) :
    Tells account (Event.opened? after).toList { account with editor := after.account.editor } := by
  unfold Event.opened? State.account
  cases after.editor.session with
  | none =>
    have still : { account with editor := none } = account := by rw [← closed]
    exact still ▸ .nothing account
  | some session => exact .one closed

theorem tells_ofEditor (known : account.editor = before.account.editor) :
    Tells account (Event.ofEditor before.glimpse after)
      { account with editor := after.account.editor } := by
  unfold Event.ofEditor
  split
  · rename_i same
    rw [editor_of_glimpse same.1 same.2, ← known]
    exact .nothing account
  · exact (tells_closed known).append (tells_opened rfl)

theorem tells_ofFit (known : account.fitHistory = before.account.fitHistory) :
    Tells account (Event.ofFit before.glimpse after)
      { account with fitHistory := after.account.fitHistory } := by
  unfold Event.ofFit
  split
  · rename_i same
    have same : after.account.fitHistory = account.fitHistory := same.trans known.symm
    rw [same]
    exact .nothing account
  · rename_i differs
    refine .one ?_
    show after.account.fitHistory ≠ account.fitHistory
    rw [known]
    exact differs

-- The difference of two states is told in full, if the summary was made at most once between them.
theorem tells_between (counted : after.summary.generation = before.summary.generation ∨
      after.summary.generation = before.summary.generation + 1) :
    Tells before.account (Event.between before.glimpse after) after.account :=
  ((tells_ofSummary rfl counted).append (tells_ofEditor rfl)).append (tells_ofFit rfl)

end

end Account

namespace Event

def rebuild? : Event → Option (Nat × Nat)
  | .summaryRebuilt generation nodes => some (generation, nodes)
  | _ => none

def rebuilds (events : List Event) : List (Nat × Nat) := events.filterMap rebuild?

theorem rebuilds_between (before : Glimpse) (after : State) :
    rebuilds (between before after) =
      if after.summary.generation = before.generation then []
      else [(after.summary.generation, after.summary.size)] := by
  have of_editor : (ofEditor before after).filterMap rebuild? = [] := by
    unfold ofEditor opened?
    split
    · rfl
    · cases before.editing <;> cases after.editor.session <;> rfl
  have of_fit : (ofFit before after).filterMap rebuild? = [] := by
    unfold ofFit
    split <;> rfl
  rw [rebuilds, between, List.filterMap_append, List.filterMap_append, of_editor, of_fit,
    List.append_nil, List.append_nil, ofSummary]
  exact apply_ite (List.filterMap rebuild?) _ _ _

end Event

namespace Engine
open Account Event

def event? : Output → Option Event
  | .event event => some event
  | .handed _ => none

def events (outputs : List Output) : List Event := outputs.filterMap event?

theorem events_append (earlier later : List Output) :
    events (earlier ++ later) = events earlier ++ events later :=
  List.filterMap_append

theorem performAll_state (engine : Engine) (actions : List Action) :
    (engine.performAll actions).1.state = engine.state := by
  induction actions generalizing engine with
  | nil => rfl
  | cons action rest ih =>
    have once : (engine.perform action).1.state = engine.state := by cases action <;> rfl
    exact (ih _).trans once

theorem process_state (engine : Engine) (message : Message) :
    (engine.process message).1.state = (engine.state.update message).1 :=
  performAll_state _ _

theorem process_events (engine : Engine) (message : Message) :
    events (engine.process message).2 =
      Event.between engine.state.glimpse (engine.state.update message).1 := by
  have silent (handed : List Handed) : events (handed.map .handed) = [] := by
    rw [events, List.filterMap_map]
    exact List.filterMap_eq_nil_iff.mpr fun _ _ => rfl
  have told (told : List Event) : events (told.map .event) = told := by
    rw [events, List.filterMap_map]
    exact List.filterMap_some
  rw [← process_state]
  unfold process
  rw [events_append, silent, told]
  rfl

theorem process_tells (engine : Engine) (message : Message) :
    Tells engine.state.account (events (engine.process message).2)
      (engine.process message).1.state.account := by
  rw [process_events, process_state]
  refine tells_between ?_
  rcases State.step_rebuilds (State.update_step engine.state message) with steady | rebuilt
  · exact .inl steady.1
  · exact .inr (congrArg Summary.generation rebuilt.1)

theorem processAll_tells (engine : Engine) (messages : List Message) :
    Tells engine.state.account (events (engine.processAll messages).2)
      (engine.processAll messages).1.state.account := by
  induction messages generalizing engine with
  | nil => exact .nothing _
  | cons message rest ih =>
    have told := (process_tells engine message).append (ih (engine.process message).1)
    rw [← events_append] at told
    exact told

def ReportsRebuild (before after : State) (told : List Event) : Prop :=
  after.summary.generation = before.summary.generation ∧
      after.summary.roots.map Summary.Item.place = before.summary.roots.map Summary.Item.place ∧
      rebuilds told = [] ∨
    after.summary = before.summary.rebuild after.catalogue after.scene.roots ∧
      rebuilds told = [(before.summary.generation + 1, after.summary.size)]

theorem process_reports (engine : Engine) (message : Message) :
    ReportsRebuild engine.state (engine.process message).1.state
      (events (engine.process message).2) := by
  rw [process_events, process_state]
  have reported := rebuilds_between engine.state.glimpse (engine.state.update message).1
  rcases State.step_rebuilds (State.update_step engine.state message) with
    ⟨generation, places⟩ | ⟨rebuilt, _⟩
  · exact .inl ⟨generation, places, reported.trans (if_pos generation)⟩
  · have generation : (engine.state.update message).1.summary.generation =
        engine.state.summary.generation + 1 := congrArg Summary.generation rebuilt
    refine .inr ⟨rebuilt, reported.trans ?_⟩
    rw [← generation, if_neg]
    exact fun same => Nat.succ_ne_self _ (generation.symm.trans same)

theorem start_eq {settings : Settings} {transport : Transport} {engine : Engine}
    (made : ofSettings settings transport = .ok engine) :
    ∃ toolkit, engine = ofState (.ofToolkit settings toolkit) transport := by
  unfold ofSettings at made
  split at made
  · rename_i state started
    obtain ⟨toolkit, rfl⟩ := State.start_eq started
    cases made
    exact ⟨toolkit, rfl⟩
  · cases made

theorem start_account {settings : Settings} {transport : Transport} {engine : Engine}
    (made : ofSettings settings transport = .ok engine) : engine.state.account = {} := by
  obtain ⟨toolkit, rfl⟩ := start_eq made
  rfl

-- Whoever hears all events of a session from its start knows after each message what the state is
-- in this respect, no event contradicts what is known, and each making of the summary is told once.
theorem events_tell_all {settings : Settings} {transport : Transport} {engine : Engine}
    (made : ofSettings settings transport = .ok engine) (messages : List Message) :
    let processed := engine.processAll messages
    Account.hearAll {} (events processed.2) = processed.1.state.account ∧
    Account.AdmitsAll {} (events processed.2) ∧
    ∀ message : Message,
      let next := processed.1.process message
      ReportsRebuild processed.1.state next.1.state (events next.2) := by
  intro processed
  obtain ⟨admitted, heard⟩ := processAll_tells engine messages
  rw [start_account made] at admitted heard
  exact ⟨heard, admitted, process_reports processed.1⟩

def trackEdited : List Message := [
  .scene (.managerInit (.cons { id := 2, name := "Event" }
    (.cons { id := 7, name := "Jets" } .empty
      (.cons { id := 5, name := "Track", typeName := "REveTrack" } .empty .empty)) .empty)),
  .detailPressed "/0/childs/1"]

theorem events_tell_all_track :
    let processed := (ofState State.initial .open).processAll trackEdited
    let next := processed.1.process (.scene (.elementsRemoved [7]))
    Account.hearAll {} (events processed.2) = ⟨1, some (5, "/0/childs/1"), (0, 0)⟩ ∧
      rebuilds (events processed.2) = [(1, 3)] ∧
      rebuilds (events next.2) = [(2, 2)] ∧ Event.editorClosed 5 ∈ events next.2 := by
  intro processed next
  have made : ofSettings {} .open = .ok (ofState State.initial .open) := rfl
  obtain ⟨heard, _, reports⟩ := events_tell_all made trackEdited
  refine ⟨heard.trans (by decide +kernel), by decide +kernel, ?_, by decide +kernel⟩
  rcases reports (.scene (.elementsRemoved [7])) with ⟨steady, _⟩ | ⟨_, told⟩
  · exact absurd steady (by decide +kernel)
  · exact told.trans (by decide +kernel)

end Engine
end SceneInspector
