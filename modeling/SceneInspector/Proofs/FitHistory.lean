import SceneInspector.Fit.Panel

namespace SceneInspector.Fit

-- An undo stack: the snapshots before the one that is shown, the latest first, then that one, and
-- those after it. It is blank until something is recorded.
inductive UndoStack where
  | blank
  | showing (earlier : List Model) (shown : Model) (later : List Model)

namespace UndoStack

def snapshots : UndoStack → List Model
  | .blank => []
  | .showing earlier shown later => earlier.reverse ++ shown :: later

def depth : UndoStack → Nat
  | .blank => 0
  | .showing earlier _ _ => earlier.length

def shown? : UndoStack → Option Model
  | .blank => none
  | .showing _ shown _ => some shown

def restart (model : Model) : UndoStack := .showing [] model []

def record (model : Model) : UndoStack → UndoStack
  | .blank => .restart model
  | .showing earlier shown _ => .showing (shown :: earlier) model []

def undo : UndoStack → UndoStack
  | .showing (previous :: earlier) shown later => .showing earlier previous (shown :: later)
  | stack => stack

def undone (shown : Model) (later : List Model) : List Model → UndoStack
  | [] => .showing [] shown later
  | previous :: earlier => undone previous (shown :: later) earlier

def undoAll : UndoStack → UndoStack
  | .blank => .blank
  | .showing earlier shown later => undone shown later earlier

theorem getElem?_depth (stack : UndoStack) : stack.snapshots[stack.depth]? = stack.shown? := by
  cases stack with
  | blank => rfl
  | showing earlier shown later => simp [snapshots, depth, shown?]

theorem eq_blank {stack : UndoStack} (nothing : stack.snapshots = []) : stack = .blank := by
  cases stack with
  | blank => rfl
  | showing earlier shown later => simp [snapshots] at nothing

theorem depth_lt (stack : UndoStack) (some_snapshot : stack.snapshots ≠ []) :
    stack.depth < stack.snapshots.length := by
  cases stack with
  | blank => exact absurd rfl some_snapshot
  | showing earlier shown later => simp [snapshots, depth]

theorem snapshots_undo (stack : UndoStack) : stack.undo.snapshots = stack.snapshots := by
  match stack with
  | .blank => rfl
  | .showing [] shown later => rfl
  | .showing (previous :: earlier) shown later => simp [undo, snapshots]

theorem depth_undo (stack : UndoStack) : stack.undo.depth = stack.depth - 1 := by
  match stack with
  | .blank => rfl
  | .showing [] shown later => rfl
  | .showing (previous :: earlier) shown later => rfl

theorem shown?_undo (stack : UndoStack) (above : stack.depth ≠ 0) :
    stack.undo.shown? = stack.snapshots[stack.depth - 1]? ∧ stack.undo.shown?.isSome = true := by
  match stack with
  | .blank => exact absurd rfl above
  | .showing [] shown later => exact absurd rfl above
  | .showing (previous :: earlier) shown later =>
    exact ⟨by simp [undo, snapshots, depth, shown?], rfl⟩

theorem snapshots_undone (shown : Model) (later earlier : List Model) :
    (undone shown later earlier).snapshots = earlier.reverse ++ shown :: later := by
  induction earlier generalizing shown later with
  | nil => rfl
  | cons previous earlier ih => simp [undone, ih]

theorem depth_undone (shown : Model) (later earlier : List Model) :
    (undone shown later earlier).depth = 0 := by
  induction earlier generalizing shown later with
  | nil => rfl
  | cons previous earlier ih => exact ih previous (shown :: later)

theorem snapshots_undoAll (stack : UndoStack) : stack.undoAll.snapshots = stack.snapshots := by
  cases stack with
  | blank => rfl
  | showing earlier shown later => exact snapshots_undone shown later earlier

theorem depth_undoAll (stack : UndoStack) : stack.undoAll.depth = 0 := by
  cases stack with
  | blank => rfl
  | showing earlier shown later => exact depth_undone shown later earlier

theorem snapshots_record (stack : UndoStack) (model : Model) :
    (stack.record model).snapshots = stack.snapshots.take (stack.depth + 1) ++ [model] := by
  cases stack with
  | blank => rfl
  | showing earlier shown later =>
    simp [record, snapshots, depth, List.take_append, List.take_of_length_le]

@[simp] theorem shown?_record (stack : UndoStack) (model : Model) :
    (stack.record model).shown? = some model := by
  cases stack <;> rfl

theorem depth_record (stack : UndoStack) (model : Model) :
    (stack.record model).depth = (stack.snapshots.take (stack.depth + 1)).length := by
  cases stack with
  | blank => rfl
  | showing earlier shown later => simp [record, snapshots, depth]

end UndoStack

namespace Panel
variable {panel before after : Panel} {stack : UndoStack}

inductive Reached : Panel → Prop where
  | start : Reached .initial
  | received {panel : Panel} (prior : Reached panel) (text : String) :
      Reached (panel.receive text).1
  | performed {panel : Panel} (prior : Reached panel) (command : Command) :
      Reached (panel.perform command).1

structure Follows (panel : Panel) (stack : UndoStack) : Prop where
  history : panel.history = stack.snapshots
  cursor : panel.cursor = stack.depth

def AtSnapshot (panel : Panel) : Prop := panel.history[panel.cursor]? = some panel.model

def SameHistory (before after : Panel) : Prop :=
  after.history = before.history ∧ after.cursor = before.cursor

theorem Follows.shown (follows : panel.Follows stack) :
    panel.history[panel.cursor]? = stack.shown? := by
  rw [follows.history, follows.cursor]
  exact stack.getElem?_depth

theorem Follows.same (follows : before.Follows stack) (same : SameHistory before after) :
    after.Follows stack :=
  ⟨same.1.trans follows.history, same.2.trans follows.cursor⟩

theorem record_follows (follows : panel.Follows stack) :
    panel.record.Follows (stack.record panel.model) := by
  constructor
  · rw [UndoStack.snapshots_record, ← follows.history, ← follows.cursor]
    rfl
  · rw [UndoStack.depth_record, ← follows.history, ← follows.cursor]
    rfl

-- Setting members of the model leaves the history alone, and what is recorded is then the model.
theorem doFit_recorded (panel : Panel) (inputs : Inputs) :
    ∃ asked, SameHistory panel asked ∧ (panel.doFit inputs).1 = asked.record :=
  ⟨{ (panel.doFit inputs).1 with history := panel.history, cursor := panel.cursor },
    ⟨rfl, rfl⟩, rfl⟩

theorem doFit_follows (follows : panel.Follows stack) (inputs : Inputs) :
    (panel.doFit inputs).1.Follows (stack.record (panel.doFit inputs).1.model) := by
  obtain ⟨asked, same, recorded⟩ := panel.doFit_recorded inputs
  rw [recorded]
  exact record_follows (follows.same same)

theorem exists_previous (follows : panel.Follows stack) (above : panel.cursor ≠ 0) :
    ∃ model, panel.history[panel.cursor - 1]? = some model := by
  rw [follows.cursor] at above
  obtain ⟨there, some_model⟩ := stack.shown?_undo above
  rw [follows.history, follows.cursor, ← there]
  exact Option.isSome_iff_exists.mp some_model

theorem back_first (first : panel.cursor = 0) : panel.back = (panel, false) := if_pos first

theorem back_above (follows : panel.Follows stack) (above : panel.cursor ≠ 0) :
    ∃ model, panel.history[panel.cursor - 1]? = some model ∧
      panel.back = ({ panel with model, cursor := panel.cursor - 1 }, true) := by
  obtain ⟨model, found⟩ := exists_previous follows above
  refine ⟨model, found, ?_⟩
  unfold back
  rw [if_neg above]
  dsimp only
  rw [found]

theorem back_follows (follows : panel.Follows stack) : panel.back.1.Follows stack.undo := by
  have moved : panel.back.1.history = panel.history ∧ panel.back.1.cursor = panel.cursor - 1 := by
    by_cases first : panel.cursor = 0
    · rw [back_first first]
      exact ⟨rfl, by rw [first]⟩
    · obtain ⟨model, _, back⟩ := back_above follows first
      rw [back]
      exact ⟨rfl, rfl⟩
  constructor
  · rw [moved.1, stack.snapshots_undo, follows.history]
  · rw [moved.2, stack.depth_undo, follows.cursor]

theorem reset_cases (panel : Panel) :
    panel.history = [] ∧ panel.reset = (panel, false) ∨
      ∃ first rest, panel.history = first :: rest ∧ panel.reset.2 = true ∧
        panel.reset.1.model = first ∧ panel.reset.1.history = panel.history ∧
        panel.reset.1.cursor = 0 := by
  unfold reset
  split
  · rename_i blank
    exact .inl ⟨blank, rfl⟩
  · rename_i first rest recorded
    exact .inr ⟨first, rest, recorded, rfl, rfl, rfl, rfl⟩

theorem reset_follows (follows : panel.Follows stack) : panel.reset.1.Follows stack.undoAll := by
  rcases panel.reset_cases with ⟨blank, stays⟩ | ⟨first, rest, _, _, _, history, cursor⟩
  · obtain rfl : stack = .blank := UndoStack.eq_blank (follows.history.symm.trans blank)
    rw [stays]
    exact follows
  · exact ⟨by rw [history, stack.snapshots_undoAll, follows.history],
      by rw [cursor, stack.depth_undoAll]⟩

def IsModel (text : String) : Prop :=
  ∃ received, Frame.parse? text = some (.model (.object received))

theorem receive_model (panel : Panel) {text : String} (model : IsModel text) :
    ∃ received, panel.receive text =
      ({ panel with model := derived received, history := [derived received], cursor := 0 },
        true) := by
  obtain ⟨received, parsed⟩ := model
  refine ⟨received, ?_⟩
  unfold receive
  rw [parsed]

theorem receive_other {text : String} (other : ¬ IsModel text) :
    SameHistory panel (panel.receive text).1 := by
  unfold receive
  split
  · rename_i received parsed
    exact absurd ⟨received, parsed⟩ other
  · exact ⟨rfl, rfl⟩
  · exact ⟨rfl, rfl⟩
  · exact ⟨rfl, rfl⟩

def MovesHistory : Command → Prop
  | .doFit _ | .reset | .back => True
  | _ => False

theorem perform_other {command : Command} (other : ¬ MovesHistory command) :
    SameHistory panel (panel.perform command).1 := by
  cases command with
  | doFit inputs => exact absurd trivial other
  | reset => exact absurd trivial other
  | back => exact absurd trivial other
  | drawContour request =>
    unfold perform drawContour
    dsimp only
    split <;> exact ⟨rfl, rfl⟩
  | _ => exact ⟨rfl, rfl⟩

theorem reached_follows (reached : Reached panel) : ∃ stack, panel.Follows stack := by
  induction reached with
  | start => exact ⟨.blank, rfl, rfl⟩
  | @received panel _ text ih =>
    obtain ⟨stack, follows⟩ := ih
    by_cases model : IsModel text
    · obtain ⟨received, taken⟩ := panel.receive_model model
      rw [taken]
      exact ⟨.restart (derived received), rfl, rfl⟩
    · exact ⟨stack, follows.same (receive_other model)⟩
  | @performed panel _ command ih =>
    obtain ⟨stack, follows⟩ := ih
    cases command with
    | doFit inputs => exact ⟨_, doFit_follows follows inputs⟩
    | reset => exact ⟨_, reset_follows follows⟩
    | back => exact ⟨_, back_follows follows⟩
    | _ => exact ⟨stack, follows.same (perform_other nofun)⟩

theorem Follows.cursor_lt (follows : panel.Follows stack) (some_snapshot : panel.history ≠ []) :
    panel.cursor < panel.history.length := by
  rw [follows.history] at some_snapshot ⊢
  rw [follows.cursor]
  exact stack.depth_lt some_snapshot

theorem Follows.cursor_blank (follows : panel.Follows stack) (nothing : panel.history = []) :
    panel.cursor = 0 := by
  obtain rfl : stack = .blank := UndoStack.eq_blank (follows.history.symm.trans nothing)
  exact follows.cursor

theorem doFit_appends (follows : panel.Follows stack) (inputs : Inputs) :
    let after := (panel.doFit inputs).1
    after.AtSnapshot ∧ after.history = panel.history.take (panel.cursor + 1) ++ [after.model] ∧
      after.cursor + 1 = after.history.length := by
  have recorded := doFit_follows follows inputs
  have appended := recorded.history
  have moved := recorded.cursor
  rw [UndoStack.snapshots_record, ← follows.history, ← follows.cursor] at appended
  rw [UndoStack.depth_record, ← follows.history, ← follows.cursor] at moved
  refine ⟨recorded.shown.trans (UndoStack.shown?_record _ _), appended, ?_⟩
  rw [appended, moved, List.length_append]
  rfl

theorem back_steps (follows : panel.Follows stack) :
    (panel.back.2 = false ↔ panel.cursor = 0) ∧
      (panel.cursor = 0 → panel.back.1 = panel) ∧
      (panel.cursor ≠ 0 → panel.back.1.cursor + 1 = panel.cursor) ∧
      (panel.back.2 = true → panel.back.1.AtSnapshot) ∧
      panel.back.1.history = panel.history := by
  by_cases first : panel.cursor = 0
  · rw [back_first first]
    exact ⟨iff_of_true rfl first, fun _ => rfl, fun above => absurd first above, nofun, rfl⟩
  · obtain ⟨model, found, moved⟩ := back_above follows first
    rw [moved]
    exact ⟨iff_of_false nofun first, fun other => absurd other first,
      fun _ => Nat.sub_add_cancel (Nat.pos_of_ne_zero first), fun _ => found, rfl⟩

theorem reset_rewinds (panel : Panel) :
    (panel.reset.2 = true → panel.reset.1.AtSnapshot ∧ panel.reset.1.cursor = 0) ∧
      panel.reset.1.history = panel.history := by
  rcases panel.reset_cases with ⟨_, stays⟩ | ⟨first, rest, recorded, _, model, history, cursor⟩
  · rw [stays]
    exact ⟨nofun, rfl⟩
  · refine ⟨fun _ => ⟨?_, cursor⟩, history⟩
    rw [AtSnapshot, history, cursor, model, recorded]
    rfl

-- The history and the cursor of a panel are an undo stack. A received model starts it anew, a fit
-- records onto it, going back is undoing once and a reset undoing all; nothing else touches it.
-- After each of these the model is the snapshot at the cursor, and there always is one.
theorem history_undoes (reached : Reached panel) :
    ∃ stack : UndoStack, panel.Follows stack ∧
      ((panel.history = [] → panel.cursor = 0) ∧
        (panel.history ≠ [] → panel.cursor < panel.history.length) ∧
        (panel.cursor ≠ 0 → ∃ model, panel.history[panel.cursor - 1]? = some model)) ∧
      (∀ text, IsModel text →
        let after := (panel.receive text).1
        (panel.receive text).2 = true ∧ after.AtSnapshot ∧ after.history = [after.model] ∧
          after.Follows (.restart after.model)) ∧
      (∀ inputs,
        let after := (panel.doFit inputs).1
        (after.AtSnapshot ∧
          after.history = panel.history.take (panel.cursor + 1) ++ [after.model] ∧
          after.cursor + 1 = after.history.length) ∧
        after.Follows (stack.record after.model)) ∧
      (((panel.back.2 = false ↔ panel.cursor = 0) ∧
          (panel.cursor = 0 → panel.back.1 = panel) ∧
          (panel.cursor ≠ 0 → panel.back.1.cursor + 1 = panel.cursor) ∧
          (panel.back.2 = true → panel.back.1.AtSnapshot) ∧
          panel.back.1.history = panel.history) ∧
        panel.back.1.Follows stack.undo) ∧
      (((panel.reset.2 = true → panel.reset.1.AtSnapshot ∧ panel.reset.1.cursor = 0) ∧
          panel.reset.1.history = panel.history) ∧
        panel.reset.1.Follows stack.undoAll) ∧
      (∀ text, ¬ IsModel text → SameHistory panel (panel.receive text).1) ∧
      ∀ command, ¬ MovesHistory command → SameHistory panel (panel.perform command).1 := by
  obtain ⟨stack, follows⟩ := reached_follows reached
  refine ⟨stack, follows, ⟨follows.cursor_blank, follows.cursor_lt, exists_previous follows⟩, ?_,
    fun inputs => ⟨doFit_appends follows inputs, doFit_follows follows inputs⟩,
    ⟨back_steps follows, back_follows follows⟩,
    ⟨reset_rewinds panel, reset_follows follows⟩,
    fun text other => receive_other other, fun command other => perform_other other⟩
  intro text model
  obtain ⟨received, taken⟩ := panel.receive_model model
  dsimp only
  rw [taken]
  exact ⟨rfl, rfl, rfl, rfl, rfl⟩

def modelText : String := "MODEL:\x7b\"fStep\":1\x7d"

-- A panel that has taken a model, fitted twice and gone back once; then parameters have arrived.
def steppedBack : Panel :=
  let once := ((initial.receive modelText).1.perform (.doFit { minLibrary := "Minuit" })).1
  let fitted := (once.perform (.doFit { minLibrary := "Fumili" })).1
  ((fitted.perform .back).1.receive "PARS:[1]").1

theorem history_undoes_stepped_back :
    Reached steppedBack ∧ steppedBack.history.length = 3 ∧ steppedBack.cursor = 1 ∧
      (steppedBack.doFit {}).1.history.length = 3 ∧ (steppedBack.doFit {}).1.AtSnapshot ∧
      steppedBack.back.2 = true ∧ steppedBack.back.1.cursor = 0 ∧
      (steppedBack.receive modelText).1.history.length = 1 := by
  have reached : Reached steppedBack :=
    .received (.performed (.performed (.performed (.received .start modelText) _) _) .back) _
  have length : steppedBack.history.length = 3 := by decide +kernel
  have cursor : steppedBack.cursor = 1 := by decide +kernel
  obtain ⟨_, _, _, models, fits, ⟨⟨refused, _, moves, _⟩, _⟩, _⟩ := history_undoes reached
  obtain ⟨⟨atSnapshot, appended, _⟩, _⟩ := fits {}
  have isModel : IsModel modelText := ⟨[("fStep", .integer 1)], by decide +kernel⟩
  obtain ⟨_, _, restarted, _⟩ := models modelText isModel
  refine ⟨reached, length, cursor, ?_, atSnapshot, ?_, ?_, ?_⟩
  · rw [appended]
    simp [length, cursor]
  · simpa [cursor] using refused
  · simpa [cursor] using moves
  · rw [restarted]
    rfl

end Panel
end SceneInspector.Fit
