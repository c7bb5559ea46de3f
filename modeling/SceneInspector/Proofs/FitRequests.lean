import SceneInspector.Fit.Panel
import SceneInspector.Proofs.DictionaryLaws

namespace SceneInspector.Dictionary
variable {α : Type} {name key : String} {names : List String}
  {assignments : List (String × Option α)}

def without (names : List String) (entries : Dictionary α) : Dictionary α :=
  entries.filter fun entry => entry.1 ∉ names

def assign (key : String) (value : Option α) (entries : Dictionary α) : Dictionary α :=
  match value with
  | some value => insert key value entries
  | none => erase key entries

def assignAll (assignments : List (String × Option α)) (entries : Dictionary α) : Dictionary α :=
  assignments.foldl (fun entries assignment => assign assignment.1 assignment.2 entries) entries

theorem get?_assign (name key : String) (value : Option α) (entries : Dictionary α) :
    get? name (assign key value entries) = if name = key then value else get? name entries := by
  cases value with
  | some value => exact get?_insert key name value entries
  | none =>
    split
    · rename_i same
      rw [same]
      exact get?_erase_self key entries
    · rename_i different
      exact get?_erase_of_ne key name entries different

theorem get?_assignAll_other (other : name ∉ assignments.map Prod.fst) (entries : Dictionary α) :
    get? name (assignAll assignments entries) = get? name entries := by
  induction assignments generalizing entries with
  | nil => rfl
  | cons assignment rest ih =>
    rw [List.map_cons, List.mem_cons, not_or] at other
    refine (ih other.2 _).trans ?_
    rw [get?_assign, if_neg other.1]

-- Where no key is assigned twice, each has the value that it was given.
theorem get?_assignAll (distinct : (assignments.map Prod.fst).Nodup) {value : Option α}
    (given : (name, value) ∈ assignments) (entries : Dictionary α) :
    get? name (assignAll assignments entries) = value := by
  induction assignments generalizing entries with
  | nil => cases given
  | cons assignment rest ih =>
    obtain ⟨fresh, others⟩ := List.nodup_cons.mp distinct
    rcases List.mem_cons.mp given with rfl | later
    · refine (get?_assignAll_other fresh _).trans ?_
      rw [get?_assign, if_pos rfl]
    · exact ih others later _

theorem without_insert (left_out : key ∈ names) (value : α) (entries : Dictionary α) :
    without names (insert key value entries) = without names entries := by
  induction entries with
  | nil => simp [insert, without, left_out]
  | cons entry rest ih =>
    obtain ⟨first, old⟩ := entry
    unfold without at ih ⊢
    unfold insert
    split
    · rename_i same
      subst same
      simp [left_out]
    · split
      · simp [left_out]
      · rw [List.filter_cons, List.filter_cons, ih]

theorem without_erase (left_out : key ∈ names) (entries : Dictionary α) :
    without names (erase key entries) = without names entries := by
  unfold without erase
  rw [List.filter_filter]
  refine List.filter_congr fun entry _ => ?_
  by_cases here : entry.1 = key
  · simp [here, left_out]
  · simp [here]

theorem without_assign (left_out : key ∈ names) (value : Option α) (entries : Dictionary α) :
    without names (assign key value entries) = without names entries := by
  cases value with
  | some value => exact without_insert left_out value entries
  | none => exact without_erase left_out entries

theorem without_assignAll (own : ∀ assignment ∈ assignments, assignment.1 ∈ names)
    (entries : Dictionary α) :
    without names (assignAll assignments entries) = without names entries := by
  induction assignments generalizing entries with
  | nil => rfl
  | cons assignment rest ih =>
    obtain ⟨first, others⟩ := List.forall_mem_cons.mp own
    exact (ih others _).trans (without_assign first assignment.2 entries)

end SceneInspector.Dictionary

namespace SceneInspector.Fit
open Dictionary

inductive Request where
  | fit (inputs : Inputs)
  | contour (request : ContourRequest)
  | scan (request : ScanRequest)

namespace Request

def command : Request → Command
  | .fit inputs => .doFit inputs
  | .contour request => .drawContour request
  | .scan request => .drawScan request

def start : Request → String
  | .fit _ => "DOFIT:"
  | .contour _ => "SETCONTOUR:"
  | .scan _ => "SETSCAN:"

-- The members that are a request's own, with what each is to be. A contour has no colour if what
-- was chosen is none.
def own (chosen : Option String) : Request → List (String × Option Json)
  | .fit inputs => [
    ("fMinLibrary", some (.string inputs.minLibrary)),
    ("fErrorDef", some (.optional .real inputs.errorDefinition)),
    ("fMaxTol", some (.optional .real inputs.maxTolerance)),
    ("fMaxInter", some (.optional .natural inputs.maxIterations))]
  | .contour request => [
    ("fContourPoints", some (.natural request.points.toNat)),
    ("fContourPar1", some (.integer request.firstParameter)),
    ("fContourPar2", some (.integer request.secondParameter)),
    ("fColorContour", (chosen.bind Colour.parse?).map fun colour => .array [
      .string (toString colour.red.toNat), .string (toString colour.green.toNat),
      .string (toString colour.blue.toNat)])]
  | .scan request => [
    ("fScanPoints", some (.natural request.points.toNat)),
    ("fScanPar", some (.integer request.parameter)),
    ("fScanMin", some (.real request.low)),
    ("fScanMax", some (.real request.high))]

def members (request : Request) : List String := (request.own none).map Prod.fst

def around (request : Request) (panel : Panel) (model : Model) : Panel :=
  let kept := panel.history.take (panel.cursor + 1)
  match request with
  | .fit inputs => { panel with model, history := kept ++ [model], cursor := kept.length, inputs }
  | .contour _ | .scan _ => { panel with model }

theorem own_members (request : Request) (chosen : Option String) :
    (request.own chosen).map Prod.fst = request.members := by
  cases request <;> rfl

theorem members_nodup (request : Request) : request.members.Nodup := by
  cases request <;> simp [members, own]

theorem derived_not_members (request : Request) (name : String)
    (made_here : name ∈ ["fFuncList", "fMethodMin"]) : name ∉ request.members := by
  simp only [List.mem_cons, List.not_mem_nil, or_false] at made_here
  rcases made_here with rfl | rfl <;> cases request <;> simp [members, own]

end Request

theorem outgoing_eq (model : Model) :
    outgoing model = without ["fFuncList", "fMethodMin"] model := by
  unfold outgoing derivations without
  simp only [List.foldl_cons, List.foldl_nil, erase, List.filter_filter]
  refine List.filter_congr fun entry _ => ?_
  simp [Bool.and_comm]

namespace Panel

theorem drawContour_panel (panel : Panel) (request : ContourRequest) :
    (panel.drawContour request).1 = { panel with
      model := assignAll ((Request.contour request).own panel.contourColour) panel.model } := by
  unfold drawContour Request.own
  dsimp only
  split
  · rename_i colour chosen
    rw [chosen]
    rfl
  · rename_i none_chosen
    rw [none_chosen]
    rfl

theorem perform_panel (panel : Panel) (request : Request) :
    (panel.perform request.command).1 =
      request.around panel (assignAll (request.own panel.contourColour) panel.model) := by
  cases request with
  | fit inputs => rfl
  | contour request => exact panel.drawContour_panel request
  | scan request => rfl

theorem perform_frame (panel : Panel) (request : Request) :
    (panel.perform request.command).2 =
      some ((panel.perform request.command).1.frame request.start) := by
  cases request <;> rfl

@[simp] theorem around_model (request : Request) (panel : Panel) (model : Model) :
    (request.around panel model).model = model := by
  cases request <;> rfl

-- A request sends the model as it is then, but for the two lists that are made here. Of the model
-- it sets its own members and touches nothing else, those lists included; so a colour that an
-- earlier request or the backend has left never goes along with a contour. Of the panel only a fit
-- changes more than the model.
theorem request_sends_model (panel : Panel) (request : Request) :
    let performed := panel.perform request.command
    let after := performed.1
    performed.2 = some (request.start ++
      (Json.object (without ["fFuncList", "fMethodMin"] after.model)).compact) ∧
    (∀ name value, (name, value) ∈ request.own panel.contourColour →
      get? name after.model = value) ∧
    without request.members after.model = without request.members panel.model ∧
    (∀ name, name ∈ ["fFuncList", "fMethodMin"] →
      get? name after.model = get? name panel.model) ∧
    after = request.around panel after.model := by
  intro performed after
  have own_names := request.own_members panel.contourColour
  have model : after.model = assignAll (request.own panel.contourColour) panel.model :=
    (congrArg Panel.model (panel.perform_panel request)).trans (around_model request panel _)
  refine ⟨?_, ?_, ?_, ?_, ?_⟩
  · rw [← outgoing_eq]
    exact panel.perform_frame request
  · intro name value given
    have distinct := request.members_nodup
    rw [← own_names] at distinct
    rw [model]
    exact get?_assignAll distinct given panel.model
  · rw [model]
    refine without_assignAll (fun assignment given => ?_) panel.model
    rw [← own_names]
    exact List.mem_map_of_mem given
  · intro name made_here
    have other := request.derived_not_members name made_here
    rw [← own_names] at other
    rw [model]
    exact get?_assignAll_other other panel.model
  · rw [model]
    exact panel.perform_panel request

example :
    let coloured := ((initial.setContourColour "red").drawContour ⟨40, 0, 1⟩).1
    let again := ((coloured.setContourColour "reddish").drawContour ⟨40, 0, 1⟩).1
    (get? "fColorContour" coloured.model).isSome = true ∧
      get? "fColorContour" again.model = none := by
  decide +kernel

end Panel
end SceneInspector.Fit
