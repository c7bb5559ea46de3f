import Mathlib.Data.List.Induction
import SceneInspector.Proofs.FitHistory

namespace SceneInspector.Fit

-- A value that stands for a place in a table: a whole number from zero on, or a text that is its
-- numeral once the blanks around it are left out.
def IsPlace (value : Json) (place : Nat) : Prop :=
  value = .natural place ∨
    ∃ text, value = .string text ∧
      Text.unsigned? Text.maxUInt64 (Text.trimmed text.toList) = some place

def Selects (table selector : String) (model : Model) (entry : Json) : Prop :=
  ∃ value place items, Dictionary.get? selector model = some value ∧ IsPlace value place ∧
    Dictionary.get? table model = some (.array items) ∧ items[place]? = some entry

def ListCurrent (target table selector : String) (model : Model) : Prop :=
  ∀ entry, Dictionary.get? target model = some entry ↔ Selects table selector model entry

def Current (model : Model) : Prop :=
  ListCurrent "fFuncList" "fFuncListAll" "fSelectTypeFunc" model ∧
    ListCurrent "fMethodMin" "fMethodMinAll" "fLibrary" model

theorem place?_eq_some (value : Json) (place : Nat) :
    place? value = some place ↔ IsPlace value place := by
  constructor
  · intro found
    unfold place? at found
    split at found
    · rename_i number
      split at found
      · rename_i positive
        cases found
        left
        rw [Json.natural, Json.integer, Int.toNat_of_nonneg positive]
      · cases found
    · rename_i text
      exact .inr ⟨text, rfl, found⟩
    · cases found
  · rintro (rfl | ⟨text, rfl, numeral⟩)
    · simp [Json.natural, Json.integer, place?]
    · exact numeral

theorem items?_eq_some (value : Json) (items : List Json) :
    value.items? = some items ↔ value = .array items := by
  constructor
  · intro found
    unfold Json.items? at found
    split at found
    · cases found
      rfl
    · cases found
  · rintro rfl
    rfl

namespace Derivation
variable {derivation : Derivation} {model other : Model}

theorem value?_eq_some (derivation : Derivation) (model : Model) (entry : Json) :
    derivation.value? model = some entry ↔
      Selects derivation.table derivation.selector model entry := by
  simp only [value?, Selects, Option.bind_eq_bind, Option.bind_eq_some_iff, place?_eq_some,
    items?_eq_some]
  constructor
  · rintro ⟨value, selected, place, isPlace, _, found, items, rfl, there⟩
    exact ⟨value, place, items, selected, isPlace, found, there⟩
  · rintro ⟨value, place, items, selected, isPlace, found, there⟩
    exact ⟨value, selected, place, isPlace, _, found, items, rfl, there⟩

theorem listCurrent_iff (derivation : Derivation) (model : Model) :
    ListCurrent derivation.target derivation.table derivation.selector model ↔
      Dictionary.get? derivation.target model = derivation.value? model := by
  unfold ListCurrent
  simp only [← value?_eq_some]
  exact ⟨Option.ext, fun same entry => by rw [same]⟩

-- What is derived depends on the table and on the selector only.
theorem value?_congr (table : Dictionary.get? derivation.table other =
      Dictionary.get? derivation.table model)
    (selector : Dictionary.get? derivation.selector other =
      Dictionary.get? derivation.selector model) :
    derivation.value? other = derivation.value? model := by
  unfold value?
  rw [table, selector]

theorem get?_apply_target (derivation : Derivation) (model : Model) :
    Dictionary.get? derivation.target (derivation.apply model) = derivation.value? model := by
  unfold apply
  split
  · rename_i entry found
    rw [Dictionary.get?_insert_self, found]
  · rename_i absent
    rw [Dictionary.get?_erase_self, absent]

theorem get?_apply_other (derivation : Derivation) (model : Model) {name : String}
    (different : name ≠ derivation.target) :
    Dictionary.get? name (derivation.apply model) = Dictionary.get? name model := by
  unfold apply
  split
  · exact Dictionary.get?_insert_of_ne _ _ _ _ different
  · exact Dictionary.get?_erase_of_ne _ _ _ different

end Derivation

theorem current_iff (model : Model) : Current model ↔ ∀ derivation ∈ derivations,
    Dictionary.get? derivation.target model = derivation.value? model := by
  simp only [derivations, List.forall_mem_cons, ← Derivation.listCurrent_iff]
  simp [Current]

def listMembers : List String :=
  derivations.flatMap fun derivation => [derivation.target, derivation.table, derivation.selector]

theorem current_congr {model other : Model}
    (same : ∀ name ∈ listMembers, Dictionary.get? name other = Dictionary.get? name model) :
    Current other ↔ Current model := by
  rw [current_iff, current_iff]
  refine forall₂_congr fun derivation member => ?_
  have agrees (name : String)
      (listed : name ∈ [derivation.target, derivation.table, derivation.selector]) :
      Dictionary.get? name other = Dictionary.get? name model :=
    same name (List.mem_flatMap.mpr ⟨derivation, member, listed⟩)
  rw [agrees derivation.target (by simp),
    Derivation.value?_congr (agrees derivation.table (by simp))
      (agrees derivation.selector (by simp))]

theorem current_insert {name : String} (outside : name ∉ listMembers) (value : Json)
    (model : Model) : Current (Dictionary.insert name value model) ↔ Current model :=
  current_congr fun _ listed =>
    Dictionary.get?_insert_of_ne _ _ _ _ fun same => outside (same ▸ listed)

theorem current_erase {name : String} (outside : name ∉ listMembers) (model : Model) :
    Current (Dictionary.erase name model) ↔ Current model :=
  current_congr fun _ listed =>
    Dictionary.get?_erase_of_ne _ _ _ fun same => outside (same ▸ listed)

-- Neither list is read from the other, so that it does not matter which is derived first.
theorem derived_current (model : Model) : Current (derived model) := by
  rw [current_iff]
  intro derivation member
  simp only [derivations, List.mem_cons, List.not_mem_nil, or_false] at member
  simp only [derived, derivations, List.foldl_cons, List.foldl_nil]
  rcases member with rfl | rfl
  · rw [Derivation.get?_apply_other _ _ (by decide), Derivation.get?_apply_target]
    symm
    refine Derivation.value?_congr ?_ ?_
    · rw [Derivation.get?_apply_other _ _ (by decide), Derivation.get?_apply_other _ _ (by decide)]
    · rw [Derivation.get?_apply_other _ _ (by decide), Derivation.get?_apply_other _ _ (by decide)]
  · rw [Derivation.get?_apply_target]
    symm
    refine Derivation.value?_congr ?_ ?_
    · exact Derivation.get?_apply_other _ _ (by decide)
    · exact Derivation.get?_apply_other _ _ (by decide)

inductive Input where
  | frame (text : String)
  | command (command : Command)

namespace Panel
variable {panel : Panel}

def take (panel : Panel) : Input → Panel
  | .frame text => (panel.receive text).1
  | .command command => (panel.perform command).1

def run (panel : Panel) (inputs : List Input) : Panel := inputs.foldl take panel

theorem run_concat (panel : Panel) (inputs : List Input) (input : Input) :
    panel.run (inputs ++ [input]) = (panel.run inputs).take input :=
  List.foldl_append

def IsAdvanced (text : String) (object : Model) : Prop :=
  Frame.parse? text = some (.advanced (.object object))

structure Tidy (panel : Panel) : Prop where
  model : Current panel.model
  history : ∀ model ∈ panel.history, Current model

theorem initial_tidy : Tidy .initial := by
  refine ⟨?_, nofun⟩
  rw [current_iff]
  decide +kernel

theorem Tidy.set (tidy : Tidy panel) (name : String) (value : Json)
    (outside : name ∉ listMembers) : Tidy (panel.set name value) :=
  ⟨(current_insert outside value panel.model).mpr tidy.model, tidy.history⟩

theorem Tidy.record (tidy : Tidy panel) : Tidy panel.record := by
  refine ⟨tidy.model, fun model member => ?_⟩
  rcases List.mem_append.mp member with kept | shown
  · exact tidy.history model (List.mem_of_mem_take kept)
  · rw [List.mem_singleton.mp shown]
    exact tidy.model

theorem doFit_tidy (tidy : Tidy panel) (inputs : Inputs) : Tidy (panel.doFit inputs).1 := by
  have library := tidy.set "fMinLibrary" (.string inputs.minLibrary) (by decide)
  have definition := library.set "fErrorDef" (.optional .real inputs.errorDefinition) (by decide)
  have tolerance := definition.set "fMaxTol" (.optional .real inputs.maxTolerance) (by decide)
  have asked := tolerance.set "fMaxInter" (.optional .natural inputs.maxIterations) (by decide)
  exact Tidy.record ⟨asked.model, asked.history⟩

theorem reset_tidy (tidy : Tidy panel) : Tidy panel.reset.1 := by
  rcases panel.reset_cases with ⟨_, stays⟩ | ⟨first, rest, recorded, _, model, history, _⟩
  · rw [stays]
    exact tidy
  · have kept : first ∈ panel.history := by
      rw [recorded]
      exact List.mem_cons_self
    exact ⟨model ▸ tidy.history first kept, history ▸ tidy.history⟩

theorem back_tidy (tidy : Tidy panel) : Tidy panel.back.1 := by
  unfold back
  split
  · exact tidy
  · dsimp only
    split
    · rename_i model found
      exact ⟨tidy.history model (List.mem_of_getElem? found), tidy.history⟩
    · exact ⟨tidy.model, tidy.history⟩

theorem drawContour_tidy (tidy : Tidy panel) (request : ContourRequest) :
    Tidy (panel.drawContour request).1 := by
  have points := tidy.set "fContourPoints" (.natural request.points.toNat) (by decide)
  have first := points.set "fContourPar1" (.integer request.firstParameter) (by decide)
  have asked := first.set "fContourPar2" (.integer request.secondParameter) (by decide)
  unfold drawContour
  dsimp only
  split
  · exact asked.set "fColorContour" _ (by decide)
  · exact ⟨(current_erase (by decide) _).mpr asked.model, asked.history⟩

theorem perform_tidy (tidy : Tidy panel) (command : Command) :
    Tidy (panel.perform command).1 := by
  cases command with
  | doFit inputs => exact doFit_tidy tidy inputs
  | reset => exact reset_tidy tidy
  | back => exact back_tidy tidy
  | selectFunction name =>
    have selected := tidy.set "fSelectedFunc" (.string name) (by decide)
    have changed := selected.set "fFuncChange" (.string name) (by decide)
    exact ⟨changed.model, changed.history⟩
  | operationText text => exact ⟨tidy.model, tidy.history⟩
  | selectLibrary library => exact ⟨derived_current _, tidy.history⟩
  | selectTypeFunction family => exact ⟨derived_current _, tidy.history⟩
  | setNoStore noStore => exact tidy.set "fNoStore" _ (by decide)
  | updateRange low high => exact tidy.set "fUpdateRange" _ (by decide)
  | drawContour request => exact drawContour_tidy tidy request
  | drawScan request =>
    have points := tidy.set "fScanPoints" (.natural request.points.toNat) (by decide)
    have parameter := points.set "fScanPar" (.integer request.parameter) (by decide)
    have low := parameter.set "fScanMin" (.real request.low) (by decide)
    exact low.set "fScanMax" (.real request.high) (by decide)
  | applyParameters => exact tidy
  | setContourColour colour => exact ⟨tidy.model, tidy.history⟩

theorem receive_advanced (panel : Panel) {text : String} {object : Model}
    (advanced : IsAdvanced text object) :
    (panel.receive text).1 = { panel with model := object } := by
  unfold receive
  rw [advanced]

theorem receive_tidy (tidy : Tidy panel) {text : String}
    (brought : ∀ object, IsAdvanced text object → Current object) :
    Tidy (panel.receive text).1 := by
  unfold receive
  split
  · refine ⟨derived_current _, fun model member => ?_⟩
    rw [List.mem_singleton.mp member]
    exact derived_current _
  · exact tidy.set "fFuncPars" _ (by decide)
  · rename_i object advanced
    exact ⟨brought object advanced, tidy.history⟩
  · exact tidy

theorem run_tidy (inputs : List Input)
    (brought : ∀ text object, .frame text ∈ inputs → IsAdvanced text object → Current object) :
    Tidy (initial.run inputs) := by
  induction inputs using List.reverseRecOn with
  | nil => exact initial_tidy
  | append_singleton inputs input ih =>
    have before := ih fun text object given =>
      brought text object (List.mem_append_left _ given)
    rw [run_concat]
    cases input with
    | frame text => exact receive_tidy before fun object => brought text object (by simp)
    | command command => exact perform_tidy before command

-- The lists of a panel are current at every moment of a run exactly if every model that an
-- advanced frame has brought was so: it is taken as it is, and nothing else can be at fault. A
-- frame with a model of the first kind and the choice of a library or of a family make the lists
-- current again, whatever they were.
theorem lists_current_iff (inputs : List Input) (panel : Panel) :
    ((∀ earlier later, inputs = earlier ++ later → Current (initial.run earlier).model) ↔
      ∀ text object, .frame text ∈ inputs → IsAdvanced text object → Current object) ∧
    (∀ text, IsModel text → Current (panel.receive text).1.model) ∧
    (∀ library, Current (panel.selectLibrary library).model) ∧
    ∀ family, Current (panel.selectTypeFunction family).model := by
  refine ⟨⟨fun always text object given advanced => ?_, ?_⟩, ?_⟩
  · obtain ⟨earlier, later, rfl⟩ := List.append_of_mem given
    have after := always (earlier ++ [.frame text]) later (by simp)
    rw [run_concat, take, receive_advanced _ advanced] at after
    exact after
  · rintro brought earlier later rfl
    refine (run_tidy earlier fun text object given => ?_).model
    exact brought text object (List.mem_append_left _ given)
  · refine ⟨fun text model => ?_, fun _ => derived_current _, fun _ => derived_current _⟩
    obtain ⟨received, taken⟩ := panel.receive_model model
    rw [taken]
    exact derived_current received

def gaussOnly : String := "\x7b\"fSelectTypeFunc\":0,\"fFuncListAll\":[[\"gaus\"]]\x7d"

-- What a frame of the first kind brings with its list comes without it in an advanced one.
theorem advanced_list_missing : ¬ ∀ panel, Reached panel → Current panel.model := by
  intro always
  let received := (initial.receive ("MODEL:" ++ gaussOnly)).1
  let panel := (received.receive ("ADVANCED:" ++ gaussOnly)).1
  have reached : Reached panel := .received (.received .start _) _
  have selected : Selects "fFuncListAll" "fSelectTypeFunc" panel.model
      (.array [.string "gaus"]) :=
    ⟨.natural 0, 0, [.array [.string "gaus"]], by decide +kernel, .inl rfl, by decide +kernel, rfl⟩
  have missing : Dictionary.get? "fFuncList" panel.model = none := by decide +kernel
  cases missing.symm.trans (((always panel reached).1 _).mpr selected)

end Panel
end SceneInspector.Fit
