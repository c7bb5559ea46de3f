import Mathlib.Data.List.Forall2
import SceneInspector.Editor.Panel

namespace SceneInspector.Editor

inductive Control.Shows (factory : Factory) : Value → Control.Display → Option String → Prop where
  | bool (value : Bool) : Shows factory (.bool value) (.toggle value) none
  | number (value : Binary64) : Shows factory (.number value) (.numberInput value) none
  | string (value : String) :
      Shows factory (.string value) (.textInput value factory.textWidth) none
  | colour (paint : Option String) :
      Shows factory (.colour paint) (.colourSwatch factory.palette factory.defaultColour) paint
  | action : Shows factory .action .trigger none

structure Control.BuiltFrom (factory : Factory) (labelWidth : Nat) (place : Record × Nat)
    (control : Control) : Prop where
  index : control.index = place.2
  label : control.label = place.1.label
  verb : control.handler.verb = place.1.entry.verb
  kind : control.handler.kind = place.1.entry.kind
  quoted : control.handler.quoted = place.1.entry.quoted
  labelWidth : control.style.labelWidth = labelWidth
  shows : Control.Shows factory place.1.value control.display control.style.background

def supported (records : List (Record × Nat)) : List (Record × Nat) :=
  records.filter fun place => place.1.entry.kind ≠ .unsupported

namespace Factory
variable {factory : Factory} {record : Record}

theorem display?_shows (same : record.value.kind = record.entry.kind) :
    record.entry.kind = .unsupported ∧ factory.display? record.entry.kind record.value = none ∨
    record.entry.kind ≠ .unsupported ∧ ∃ display paint,
      factory.display? record.entry.kind record.value = some (display, paint) ∧
      Control.Shows factory record.value display paint := by
  rw [← same]
  cases record.value with
  | bool value => exact .inr ⟨nofun, _, _, rfl, .bool value⟩
  | number value => exact .inr ⟨nofun, _, _, rfl, .number value⟩
  | string value => exact .inr ⟨nofun, _, _, rfl, .string value⟩
  | colour paint => exact .inr ⟨nofun, _, _, rfl, .colour paint⟩
  | action => exact .inr ⟨nofun, _, _, rfl, .action⟩
  | unsupported raw => exact .inl ⟨rfl, rfl⟩

theorem display?_eq_none_iff (same : record.value.kind = record.entry.kind) :
    factory.display? record.entry.kind record.value = none ↔
      record.entry.kind = .unsupported := by
  rcases display?_shows same with ⟨unknown, nothing⟩ | ⟨known, display, paint, made, _⟩
  · exact iff_of_true nothing unknown
  · exact iff_of_false (by simp [made]) known

-- The rows are numbered on, whether or not they have a control.
theorem controlsFrom_built {records : List Record} (factory : Factory) (labelWidth index : Nat)
    (same : ∀ record ∈ records, record.value.kind = record.entry.kind) :
    List.Forall₂ (Control.BuiltFrom factory labelWidth) (supported (records.zipIdx index))
      (factory.controlsFrom labelWidth index records) := by
  induction records generalizing index with
  | nil => exact .nil
  | cons record rest ih =>
    have onward := ih (index + 1) fun other member => same other (List.mem_cons_of_mem _ member)
    have here := same record List.mem_cons_self
    rw [List.zipIdx_cons, supported, List.filter_cons, controlsFrom, control?]
    rcases display?_shows here with ⟨unknown, nothing⟩ | ⟨known, display, paint, made, shows⟩
    · rw [nothing, if_neg (by simp [unknown])]
      exact onward
    · rw [made, if_pos (by simpa using known)]
      exact .cons ⟨rfl, rfl, rfl, rfl, rfl, rfl, shows⟩ onward

end Factory

theorem widest_from (entries : List Schema.Entry) (start : Nat) :
    let widest := entries.foldl (fun width entry => max width entry.name.length) start
    start ≤ widest ∧ (∀ entry ∈ entries, entry.name.length ≤ widest) ∧
      (widest = start ∨ ∃ entry ∈ entries, entry.name.length = widest) := by
  induction entries generalizing start with
  | nil => exact ⟨Nat.le_refl _, nofun, .inl rfl⟩
  | cons entry rest ih =>
    obtain ⟨above, each, attained⟩ := ih (max start entry.name.length)
    refine ⟨by simp only [List.foldl_cons]; omega, ?_, ?_⟩
    · intro other member
      rcases List.mem_cons.mp member with rfl | later
      · simp only [List.foldl_cons]
        omega
      · exact each other later
    · rcases attained with same | ⟨other, later, wide⟩
      · rcases Nat.le_total entry.name.length start with narrow | wide
        · exact .inl (same.trans (Nat.max_eq_left narrow))
        · exact .inr ⟨entry, List.mem_cons_self, (same.trans (Nat.max_eq_right wide)).symm⟩
      · exact .inr ⟨other, List.mem_cons_of_mem _ later, wide⟩

theorem widestLabel_attained {entries : List Schema.Entry} (some_entries : entries ≠ []) :
    ∃ entry ∈ entries, entry.name.length = widestLabel entries := by
  obtain ⟨_, bound, narrow | attained⟩ := widest_from entries 0
  · obtain ⟨entry, listed⟩ := List.exists_mem_of_ne_nil entries some_entries
    have none : widestLabel entries = 0 := narrow
    exact ⟨entry, listed, Nat.le_antisymm (bound entry listed) (by omega)⟩
  · exact attained

namespace Toolkit

theorem synthesize_kind (toolkit : Toolkit) (element : Element) :
    ∀ record ∈ (toolkit.synthesize element).1.records, record.value.kind = record.entry.kind := by
  intro record member
  obtain ⟨entry, _, rfl⟩ := List.mem_map.mp member
  exact Value.kind_ofMember ..

-- An editor has a row for each entry of its type, and a control for each row of a known kind. What
-- a row shows is always of the kind that its entry wants.
theorem synthesize_built (toolkit : Toolkit) (element : Element) :
    let model := (toolkit.synthesize element).1
    let controls := (toolkit.synthesize element).2
    List.Forall₂ (fun entry record =>
        record.entry = entry ∧ record.label = entry.name ∧ record.value.kind = entry.kind)
      (toolkit.catalogue.registry.resolve element.typeName) model.records ∧
    List.Forall₂ (Control.BuiltFrom toolkit.factory model.maxLabelWidth)
      (supported model.records.zipIdx) controls ∧
    (∀ record ∈ model.records, toolkit.factory.display? record.entry.kind record.value = none ↔
      record.entry.kind = .unsupported) ∧
    (∀ record ∈ model.records, record.label.length ≤ model.maxLabelWidth) ∧
    (model.records ≠ [] → ∃ record ∈ model.records, record.label.length = model.maxLabelWidth) ∧
    (model.records = [] → model.maxLabelWidth = 0) := by
  intro model controls
  let entries := toolkit.catalogue.registry.resolve element.typeName
  let made := Record.ofEntry toolkit.catalogue.colours element
  have same := toolkit.synthesize_kind element
  refine ⟨?_, Factory.controlsFrom_built _ _ 0 same, ?_, ?_, ?_, ?_⟩
  · show List.Forall₂ _ entries (entries.map made)
    rw [List.forall₂_map_right_iff, List.forall₂_same]
    intro entry _
    exact ⟨rfl, rfl, Value.kind_ofMember ..⟩
  · intro record member
    exact Factory.display?_eq_none_iff (same record member)
  · intro record member
    obtain ⟨entry, listed, rfl⟩ := List.mem_map.mp member
    exact (widest_from entries 0).2.1 entry listed
  · intro some_records
    have some_entries : entries ≠ [] := fun none => some_records (congrArg (List.map made) none)
    obtain ⟨entry, listed, wide⟩ := widestLabel_attained some_entries
    exact ⟨made entry, List.mem_map_of_mem listed, wide⟩
  · intro no_records
    have no_entries : entries = [] := List.map_eq_nil_iff.mp no_records
    show widestLabel entries = 0
    rw [no_entries]
    rfl

end Toolkit
end SceneInspector.Editor
