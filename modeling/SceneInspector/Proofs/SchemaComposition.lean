import Mathlib.Data.List.Flatten
import SceneInspector.Proofs.DictionaryLaws
import SceneInspector.Proofs.SchemaInheritance
import SceneInspector.Schema.Builtin
import SceneInspector.Schema.Definition

namespace SceneInspector.Schema.Registry
open Dictionary (get? erase)
open Element (shortTypeName)
open Relation (TransGen)

variable {classes : Dictionary Class} {registry base : Registry} {definitions : List Definition}
  {name start : String} {schema : Class}

def InheritsShort (classes : Dictionary Class) (child parent : String) : Prop :=
  ∃ name written, Inherits classes name written ∧ shortTypeName name = child ∧
    shortTypeName written = parent

def Acyclic (registry : Registry) : Prop :=
  ∀ name, ¬ TransGen (InheritsShort registry.classes) name name

-- Inheritance that always leads to a lower rank has no cycle.
theorem acyclic_of_rank (rank : String → Nat)
    (falls : ∀ entry ∈ registry.classes, ∀ parent ∈ entry.2.parents,
      rank (shortTypeName parent) < rank (shortTypeName entry.1)) : registry.Acyclic := by
  have step {child parent : String} (inherits : InheritsShort registry.classes child parent) :
      rank parent < rank child := by
    obtain ⟨name, written, ⟨schema, found, listed⟩, rfl, rfl⟩ := inherits
    exact falls _ (Dictionary.mem_of_get? found) written listed
  have path {child ancestor : String}
      (path : TransGen (InheritsShort registry.classes) child ancestor) :
      rank ancestor < rank child := by
    induction path with
    | single inherits => exact step inherits
    | tail _ inherits ih => exact (step inherits).trans ih
  exact fun name cycle => lt_irrefl (rank name) (path cycle)

theorem Acyclic.inherits (acyclic : registry.Acyclic) (name : String) :
    ¬ TransGen (Inherits registry.classes) name name := fun cycle =>
  acyclic (shortTypeName name)
    (cycle.lift shortTypeName fun child parent step => ⟨child, parent, step, rfl, rfl⟩)

theorem flattened_erase (unreached : ¬ Reaches classes start name) :
    flattened (erase name classes) start = flattened classes start := by
  induction classes, start using flattened.induct with
  | case1 classes start absent =>
    have other : start ≠ name := fun same => unreached (same ▸ .refl)
    rw [flattened_unregistered absent, flattened_unregistered]
    rwa [Dictionary.get?_erase_of_ne name start classes other]
  | case2 classes start schema found ih =>
    have other : start ≠ name := fun same => unreached (same ▸ .refl)
    have there : get? start (erase name classes) = some schema := by
      rwa [Dictionary.get?_erase_of_ne name start classes other]
    rw [flattened_registered found, flattened_registered there]
    congr 1
    refine List.flatMap_congr fun parent listed => ?_
    have swapped : erase start (erase name classes) = erase name (erase start classes) := by
      simp [erase, List.filter_filter, Bool.and_comm]
    rw [swapped]
    exact ih parent fun reached =>
      unreached (.head ⟨schema, found, listed⟩ (reaches_of_erase reached))

-- Where there is no cycle, what a parent contributes does not depend on the way to it.
theorem flattened_acyclic (acyclic : ∀ name, ¬ TransGen (Inherits classes) name name)
    (found : get? name classes = some schema) :
    flattened classes name = schema.parents.flatMap (flattened classes) ++ schema.entries := by
  rw [flattened_registered found]
  congr 1
  refine List.flatMap_congr fun parent listed => flattened_erase fun reached => ?_
  exact acyclic name (.head' ⟨schema, found, listed⟩ reached)

theorem define_registers (defined : base.define definitions = .ok registry)
    (found : get? name registry.classes = some schema) :
    get? name base.classes = some schema ∨
      ∃ definition ∈ definitions, shortTypeName definition.className = name := by
  induction definitions generalizing base with
  | nil =>
    cases defined
    exact .inl found
  | cons definition rest ih =>
    rw [define] at defined
    split at defined
    · cases defined
    · rcases ih defined with before | ⟨later, among, named⟩
      · by_cases here : name = shortTypeName definition.className
        · exact .inr ⟨definition, List.mem_cons_self, here.symm⟩
        · left
          rwa [insert, Dictionary.get?_insert_of_ne _ _ _ _ here] at before
      · exact .inr ⟨later, List.mem_cons_of_mem _ among, named⟩

-- Where each part is within its whole, all the parts make up all the wholes only if each is whole.
theorem flatMap_eq_iff {α β : Type} {part whole : α → List β} {items : List α}
    (within : ∀ item ∈ items, (part item).Sublist (whole item)) :
    items.flatMap part = items.flatMap whole ↔ ∀ item ∈ items, part item = whole item := by
  refine ⟨fun same => ?_, List.flatMap_congr⟩
  induction items with
  | nil => nofun
  | cons item rest ih =>
    obtain ⟨first, others⟩ := List.forall_mem_cons.mp within
    have later := (List.Sublist.flatMap_right rest others).length_le
    have lengths := congrArg List.length same
    simp only [List.flatMap_cons, List.length_append] at lengths
    have here : part item = whole item :=
      first.eq_of_length_le (by omega)
    rw [List.flatMap_cons, List.flatMap_cons, here] at same
    exact List.forall_mem_cons.mpr ⟨here, ih others (List.append_cancel_left same)⟩

theorem flattened_short {written : String} (plain : shortTypeName written = written) :
    flattened registry.classes written = registry.resolve written := by
  rw [resolve, plain]

-- Parents count as they are written. A name with the namespace is not that of a class, unless the
-- class was defined with the namespace twice; so a type has the entries of its parents exactly if
-- none that has any is written with the namespace.
theorem resolve_composes_iff (start : base = {} ∨ base = .builtin)
    (defined : base.define definitions = .ok registry) (acyclic : registry.Acyclic)
    {typeName : String} (found : get? (shortTypeName typeName) registry.classes = some schema) :
    registry.resolve typeName =
      schema.parents.flatMap (flattened registry.classes) ++ schema.entries ∧
    (∀ parent, shortTypeName parent = parent →
      flattened registry.classes parent = registry.resolve parent) ∧
    ((∀ definition ∈ definitions, shortTypeName (shortTypeName definition.className) =
        shortTypeName definition.className) →
      (registry.resolve typeName = schema.parents.flatMap registry.resolve ++ schema.entries ↔
        ∀ parent ∈ schema.parents,
          shortTypeName parent = parent ∨ registry.resolve parent = [])) := by
  have composed := flattened_acyclic acyclic.inherits found
  refine ⟨composed, fun parent => flattened_short, fun once => ?_⟩
  have unregistered {parent : String} (long : shortTypeName parent ≠ parent) :
      flattened registry.classes parent = [] := by
    refine flattened_unregistered (Option.eq_none_iff_forall_not_mem.mpr fun schema there => ?_)
    rcases define_registers defined there with before | ⟨definition, among, rfl⟩
    · rcases start with rfl | rfl
      · cases before
      · have plain : ∀ entry ∈ Registry.builtin.classes, shortTypeName entry.1 = entry.1 := by
          decide +kernel
        exact long (plain _ (Dictionary.mem_of_get? before))
    · exact long (once definition among)
  have within (parent : String) :
      (flattened registry.classes parent).Sublist (registry.resolve parent) := by
    by_cases plain : shortTypeName parent = parent
    · rw [flattened_short plain]
    · rw [unregistered plain]
      exact List.nil_sublist _
  rw [resolve, composed, List.append_left_inj, flatMap_eq_iff fun parent _ => within parent]
  refine forall₂_congr fun parent _ => ?_
  by_cases plain : shortTypeName parent = parent
  · exact iff_of_true (flattened_short plain) (.inl plain)
  · rw [unregistered plain, or_iff_right plain, eq_comm]

def boxes : List Definition := [
  { className := "ROOT::Experimental::REveStraightLineSet", parents := ["REveElement"],
    entries := [{ name := "LineWidth", kind := .number }] },
  { className := "REveBox", parents := ["REveStraightLineSet", "ROOT::Experimental::REveViewer"] }]

theorem resolve_composes_iff_boxes :
    ∃ registry, Registry.builtin.define boxes = .ok registry ∧ registry.Acyclic ∧
      registry.resolve "ROOT::Experimental::REveBox" =
        ["REveStraightLineSet", "ROOT::Experimental::REveViewer"].flatMap registry.resolve := by
  let lines : Class := ⟨["REveElement"], [.number "LineWidth"]⟩
  let box : Class := ⟨["REveStraightLineSet", "ROOT::Experimental::REveViewer"], []⟩
  let registry := (Registry.builtin.insert "REveStraightLineSet" lines).insert "REveBox" box
  have defined : Registry.builtin.define boxes = .ok registry := by rfl
  have acyclic : registry.Acyclic := acyclic_of_rank
    (fun name => if name = "REveBox" then 2 else if name = "REveElement" then 0 else 1)
    (by decide +kernel)
  have found : get? (shortTypeName "ROOT::Experimental::REveBox") registry.classes = some box := by
    decide +kernel
  obtain ⟨_, _, composes⟩ := resolve_composes_iff (.inr rfl) defined acyclic found
  have viewer : registry.resolve "ROOT::Experimental::REveViewer" = [] :=
    flattened_unregistered (by decide +kernel)
  refine ⟨registry, defined, acyclic, ?_⟩
  rw [(composes (by decide +kernel)).mpr, List.append_nil]
  intro parent listed
  rcases List.mem_pair.mp listed with rfl | rfl
  · exact .inl (by decide +kernel)
  · exact .inr viewer

def stars : List Definition := [
  { className := "REvePoint", entries := [{ name := "MarkerSize", kind := .number }] },
  { className := "REveStar", parents := ["ROOT::Experimental::REvePoint"] }]

theorem namespaced_parent_left_out :
    ∃ registry schema, define {} stars = .ok registry ∧ registry.Acyclic ∧
      get? "REveStar" registry.classes = some schema ∧ registry.resolve "REveStar" = [] ∧
      schema.parents.flatMap registry.resolve ++ schema.entries = [.number "MarkerSize"] := by
  let point : Class := ⟨[], [.number "MarkerSize"]⟩
  let star : Class := ⟨["ROOT::Experimental::REvePoint"], []⟩
  let registry : Registry := ⟨[("REvePoint", point), ("REveStar", star)]⟩
  have own : registry.resolve "REveStar" = [] := by
    have short : shortTypeName "REveStar" = "REveStar" := by decide +kernel
    have long :
        flattened (erase "REveStar" registry.classes) "ROOT::Experimental::REvePoint" = [] :=
      flattened_unregistered (by decide +kernel)
    have found : get? "REveStar" registry.classes = some star := rfl
    rw [resolve, short, flattened_registered found]
    simp [star, long]
  have parent : registry.resolve "ROOT::Experimental::REvePoint" = [.number "MarkerSize"] := by
    have short : shortTypeName "ROOT::Experimental::REvePoint" = "REvePoint" := by decide +kernel
    have found : get? "REvePoint" registry.classes = some point := rfl
    rw [resolve, short, flattened_registered found]
    rfl
  refine ⟨registry, star, rfl, ?_, rfl, own, ?_⟩
  · exact acyclic_of_rank (fun name => if name = "REveStar" then 1 else 0) (by decide +kernel)
  · simp [star, parent]

end SceneInspector.Schema.Registry
