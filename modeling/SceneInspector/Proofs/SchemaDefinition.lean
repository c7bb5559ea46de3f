import Mathlib.Data.List.Basic
import SceneInspector.Proofs.DictionaryLaws
import SceneInspector.Schema.Builtin
import SceneInspector.Schema.Definition

namespace SceneInspector

namespace Element

theorem shortTypeName_namespaced (rest : String) :
    shortTypeName (typeNamespace ++ rest) = rest := by
  simp [shortTypeName, afterStart, String.toList_append]

theorem namespaced_or_short (name : String) :
    name = typeNamespace ++ shortTypeName name ∨ shortTypeName name = name := by
  unfold shortTypeName afterStart
  split
  · rename_i rest stripped
    split at stripped
    · rename_i begins
      cases stripped
      left
      obtain ⟨rest, split⟩ := List.isPrefixOf_iff_prefix.mp begins
      rw [← String.toList_inj, String.toList_append, String.toList_ofList, ← split,
        List.drop_left]
    · cases stripped
  · exact .inr rfl

theorem not_allBlank_namespaced (rest : String) :
    Text.allBlank (typeNamespace ++ rest) = false := by
  have first : Text.allBlank typeNamespace = false := by decide
  unfold Text.allBlank at first ⊢
  rw [String.toList_append, List.all_append, first, Bool.false_and]

-- What is blank as it is written is as blank without the namespace, which it cannot have.
theorem allBlank_short {name : String} (blank : Text.allBlank name = true) :
    Text.allBlank (shortTypeName name) = true := by
  rcases namespaced_or_short name with long | short
  · rw [long, not_allBlank_namespaced] at blank
    cases blank
  · rwa [short]

end Element

namespace Schema
open Dictionary (get?)
open Element (shortTypeName typeNamespace)

namespace Definition
variable {definition : Definition}

def shortName (definition : Definition) : String := shortTypeName definition.className

def HasUnnamedEntry (definition : Definition) : Prop :=
  ∃ entry ∈ definition.entries, Text.allBlank entry.name = true

def Hollow (definition : Definition) : Prop :=
  ∃ rest, Text.allBlank rest = true ∧ definition.className = typeNamespace ++ rest

theorem hollow_iff : definition.Hollow ↔
    Text.allBlank definition.shortName = true ∧ ¬ Text.allBlank definition.className = true := by
  constructor
  · rintro ⟨rest, blank, named⟩
    rw [shortName, named, Element.shortTypeName_namespaced, Element.not_allBlank_namespaced]
    exact ⟨blank, nofun⟩
  · rintro ⟨blank, named⟩
    rcases Element.namespaced_or_short definition.className with long | short
    · exact ⟨definition.shortName, blank, long⟩
    · rw [shortName, short] at blank
      exact absurd blank named

theorem flaw?_isSome : definition.flaw?.isSome = true ↔
    Text.allBlank definition.className = true ∨ definition.HasUnnamedEntry := by
  unfold flaw? HasUnnamedEntry
  split
  · rename_i blank
    simp [blank]
  · rename_i named
    simp [named]

end Definition

namespace Registry
variable {base registry : Registry} {definitions : List Definition} {name : String}

def register (registry : Registry) (definition : Definition) : Registry :=
  registry.insert definition.shortName definition.schema

-- The first flaw decides; without one every definition is registered, in order.
theorem define_eq (base : Registry) (definitions : List Definition) :
    base.define definitions =
      match definitions.findSome? Definition.flaw? with
      | some flaw => .error flaw
      | none => .ok (definitions.foldl register base) := by
  induction definitions generalizing base with
  | nil => rfl
  | cons definition rest ih =>
    rw [define, List.findSome?_cons]
    cases definition.flaw? with
    | some flaw => rfl
    | none => exact ih _

theorem define_eq_error {flaw : Definition.Flaw} : base.define definitions = .error flaw ↔
    definitions.findSome? Definition.flaw? = some flaw := by
  rw [define_eq]
  cases definitions.findSome? Definition.flaw? <;> simp

theorem define_eq_ok : base.define definitions = .ok registry ↔
    (∀ definition ∈ definitions, definition.flaw? = none) ∧
      definitions.foldl register base = registry := by
  rw [define_eq, ← List.findSome?_eq_none_iff]
  cases definitions.findSome? Definition.flaw? <;> simp

theorem get?_register (registry : Registry) (definition : Definition) (name : String) :
    get? name (registry.register definition).classes =
      if name = definition.shortName then some definition.schema
      else get? name registry.classes :=
  Dictionary.get?_insert _ _ _ _

theorem get?_registered_other (base : Registry)
    (other : ∀ definition ∈ definitions, definition.shortName ≠ name) :
    get? name (definitions.foldl register base).classes = get? name base.classes := by
  induction definitions generalizing base with
  | nil => rfl
  | cons definition rest ih =>
    obtain ⟨here, later⟩ := List.forall_mem_cons.mp other
    rw [List.foldl_cons, ih _ later, get?_register, if_neg here.symm]

theorem get?_registered_last (base : Registry) (earlier : List Definition)
    (definition : Definition) {later : List Definition}
    (last : ∀ other ∈ later, other.shortName ≠ definition.shortName) :
    get? definition.shortName
      ((earlier ++ definition :: later).foldl register base).classes =
      some definition.schema := by
  rw [List.foldl_append, List.foldl_cons, get?_registered_other _ last, get?_register, if_pos rfl]

structure Holds (base : Registry) (definitions : List Definition) (registry : Registry) :
    Prop where
  last : ∀ earlier definition later, definitions = earlier ++ definition :: later →
    (∀ other ∈ later, other.shortName ≠ definition.shortName) →
    get? definition.shortName registry.classes = some definition.schema
  other : ∀ name, (∀ definition ∈ definitions, definition.shortName ≠ name) →
    get? name registry.classes = get? name base.classes
  editable : ∀ typeName, registry.isEditable typeName = true ↔
    base.isEditable typeName = true ∨
      ∃ definition ∈ definitions, definition.shortName = shortTypeName typeName

theorem exists_last (among : ∃ definition ∈ definitions, definition.shortName = name) :
    ∃ earlier definition later, definitions = earlier ++ definition :: later ∧
      definition.shortName = name ∧ ∀ other ∈ later, other.shortName ≠ name := by
  induction definitions with
  | nil => simp at among
  | cons first rest ih =>
    by_cases further : ∃ definition ∈ rest, definition.shortName = name
    · obtain ⟨earlier, definition, later, rfl, named, last⟩ := ih further
      exact ⟨first :: earlier, definition, later, rfl, named, last⟩
    · obtain ⟨definition, member, named⟩ := among
      rcases List.mem_cons.mp member with rfl | later
      · exact ⟨[], definition, rest, rfl, named, by simpa using further⟩
      · exact absurd ⟨definition, later, named⟩ further

theorem define_holds (defined : base.define definitions = .ok registry) :
    Holds base definitions registry := by
  obtain ⟨_, rfl⟩ := define_eq_ok.mp defined
  have last : ∀ earlier definition later, definitions = earlier ++ definition :: later →
      (∀ other ∈ later, other.shortName ≠ definition.shortName) →
      get? definition.shortName (definitions.foldl register base).classes =
        some definition.schema := by
    rintro earlier definition later rfl last
    exact get?_registered_last base earlier definition last
  refine ⟨last, fun name => get?_registered_other base, fun typeName => ?_⟩
  unfold isEditable
  by_cases among : ∃ definition ∈ definitions, definition.shortName = shortTypeName typeName
  · obtain ⟨earlier, definition, later, split, named, after⟩ := exists_last among
    have found := last earlier definition later split (named ▸ after)
    rw [← named, found]
    exact iff_of_true rfl (.inr ⟨definition, by simp [split], rfl⟩)
  · rw [get?_registered_other base (by simpa using among), or_iff_left among]

theorem define_fails_iff : (∃ flaw, base.define definitions = .error flaw) ↔
    ∃ definition ∈ definitions,
      Text.allBlank definition.className = true ∨ definition.HasUnnamedEntry := by
  simp only [define_eq_error, ← Option.isSome_iff_exists, List.findSome?_isSome_iff,
    Definition.flaw?_isSome]

structure RefusesUnnamed (base : Registry) (definitions : List Definition) : Prop where
  fails_iff : (∃ flaw, base.define definitions = .error flaw) ↔
    ∃ definition ∈ definitions,
      Text.allBlank definition.shortName = true ∨ definition.HasUnnamedEntry
  named : ∀ registry, base.define definitions = .ok registry →
    ∀ name, Text.allBlank name = true → get? name registry.classes = get? name base.classes

theorem hollow_of_blank (defined : base.define definitions = .ok registry)
    {definition : Definition} (among : definition ∈ definitions)
    (blank : Text.allBlank definition.shortName = true) : definition.Hollow := by
  refine Definition.hollow_iff.mpr ⟨blank, fun unnamed => ?_⟩
  have flawed := Definition.flaw?_isSome.mpr (.inl unnamed)
  rw [(define_eq_ok.mp defined).1 definition among] at flawed
  cases flawed

theorem refusesUnnamed_iff : RefusesUnnamed base definitions ↔
    ∀ registry, base.define definitions = .ok registry →
      ∀ definition ∈ definitions, ¬ definition.Hollow := by
  constructor
  · intro refuses registry defined definition among hollow
    obtain ⟨blank, _⟩ := Definition.hollow_iff.mp hollow
    obtain ⟨flaw, failed⟩ := refuses.fails_iff.mpr ⟨definition, among, .inl blank⟩
    cases defined.symm.trans failed
  · intro solid
    refine ⟨⟨fun failed => ?_, ?_⟩, fun registry defined name blank => ?_⟩
    · obtain ⟨definition, among, unnamed⟩ := define_fails_iff.mp failed
      exact ⟨definition, among, unnamed.imp_left Element.allBlank_short⟩
    · rintro ⟨definition, among, unnamed⟩
      cases defined : base.define definitions with
      | error flaw => exact ⟨flaw, rfl⟩
      | ok registry =>
        rcases unnamed with blank | entry
        · exact absurd (hollow_of_blank defined among blank) (solid registry defined _ among)
        · obtain ⟨flaw, failed⟩ := define_fails_iff.mpr ⟨definition, among, .inr entry⟩
          cases defined.symm.trans failed
    · refine (define_holds defined).other name fun definition among named => ?_
      exact solid registry defined definition among (hollow_of_blank defined among (named ▸ blank))

-- Names are looked at as they are written and registered without the namespace. So definitions are
-- refused for a class name that is blank as it is written and for an entry without a name; a name
-- with nothing but blanks after the namespace is let in, and nothing else is registered under a
-- blank name. Accepted definitions are held, the last of each name, beside what was there before.
theorem unnamed_refused_iff (base : Registry) (definitions : List Definition) :
    ((∃ flaw, base.define definitions = .error flaw) ↔ ∃ definition ∈ definitions,
      Text.allBlank definition.className = true ∨ definition.HasUnnamedEntry) ∧
    (∀ registry, base.define definitions = .ok registry →
      Holds base definitions registry ∧
      ∀ name, Text.allBlank name = true →
        get? name registry.classes = get? name base.classes ∨
          ∃ definition ∈ definitions, definition.className = typeNamespace ++ name) ∧
    (RefusesUnnamed base definitions ↔
      ∀ registry, base.define definitions = .ok registry →
        ∀ definition ∈ definitions, ¬ definition.Hollow) := by
  refine ⟨define_fails_iff, fun registry defined => ?_, refusesUnnamed_iff⟩
  have holds := define_holds defined
  refine ⟨holds, fun name blank => or_iff_not_imp_right.mpr fun absent => ?_⟩
  refine holds.other name fun definition among named => absent ⟨definition, among, ?_⟩
  obtain ⟨rest, _, written⟩ := hollow_of_blank defined among (named ▸ blank)
  rw [← named, Definition.shortName, written, Element.shortTypeName_namespaced]

def tracks : List Definition := [
  { className := "REveTrack", entries := [{ name := "LineWidth", kind := .number }] },
  { className := "REveLine" },
  { className := "ROOT::Experimental::REveTrack", parents := ["REveLine"] }]

theorem unnamed_refused_iff_tracks :
    RefusesUnnamed .builtin tracks ∧ ∃ registry, Registry.builtin.define tracks = .ok registry ∧
      get? "REveTrack" registry.classes = some ⟨["REveLine"], []⟩ ∧
      get? "REveElement" registry.classes = get? "REveElement" Registry.builtin.classes ∧
      registry.isEditable "ROOT::Experimental::REveLine" = true := by
  obtain ⟨_, accepted, refuses⟩ := unnamed_refused_iff .builtin tracks
  have solid : ∀ definition ∈ tracks, Text.allBlank definition.shortName = false := by
    decide +kernel
  refine ⟨refuses.mpr fun _ _ definition among hollow => ?_, ?_⟩
  · have blank := (Definition.hollow_iff.mp hollow).1
    rw [solid definition among] at blank
    cases blank
  · obtain ⟨holds, _⟩ := accepted _ rfl
    refine ⟨_, rfl, ?_, holds.other _ (by decide +kernel), ?_⟩
    · exact holds.last (tracks.take 2) _ [] rfl nofun
    · refine (holds.editable _).mpr (.inr ⟨{ className := "REveLine" }, by decide, ?_⟩)
      decide +kernel

theorem namespace_alone_registered :
    ∃ registry, define {} [{ className := "ROOT::Experimental::" }] = .ok registry ∧
      registry.isEditable "" = true ∧
      ¬ RefusesUnnamed {} [{ className := "ROOT::Experimental::" }] := by
  refine ⟨⟨[("", ⟨[], []⟩)]⟩, rfl, by decide +kernel, fun refuses => ?_⟩
  obtain ⟨flaw, failed⟩ :=
    refuses.fails_iff.mpr ⟨_, List.mem_singleton_self _, .inl (by decide +kernel)⟩
  cases failed

end Registry
end Schema
end SceneInspector
