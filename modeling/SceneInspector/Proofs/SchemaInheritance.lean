import Mathlib.Logic.Relation
import SceneInspector.Schema.Registry

namespace SceneInspector.Schema.Registry
open Dictionary (get? erase)
open Relation (ReflTransGen)

variable {classes : Dictionary Class} {name start origin : String} {schema : Class}

def Inherits (classes : Dictionary Class) (child parent : String) : Prop :=
  ∃ schema, get? child classes = some schema ∧ parent ∈ schema.parents

def Reaches (classes : Dictionary Class) : String → String → Prop :=
  ReflTransGen (Inherits classes)

theorem flattened_unregistered (absent : get? name classes = none) :
    flattened classes name = [] := by
  rw [flattened]
  split
  · rfl
  · rename_i found
    cases absent.symm.trans found

theorem flattened_registered (found : get? name classes = some schema) :
    flattened classes name =
      schema.parents.flatMap (flattened (erase name classes)) ++ schema.entries := by
  rw [flattened]
  split
  · rename_i absent
    cases absent.symm.trans found
  · rename_i other there
    cases found.symm.trans there
    rfl

theorem inherits_erase {child parent : String} :
    Inherits (erase name classes) child parent ↔ child ≠ name ∧ Inherits classes child parent := by
  by_cases same : child = name
  · subst same
    simp [Inherits, Dictionary.get?_erase_self]
  · simp [Inherits, Dictionary.get?_erase_of_ne name child classes same, same]

theorem reaches_of_erase (reached : Reaches (erase name classes) start origin) :
    Reaches classes start origin :=
  ReflTransGen.mono (fun _ _ step => (inherits_erase.mp step).2) _ _ reached

theorem get?_of_erase (found : get? origin (erase name classes) = some schema) :
    get? origin classes = some schema := by
  by_cases same : origin = name
  · subst same
    rw [Dictionary.get?_erase_self] at found
    cases found
  · rwa [Dictionary.get?_erase_of_ne name origin classes same] at found

-- A way to another class leads around a name, or it goes on from there for the last time.
theorem reaches_around (reached : Reaches classes start origin) (other : origin ≠ name) :
    Reaches (erase name classes) start origin ∨
      ∃ parent, Inherits classes name parent ∧ Reaches (erase name classes) parent origin := by
  induction reached using ReflTransGen.head_induction_on with
  | refl => exact .inl .refl
  | @head child parent step _ ih =>
    rcases ih with around | onward
    · by_cases same : child = name
      · subst same
        exact .inr ⟨parent, step, around⟩
      · exact .inl (.head (inherits_erase.mpr ⟨same, step⟩) around)
    · exact .inr onward

-- So a class that is reached can be reached without coming back to the first one.
theorem reaches_cases (reached : Reaches classes name origin) :
    origin = name ∨
      ∃ parent, Inherits classes name parent ∧ Reaches (erase name classes) parent origin := by
  by_cases same : origin = name
  · exact .inl same
  · rcases reaches_around reached same with around | onward
    · rcases ReflTransGen.cases_head around with here | ⟨parent, step, _⟩
      · exact .inl here.symm
      · exact absurd rfl (inherits_erase.mp step).1
    · exact .inr onward

theorem mem_flattened (classes : Dictionary Class) (name : String) (entry : Entry) :
    entry ∈ flattened classes name ↔
      ∃ origin schema, Reaches classes name origin ∧ get? origin classes = some schema ∧
        entry ∈ schema.entries := by
  induction classes, name using flattened.induct with
  | case1 classes name absent =>
    rw [flattened_unregistered absent]
    refine ⟨nofun, ?_⟩
    rintro ⟨origin, schema, reached, found, _⟩
    rcases reaches_cases reached with rfl | ⟨parent, ⟨own, there, _⟩, _⟩
    · cases absent.symm.trans found
    · cases absent.symm.trans there
  | case2 classes name own there ih =>
    rw [flattened_registered there, List.mem_append, List.mem_flatMap]
    constructor
    · rintro (⟨parent, listed, inherited⟩ | mine)
      · obtain ⟨origin, schema, reached, found, member⟩ := (ih parent).mp inherited
        exact ⟨origin, schema, .head ⟨own, there, listed⟩ (reaches_of_erase reached),
          get?_of_erase found, member⟩
      · exact ⟨name, own, .refl, there, mine⟩
    · rintro ⟨origin, schema, reached, found, member⟩
      by_cases same : origin = name
      · subst same
        cases there.symm.trans found
        exact .inr member
      · obtain ⟨parent, ⟨_, again, listed⟩, onward⟩ := (reaches_cases reached).resolve_left same
        cases there.symm.trans again
        refine .inl ⟨parent, listed, (ih parent).mpr ⟨origin, schema, onward, ?_, member⟩⟩
        rwa [Dictionary.get?_erase_of_ne name origin classes same]

-- What a walk over a row of names collects, with the classes of the path on the way. A name that
-- is not registered, or is on the way already, adds nothing. Of any other class the parents are
-- walked over first, with the class itself on the way.
inductive Collects (classes : Dictionary Class) :
    List String → List String → List Entry → Prop where
  | done {path : List String} : Collects classes path [] []
  | unregistered {path names : List String} {name : String} {entries : List Entry}
      (absent : get? name classes = none) (beside : Collects classes path names entries) :
      Collects classes path (name :: names) entries
  | revisited {path names : List String} {name : String} {entries : List Entry} {schema : Class}
      (found : get? name classes = some schema) (again : name ∈ path)
      (beside : Collects classes path names entries) :
      Collects classes path (name :: names) entries
  | entered {path names : List String} {name : String} {inherited entries : List Entry}
      {schema : Class} (found : get? name classes = some schema) (fresh : name ∉ path)
      (above : Collects classes (path ++ [name]) schema.parents inherited)
      (beside : Collects classes path names entries) :
      Collects classes path (name :: names) (inherited ++ schema.entries ++ entries)

def enterable (classes : Dictionary Class) (path : List String) : Dictionary Class :=
  classes.filter fun entry => entry.1 ∉ path

theorem get?_enterable (classes : Dictionary Class) (path : List String) (name : String) :
    get? name (enterable classes path) = if name ∈ path then none else get? name classes := by
  induction classes with
  | nil => simp [enterable, get?]
  | cons entry rest ih =>
    obtain ⟨key, schema⟩ := entry
    unfold enterable at ih ⊢
    by_cases passed : key ∈ path
    · have skipped : key = name → name ∈ path := fun same => same ▸ passed
      by_cases here : key = name <;> simp_all [get?]
    · by_cases here : key = name <;> simp_all [get?]

theorem erase_enterable (classes : Dictionary Class) (path : List String) (name : String) :
    erase name (enterable classes path) = enterable classes (path ++ [name]) := by
  simp [erase, enterable, List.filter_filter, and_comm]

theorem collects_flattened {path names : List String} {entries : List Entry}
    (collected : Collects classes path names entries) :
    entries = names.flatMap (flattened (enterable classes path)) := by
  induction collected with
  | done => rfl
  | @unregistered path _ name _ absent _ ih =>
    have nothing : flattened (enterable classes path) name = [] :=
      flattened_unregistered (by simp [get?_enterable, absent])
    rw [ih, List.flatMap_cons, nothing, List.nil_append]
  | @revisited path _ name _ _ found again _ ih =>
    have nothing : flattened (enterable classes path) name = [] :=
      flattened_unregistered (by simp [get?_enterable, again])
    rw [ih, List.flatMap_cons, nothing, List.nil_append]
  | @entered path _ name _ _ schema found fresh _ _ above beside =>
    have enters : get? name (enterable classes path) = some schema := by
      simp [get?_enterable, fresh, found]
    rw [List.flatMap_cons, flattened_registered enters, erase_enterable, ← above, ← beside]

-- With every class that is entered fewer are left, so that each walk comes to its end.
theorem collects_exists (classes : Dictionary Class) (path names : List String) :
    ∃ entries, Collects classes path names entries := by
  induction names with
  | nil => exact ⟨[], .done⟩
  | cons name names ih =>
    obtain ⟨entries, beside⟩ := ih
    cases found : get? name classes with
    | none => exact ⟨entries, .unregistered found beside⟩
    | some schema =>
      by_cases again : name ∈ path
      · exact ⟨entries, .revisited found again beside⟩
      · have there : get? name (enterable classes path) = some schema := by
          rw [get?_enterable, if_neg again, found]
        have fewer : (enterable classes (path ++ [name])).length <
            (enterable classes path).length := by
          rw [← erase_enterable]
          exact Dictionary.length_erase_lt name _ schema there
        obtain ⟨inherited, above⟩ := collects_exists classes (path ++ [name]) schema.parents
        exact ⟨_, .entered found again above beside⟩
termination_by (enterable classes path).length

theorem collects_resolve (registry : Registry) (typeName : String) (entries : List Entry) :
    Collects registry.classes [] [Element.shortTypeName typeName] entries ↔
      entries = registry.resolve typeName := by
  have unvisited : enterable registry.classes [] = registry.classes := by simp [enterable]
  have walked {found : List Entry}
      (collected : Collects registry.classes [] [Element.shortTypeName typeName] found) :
      found = registry.resolve typeName := by
    have flat := collects_flattened collected
    rwa [unvisited, List.flatMap_singleton] at flat
  refine ⟨walked, ?_⟩
  rintro rfl
  obtain ⟨found, collected⟩ :=
    collects_exists registry.classes [] [Element.shortTypeName typeName]
  rwa [← walked collected]

-- Whatever the classes inherit from each other, the walk over the parents comes to an end, with one
-- result. It has the entries of every class that is reached, and no others. The own entries of the
-- type come last.
theorem resolve_all_reached (registry : Registry) (typeName : String) :
    (∀ entries, Collects registry.classes [] [Element.shortTypeName typeName] entries ↔
      entries = registry.resolve typeName) ∧
    (∀ entry, entry ∈ registry.resolve typeName ↔
      ∃ origin schema, Reaches registry.classes (Element.shortTypeName typeName) origin ∧
        get? origin registry.classes = some schema ∧ entry ∈ schema.entries) ∧
    (∀ schema, get? (Element.shortTypeName typeName) registry.classes = some schema →
      schema.entries <:+ registry.resolve typeName) ∧
    (get? (Element.shortTypeName typeName) registry.classes = none →
      registry.resolve typeName = []) := by
  refine ⟨collects_resolve registry typeName, mem_flattened registry.classes _, ?_,
    flattened_unregistered⟩
  intro schema found
  rw [resolve, flattened_registered found]
  exact List.suffix_append _ _

-- Lines and points share a style, which inherits from the track again. Points name themselves, and
-- one parent of the track is not registered.
def tangled : Registry := ⟨[
  ("Line", ⟨["Style"], [.number "LineWidth"]⟩),
  ("Point", ⟨["Point", "Style"], [.number "MarkerSize"]⟩),
  ("Style", ⟨["Track"], [.bool "Visible"]⟩),
  ("Track", ⟨["Line", "Unknown", "Point"], [.bool "RnrSelf"]⟩)]⟩

theorem resolve_all_reached_tangled :
    let track := "ROOT::Experimental::Track"
    Collects tangled.classes [] ["Track"] (tangled.resolve track) ∧
      .bool "Visible" ∈ tangled.resolve track ∧ [.bool "RnrSelf"] <:+ tangled.resolve track ∧
      tangled.resolve "Unknown" = [] := by
  intro track
  have short : Element.shortTypeName track = "Track" := by decide +kernel
  obtain ⟨walk, members, own, _⟩ := resolve_all_reached tangled track
  obtain ⟨_, _, _, unknown⟩ := resolve_all_reached tangled "Unknown"
  rw [short] at walk members own
  have style : Reaches tangled.classes "Track" "Style" :=
    .head ⟨_, rfl, List.mem_cons_self⟩ (.single ⟨_, rfl, List.mem_cons_self⟩)
  exact ⟨(walk _).mpr rfl, (members _).mpr ⟨"Style", _, style, rfl, List.mem_cons_self⟩,
    own _ rfl, unknown (by decide +kernel)⟩

end SceneInspector.Schema.Registry
