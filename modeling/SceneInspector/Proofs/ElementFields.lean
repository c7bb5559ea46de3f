import SceneInspector.Editor.Model
import SceneInspector.Proofs.ElementCodec
import SceneInspector.Proofs.Forest

namespace SceneInspector
open Dictionary (get? ofList)

theorem Forest.Carried.kept {forest : Forest Element} {items : List Json}
    (carried : forest.Carried items) : ∀ tree ∈ forest.subtrees, tree.root.Kept := by
  induction carried with
  | empty => nofun
  | @cons root children rest members items others own _ _ _ below beside =>
    intro tree member
    rcases List.mem_cons.mp member with rfl | deeper
    · exact own.kept
    · rcases List.mem_append.mp deeper with inside | after
      · exact below tree inside
      · exact beside tree after

namespace Element
variable {element : Element} {name : String}

-- The object of an element has its type name under the name of that member, and the names by which
-- members are asked for leave this one out.
theorem Kept.field?_eq (kept : element.Kept) (children : List Json) (other : name ≠ "childs") :
    element.field? name =
      if name = "_typename" then none else get? name (ofList (element.entries children)) := by
  rw [kept.get?_entries]
  unfold field?
  by_cases typed : name = "_typename"
  · subst typed
    simp [kept.unknown "_typename" (by decide)]
  · simp [typed, other]

theorem Kept.get?_typeName (kept : element.Kept) (children : List Json) :
    get? "_typename" (ofList (element.entries children)) = some (.string element.typeName) := by
  rw [kept.get?_entries]
  simp

end Element

def Tree.ReadsAsEncoded (tree : Tree Element) (name : String) : Prop :=
  ∃ members, tree.elementJson = .object members ∧ tree.root.field? name = get? name members

-- Of each element that is read, at any depth, every member but the children is found under its name
-- as its own object has it, and so is the absence of a member, save for the type name: that is
-- never found although each object has it. A row of an editor shows what the object has, and the
-- empty value of its kind where it asks for the type name.
theorem Element.field?_encoded_iff {value : Json} {whole : Tree Element}
    (read : treeOfJson? value = some whole) :
    ∀ tree ∈ (Forest.cons whole.root whole.children .empty).subtrees,
      (∀ name ≠ "childs", tree.ReadsAsEncoded name ↔ name ≠ "_typename") ∧
      ∃ members, tree.elementJson = .object members ∧
        get? "_typename" members = some (.string tree.root.typeName) ∧
        tree.root.field? "_typename" = none ∧
        ∀ (colours : Colour.Index) (entry : Schema.Entry), entry.member ≠ "childs" →
          (Editor.Record.ofEntry colours tree.root entry).value =
            .ofMember colours entry.kind
              (if entry.member = "_typename" then none else get? entry.member members) := by
  intro tree among
  have carried : whole.Carried value.canonical := treeOfJson?_carried value read
  have kept : tree.root.Kept := Forest.Carried.kept carried tree among
  have fields {name : String} (other : name ≠ "childs") :=
    kept.field?_eq tree.children.elementsJson other
  have typed := kept.get?_typeName tree.children.elementsJson
  refine ⟨fun name other => ?_, _, rfl, typed, (fields (by decide)).trans (if_pos rfl), ?_⟩
  · constructor
    · rintro ⟨_, ⟨⟩, same⟩ rfl
      rw [typed, fields other, if_pos rfl] at same
      cases same
    · intro untyped
      exact ⟨_, rfl, (fields other).trans (if_neg untyped)⟩
  · intro colours entry other
    exact congrArg (Editor.Value.ofMember colours entry.kind) (fields other)

namespace Element

def typedJets : Json := .object [
  ("fElementId", .natural 7), ("_typename", .string "REveJetCone"), ("fNDiv", .natural 72),
  ("childs", .array [.object [("fMainColor", .natural 4), ("fElementId", .natural 8)]])]

def jets : Tree Element where
  root := { id := 7, typeName := "REveJetCone", members := [("fNDiv", .natural 72)] }
  children := .cons { id := 8, mainColour := some 4 } .empty .empty

theorem field?_encoded_iff_jets :
    treeOfJson? typedJets = some jets ∧ jets.ReadsAsEncoded "fNDiv" ∧
      jets.ReadsAsEncoded "fMainColor" ∧ ¬ jets.ReadsAsEncoded "_typename" ∧
      ∀ jet ∈ jets.children.trees, jet.ReadsAsEncoded "fMainColor" := by
  have read : treeOfJson? typedJets = some jets := by decide +kernel
  obtain ⟨fields, _⟩ := field?_encoded_iff read jets List.mem_cons_self
  refine ⟨read, (fields "fNDiv" (by decide)).mpr (by decide),
    (fields "fMainColor" (by decide)).mpr (by decide), ?_, fun jet among => ?_⟩
  · exact fun typed => (fields "_typename" (by decide)).mp typed rfl
  · obtain rfl := List.mem_singleton.mp among
    obtain ⟨below, _⟩ := field?_encoded_iff read ⟨{ id := 8, mainColour := some 4 }, .empty⟩
      (List.mem_cons_of_mem _ List.mem_cons_self)
    exact (below "fMainColor" (by decide)).mpr (by decide)

theorem type_name_not_read :
    treeOfJson? typedJets = some jets ∧
      (∃ members, jets.elementJson = .object members ∧
        get? "_typename" members = some (.string "REveJetCone")) ∧
      jets.root.field? "_typename" = none := by
  refine ⟨by decide +kernel, ⟨_, rfl, ?_⟩, rfl⟩
  decide +kernel

end Element
end SceneInspector
