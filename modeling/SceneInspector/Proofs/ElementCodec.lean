import SceneInspector.Element.Wire
import SceneInspector.Proofs.JsonRecords

namespace SceneInspector
open Json
open Dictionary (get? ofList Sorted)

namespace Element
variable {element : Element} {members : Members}

-- The members that an element has under their own names are in order at every depth, and none of
-- them has a place of its own besides.
structure Kept (element : Element) : Prop where
  sorted : Sorted element.members
  settled : Settled element.members
  unknown : ∀ name ∈ knownNames, get? name element.members = none

structure Carried (element : Element) (members : Dictionary Json) : Prop where
  kept : element.Kept
  sorted : Sorted members
  id : get? "fElementId" members = some (.natural element.id.toNat)
  name : (get? "fName" members).getD (.string "") = .string element.name
  title : (get? "fTitle" members).getD (.string "") = .string element.title
  typeName : (get? "_typename" members).getD (.string "") = .string element.typeName
  masterId : (get? "fMasterId" members).getD .null =
    optional (fun id => .natural id.toNat) element.masterId
  mainColour : (get? "fMainColor" members).getD .null =
    optional (fun index => .natural index.toNat) element.mainColour
  rendersSelf : (get? "fRnrSelf" members).getD .null = optional .bool element.rendersSelf
  others : ∀ name ∉ knownNames, get? name element.members = get? name members

theorem get?_others (name : String) (members : Members) :
    get? name (ofList (canonicalMembers (members.filter fun member => member.1 ∉ knownNames))) =
      if name ∈ knownNames then none else get? name (ofList (canonicalMembers members)) := by
  rw [get?_canonicalMembers, get?_canonicalMembers,
    Dictionary.get?_ofList_filter (fun name => decide (name ∉ knownNames))]
  by_cases known : name ∈ knownNames <;> simp [known]

theorem ofMembers?_carried (read : ofMembers? members = some element) :
    element.Carried (ofList (canonicalMembers members)) := by
  unfold ofMembers? at read
  simp only [Option.bind_eq_bind, Option.bind_eq_some_iff] at read
  obtain ⟨id, id_read, name, name_read, title, title_read, typeName, typeName_read, masterId,
    masterId_read, mainColour, mainColour_read, rendersSelf, rendersSelf_read, made⟩ := read
  cases made
  refine ⟨⟨Dictionary.sorted_ofList _, ?_, ?_⟩, Dictionary.sorted_ofList _,
    word_inverse.get?_required id_read, string_inverse.get?_defaulted name_read,
    string_inverse.get?_defaulted title_read, string_inverse.get?_defaulted typeName_read,
    word_inverse.get?_nullable masterId_read, word_inverse.get?_nullable mainColour_read,
    bool_inverse.get?_nullable rendersSelf_read, ?_⟩
  · intro member among
    exact canonicalMembers_settled _ member (Dictionary.mem_ofList among)
  · intro name known
    exact (get?_others name members).trans (if_pos known)
  · intro name unknown
    exact (get?_others name members).trans (if_neg unknown)

-- Nothing else is needed to read the element back.
theorem Carried.ofMembers? (carried : element.Carried members) :
    ofMembers? members = some element := by
  have others : members.filter (fun member => member.1 ∉ knownNames) = element.members := by
    refine (carried.sorted.filter _).ext carried.kept.sorted fun name => ?_
    rw [carried.sorted.get?_filter (fun name => decide (name ∉ knownNames))]
    by_cases known : name ∈ knownNames
    · simp [known, carried.kept.unknown name known]
    · simp [known, carried.others name known]
  have sorted := carried.sorted
  unfold Element.ofMembers?
  dsimp only
  rw [others, carried.kept.settled.canonicalMembers, carried.kept.sorted.ofList,
    word_inverse.required sorted carried.id, string_inverse.defaulted sorted carried.name,
    string_inverse.defaulted sorted carried.title, string_inverse.defaulted sorted carried.typeName,
    word_inverse.nullable sorted carried.masterId, word_inverse.nullable sorted carried.mainColour,
    bool_inverse.nullable sorted carried.rendersSelf]
  rfl

theorem get?_ofList_optional {α : Type} (name key : String) (value : Option α)
    (write : α → Json) :
    get? name (ofList (value.map fun value => (key, write value)).toList) =
      if name = key then value.map write else none := by
  cases value with
  | none => simp
  | some value => exact Dictionary.get?_insert key name (write value) []

theorem get?_ofList_childs (name : String) (children : List Json) :
    get? name (ofList (if children = [] then [] else [("childs", Json.array children)])) =
      if name = "childs" ∧ children ≠ [] then some (.array children) else none := by
  by_cases childless : children = []
  · simp [childless]
  · rw [if_neg childless]
    exact (Dictionary.get?_insert "childs" name _ []).trans (by simp [childless, get?])

theorem Kept.get?_entries (kept : element.Kept) (children : List Json) (name : String) :
    get? name (ofList (element.entries children)) =
      if name = "fElementId" then some (.natural element.id.toNat)
      else if name = "fName" then some (.string element.name)
      else if name = "fTitle" then some (.string element.title)
      else if name = "_typename" then some (.string element.typeName)
      else if name = "fMasterId" then element.masterId.map fun id => .natural id.toNat
      else if name = "fMainColor" then element.mainColour.map fun index => .natural index.toNat
      else if name = "fRnrSelf" then element.rendersSelf.map .bool
      else if name = "childs" then if children = [] then none else some (.array children)
      else get? name element.members := by
  unfold entries
  simp only [Dictionary.get?_ofList_append, kept.sorted.ofList, get?_ofList_optional,
    get?_ofList_childs, Dictionary.get?_ofList_cons]
  by_cases known : name ∈ knownNames
  · rw [kept.unknown name known]
    simp only [knownNames, List.mem_cons, List.not_mem_nil, or_false] at known
    rcases known with rfl | rfl | rfl | rfl | rfl | rfl | rfl | rfl <;> simp
  · simp only [knownNames, List.mem_cons, List.not_mem_nil, or_false, not_or] at known
    simp [known]

theorem Kept.carried (kept : element.Kept) (children : List Json) :
    element.Carried (ofList (element.entries children)) := by
  constructor
  case kept => exact kept
  case sorted => exact Dictionary.sorted_ofList _
  case others =>
    intro name unknown
    rw [kept.get?_entries]
    simp only [knownNames, List.mem_cons, List.not_mem_nil, or_false, not_or] at unknown
    simp [unknown]
  all_goals rw [kept.get?_entries]
  case masterId => cases element.masterId <;> simp [Json.optional]
  case mainColour => cases element.mainColour <;> simp [Json.optional]
  case rendersSelf => cases element.rendersSelf <;> simp [Json.optional]
  all_goals simp

end Element

inductive Forest.Carried : Forest Element → List Json → Prop where
  | empty : Carried .empty []
  | cons {root : Element} {children rest : Forest Element} {members : Dictionary Json}
      {items others : List Json}
      (own : root.Carried members)
      (listed : (get? "childs" members).getD (.array []) = .array items)
      (below : children.Carried items)
      (beside : rest.Carried others) :
      Carried (.cons root children rest) (.object members :: others)

def Tree.Carried (tree : Tree Element) (value : Json) : Prop :=
  (Forest.cons tree.root tree.children .empty).Carried [value]

theorem Tree.Carried.beside {tree : Tree Element} {value : Json} (carried : tree.Carried value)
    {rest : Forest Element} {others : List Json} (beside : rest.Carried others) :
    (Forest.cons tree.root tree.children rest).Carried (value :: others) := by
  cases carried with
  | cons own listed below _ => exact .cons own listed below beside

namespace Element

mutual
theorem treeOfJson?_carried : ∀ (value : Json) {tree : Tree Element},
    treeOfJson? value = some tree → tree.Carried value.canonical
  | .object members, tree, read => by
    unfold treeOfJson? at read
    simp only [Option.bind_eq_bind, Option.bind_eq_some_iff] at read
    obtain ⟨element, own, children, listed, made⟩ := read
    split at made
    · cases made
    · rename_i single
      cases made
      obtain ⟨items, there, below⟩ := childrenOf?_carried members listed single
      exact .cons (ofMembers?_carried own) there below .empty

theorem childrenOf?_carried : ∀ (members : Members) {children : Forest Element},
    childrenOf? members = some children → presence "childs" members ≠ .repeated →
    ∃ items, (get? "childs" (ofList (canonicalMembers members))).getD (.array []) = .array items ∧
      children.Carried items
  | [], _, read, _ => by
    cases read
    exact ⟨[], rfl, .empty⟩
  | (name, value) :: rest, children, read, single => by
    unfold childrenOf? at read
    by_cases here : name = "childs"
    · subst here
      rw [if_pos rfl] at read
      cases value with
      | array items =>
        refine ⟨canonicalItems items, ?_, forestOfItems?_carried items read⟩
        rw [get?_canonicalMembers, get?_of_single single]
        rfl
      | _ => cases read
    · rw [if_neg here] at read
      rw [presence, if_neg here] at single
      obtain ⟨items, there, below⟩ := childrenOf?_carried rest read single
      refine ⟨items, ?_, below⟩
      rw [canonicalMembers, Dictionary.get?_ofList_cons, if_neg (Ne.symm here), Option.or_none]
      exact there

theorem forestOfItems?_carried : ∀ (items : List Json) {forest : Forest Element},
    forestOfItems? items = some forest → forest.Carried (canonicalItems items)
  | [], _, read => by
    cases read
    exact .empty
  | item :: rest, forest, read => by
    unfold forestOfItems? at read
    simp only [Option.bind_eq_bind, Option.bind_eq_some_iff] at read
    obtain ⟨tree, first, others, after, made⟩ := read
    cases made
    exact (treeOfJson?_carried item first).beside (forestOfItems?_carried rest after)
end

theorem childrenOf?_listed {members : Members} {items : List Json}
    (listed : (get? "childs" members).getD (.array []) = .array items) :
    childrenOf? members = forestOfItems? items := by
  induction members with
  | nil =>
    cases listed
    rfl
  | cons member rest ih =>
    obtain ⟨name, value⟩ := member
    rw [get?] at listed
    unfold childrenOf?
    by_cases here : name = "childs"
    · rw [if_pos here] at listed ⊢
      obtain rfl : value = .array items := listed
      rfl
    · rw [if_neg here] at listed ⊢
      exact ih listed

theorem Carried.treeOfJson? {element : Element} {members : Dictionary Json}
    {children : Forest Element} {items : List Json} (own : element.Carried members)
    (listed : (get? "childs" members).getD (.array []) = .array items)
    (below : forestOfItems? items = some children) :
    treeOfJson? (.object members) = some ⟨element, children⟩ := by
  have single : presence "childs" members ≠ .repeated := by
    rw [presence_sorted own.sorted]
    cases get? "childs" members <;> nofun
  unfold Element.treeOfJson?
  rw [own.ofMembers?, childrenOf?_listed listed, below]
  simp [single]

end Element

theorem Forest.Carried.forestOfItems? {forest : Forest Element} {items : List Json}
    (carried : forest.Carried items) : Element.forestOfItems? items = some forest := by
  induction carried with
  | empty => rfl
  | cons own listed _ _ below beside =>
    unfold Element.forestOfItems?
    rw [own.treeOfJson? listed below, beside]
    rfl

theorem Tree.Carried.treeOfJson? {tree : Tree Element} {value : Json}
    (carried : tree.Carried value) : Element.treeOfJson? value = some tree := by
  cases carried with
  | cons own listed below _ => exact own.treeOfJson? listed below.forestOfItems?

theorem Forest.Carried.elementsJson {forest : Forest Element} {items : List Json}
    (carried : forest.Carried items) : forest.Carried forest.elementsJson := by
  induction carried with
  | empty => exact .empty
  | @cons root children rest members items others own _ _ _ below beside =>
    refine .cons (own.kept.carried children.elementsJson) ?_ below beside
    rw [own.kept.get?_entries]
    cases children.elementsJson <;> simp

theorem Tree.Carried.elementJson {tree : Tree Element} {value : Json}
    (carried : tree.Carried value) : tree.Carried tree.elementJson :=
  Forest.Carried.elementsJson carried

namespace Element.Change
variable {change : Change} {members : Members}

abbrev flagName : String := "rnr_self_changed"

structure Carried (change : Change) (members : Dictionary Json) : Prop where
  sorted : Sorted members
  flag : (get? flagName members).getD (.bool false) = .bool change.rendersSelfChanged
  snapshot : change.snapshot.Carried (.object (Dictionary.erase flagName members))

theorem ofMembers?_carried (read : ofMembers? members = some change) :
    change.Carried (ofList (canonicalMembers members)) := by
  unfold ofMembers? at read
  simp only [Option.bind_eq_bind, Option.bind_eq_some_iff] at read
  obtain ⟨flag, flag_read, snapshot, snapshot_read, made⟩ := read
  cases made
  refine ⟨Dictionary.sorted_ofList _, bool_inverse.get?_defaulted flag_read, ?_⟩
  have carried := treeOfJson?_carried _ snapshot_read
  rw [Dictionary.erase_ofList, ← canonicalMembers_erase]
  exact carried

theorem Carried.get?_flag (carried : change.Carried members) :
    get? flagName change.snapshot.root.members = none := by
  cases carried.snapshot with
  | cons own _ _ _ =>
    rw [own.others flagName (by decide)]
    exact Dictionary.get?_erase_self flagName members

theorem Carried.ofJson? (carried : change.Carried members) :
    Change.ofJson? (.object members) = some change := by
  have others : members.filter (fun member => member.1 ≠ flagName) =
      Dictionary.erase flagName members := rfl
  show ofMembers? members = some change
  unfold ofMembers?
  dsimp only
  rw [bool_inverse.defaulted carried.sorted carried.flag, others, carried.snapshot.treeOfJson?]
  rfl

theorem get?_toMembers (change : Change) :
    get? flagName change.toMembers = some (.bool change.rendersSelfChanged) :=
  Dictionary.get?_insert_self _ _ _

theorem Carried.toMembers (carried : change.Carried members) : change.Carried change.toMembers := by
  have absent : get? flagName (ofList
      (change.snapshot.root.entries change.snapshot.children.elementsJson)) = none := by
    cases carried.snapshot with
    | cons own _ _ _ =>
      rw [own.kept.get?_entries]
      exact carried.get?_flag
  refine ⟨(Dictionary.sorted_ofList _).insert _ _, ?_, ?_⟩
  · rw [get?_toMembers]
    rfl
  · rw [show change.toMembers = Dictionary.insert flagName _ _ from rfl,
      (Dictionary.sorted_ofList _).erase_insert absent]
    exact carried.snapshot.elementJson

end Element.Change

namespace Element

-- Whatever object an element or a change is read from, in whatever order its members are: what is
-- written carries the same as what was read, at every depth, and is read as the same again. A
-- canonical value has the members of an object under their names, without those that are repeated.
theorem codec_round_trip (value : Json) :
    (∀ tree, treeOfJson? value = some tree →
      tree.Carried value.canonical ∧ tree.Carried tree.elementJson ∧
      treeOfJson? tree.elementJson = some tree ∧
      ∀ again, treeOfJson? tree.elementJson = some again →
        again.elementJson = tree.elementJson) ∧
    ∀ change, Change.ofJson? value = some change →
      (∃ members, value.canonical = .object members ∧ change.Carried members) ∧
      change.Carried change.toMembers ∧
      get? Change.flagName change.toMembers = some (.bool change.rendersSelfChanged) ∧
      get? Change.flagName change.snapshot.root.members = none ∧
      Change.ofJson? (.object change.toMembers) = some change ∧
      ∀ again, Change.ofJson? (.object change.toMembers) = some again →
        again.toMembers = change.toMembers := by
  constructor
  · intro tree read
    have carried := treeOfJson?_carried value read
    have written := carried.elementJson
    refine ⟨carried, written, written.treeOfJson?, fun again read_again => ?_⟩
    rw [written.treeOfJson?] at read_again
    cases read_again
    rfl
  · intro change read
    obtain ⟨members, object, own⟩ := Option.bind_eq_some_iff.mp read
    cases value with
    | object listed =>
      cases object
      have carried := Change.ofMembers?_carried own
      have written := carried.toMembers
      refine ⟨⟨_, rfl, carried⟩, written, change.get?_toMembers, carried.get?_flag,
        written.ofJson?, fun again read_again => ?_⟩
      rw [written.ofJson?] at read_again
      cases read_again
      rfl
    | _ => cases object

-- A snapshot with a flag, above a child to which a member of the same name is like any other.
def flaggedJets : Json := .object [
  ("fNDiv", .natural 72),
  ("childs", .array [.object [("rnr_self_changed", .null), ("fElementId", .natural 8)]]),
  ("fMasterId", .null),
  ("rnr_self_changed", .bool true),
  ("fElementId", .natural 7)]

theorem codec_round_trip_flagged :
    ∃ tree change, treeOfJson? flaggedJets = some tree ∧
      Change.ofJson? flaggedJets = some change ∧
      treeOfJson? tree.elementJson = some tree ∧
      get? Change.flagName tree.root.members = some (.bool true) ∧
      Change.ofJson? (.object change.toMembers) = some change ∧
      get? Change.flagName change.snapshot.root.members = none ∧
      get? Change.flagName change.toMembers = some (.bool true) := by
  obtain ⟨trees, changes⟩ := codec_round_trip flaggedJets
  obtain ⟨tree, tree_read⟩ : ∃ tree, treeOfJson? flaggedJets = some tree :=
    Option.isSome_iff_exists.mp (by decide +kernel)
  obtain ⟨change, change_read⟩ : ∃ change, Change.ofJson? flaggedJets = some change :=
    Option.isSome_iff_exists.mp (by decide +kernel)
  obtain ⟨carried, _, tree_again, _⟩ := trees tree tree_read
  obtain ⟨⟨members, object, own⟩, _, flag, unflagged, change_again, _⟩ :=
    changes change change_read
  cases object
  refine ⟨tree, change, tree_read, change_read, tree_again, ?_, change_again, unflagged, ?_⟩
  · cases carried with
    | cons root _ _ _ =>
      rw [root.others Change.flagName (by decide)]
      decide +kernel
  · rw [flag, ← own.flag]
    decide +kernel

end Element

end SceneInspector
