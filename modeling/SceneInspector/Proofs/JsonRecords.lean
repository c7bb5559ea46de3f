import SceneInspector.Json.Record
import SceneInspector.Proofs.DictionaryLaws

namespace SceneInspector.Json
open Dictionary (get? ofList Sorted)

variable {α : Type} {name : String} {members : Members}

def Settled (members : Members) : Prop := ∀ member ∈ members, member.2.canonical = member.2

theorem canonicalMembers_eq (members : Members) :
    canonicalMembers members = members.map fun member => (member.1, member.2.canonical) := by
  induction members with
  | nil => rfl
  | cons member rest ih => rw [canonicalMembers, ih, List.map_cons]

theorem Settled.canonicalMembers (settled : Settled members) :
    canonicalMembers members = members := by
  rw [canonicalMembers_eq]
  refine (List.map_congr_left fun member among => ?_).trans (List.map_id members)
  exact Prod.ext rfl (settled member among)

mutual
theorem canonical_canonical : ∀ value : Json, value.canonical.canonical = value.canonical
  | .null | .bool _ | .number _ | .string _ => rfl
  | .array items => congrArg Json.array (canonicalItems_canonicalItems items)
  | .object members => by
    have settled : Settled (ofList (Json.canonicalMembers members)) := fun member among =>
      canonicalMembers_settled members member (Dictionary.mem_ofList among)
    show Json.object (ofList (Json.canonicalMembers _)) = _
    rw [settled.canonicalMembers, (Dictionary.sorted_ofList _).ofList, canonical]

theorem canonicalItems_canonicalItems : ∀ items : List Json,
    canonicalItems (canonicalItems items) = canonicalItems items
  | [] => rfl
  | item :: rest => by
    rw [canonicalItems, canonicalItems, canonical_canonical item,
      canonicalItems_canonicalItems rest]

theorem canonicalMembers_settled : ∀ members : Members, Settled (canonicalMembers members)
  | [] => nofun
  | (_, value) :: rest => fun member among => by
    rcases List.mem_cons.mp among with rfl | later
    · exact canonical_canonical value
    · exact canonicalMembers_settled rest member later
end

theorem get?_canonicalMembers (name : String) (members : Members) :
    get? name (ofList (canonicalMembers members)) = (get? name (ofList members)).map canonical := by
  rw [canonicalMembers_eq, Dictionary.get?_ofList_map]

theorem canonicalMembers_erase (name : String) (members : Members) :
    canonicalMembers (Dictionary.erase name members) =
      Dictionary.erase name (canonicalMembers members) := by
  rw [canonicalMembers_eq, canonicalMembers_eq, Dictionary.erase, Dictionary.erase, List.filter_map]
  rfl

-- A name that is not repeated is found in the sorted members as in the members themselves.
theorem presence_cases (name : String) (members : Members) :
    presence name members = .repeated ∨
      presence name members = (get? name (ofList members)).elim .absent .once := by
  induction members with
  | nil => exact .inr rfl
  | cons member rest ih =>
    obtain ⟨other, value⟩ := member
    rw [Dictionary.get?_ofList_cons, presence]
    by_cases here : other = name
    · rcases ih with repeated | once
      · simp [here, repeated]
      · cases found : get? name (ofList rest) <;> simp [here, once, found]
    · simpa [here, Ne.symm here] using ih

theorem get?_of_single {value : Json}
    (single : presence name ((name, value) :: members) ≠ .repeated) :
    get? name (ofList ((name, value) :: members)) = some value := by
  rw [Dictionary.get?_ofList_cons, if_pos rfl]
  rw [presence, if_pos rfl] at single
  rcases presence_cases name members with repeated | once
  · simp [repeated] at single
  · cases later : get? name (ofList members) with
    | none => rfl
    | some other => simp [once, later] at single

theorem presence_sorted (sorted : Sorted members) :
    presence name members = (get? name members).elim .absent .once := by
  induction members with
  | nil => rfl
  | cons member rest ih =>
    obtain ⟨other, value⟩ := member
    obtain ⟨least, rest_sorted⟩ := List.pairwise_cons.mp sorted
    rw [presence, ih rest_sorted, get?]
    by_cases here : other = name
    · subst here
      have absent : get? other rest = none :=
        Dictionary.get?_eq_none.mpr fun entry among => (least entry among).ne'
      simp [absent]
    · simp [here]

-- A reader of the members that one writer makes, none of which is null.
structure Inverse (read : Json → Option α) (write : α → Json) : Prop where
  reads : ∀ value made, read value = some made ↔ value = write made
  canonical : ∀ made, (write made).canonical = write made
  present : ∀ made, write made ≠ .null

theorem string_inverse : Inverse string? .string := by
  refine ⟨fun value made => ?_, fun _ => rfl, nofun⟩
  cases value <;> simp [string?]

theorem bool_inverse : Inverse bool? .bool := by
  refine ⟨fun value made => ?_, fun _ => rfl, nofun⟩
  cases value <;> simp [bool?]

theorem natural?_eq_some (value : Json) (number : Nat) :
    value.natural? = some number ↔ value = .natural number := by
  cases value with
  | number written =>
    cases written with
    | integer written =>
      simp only [natural?, natural, Json.integer, Json.number.injEq, Number.integer.injEq]
      by_cases negative : 0 ≤ written
      · simp only [if_pos negative, Option.some.injEq]
        omega
      · simp only [if_neg negative, reduceCtorEq, false_iff]
        omega
    | real => simp [natural?, natural, Json.integer]
  | _ => simp [natural?, natural, Json.integer]

theorem word_inverse : Inverse word? fun word => .natural word.toNat := by
  refine ⟨fun value made => ?_, fun _ => rfl, nofun⟩
  unfold word? bounded?
  simp only [Option.map_eq_some_iff, Option.filter_eq_some_iff, natural?_eq_some]
  constructor
  · rintro ⟨number, ⟨rfl, within⟩, rfl⟩
    have small : number < UInt32.size := Nat.lt_succ_of_le (of_decide_eq_true within)
    rw [UInt32.toNat_ofNat_of_lt' small]
  · rintro rfl
    have within : made.toNat ≤ Text.maxUInt32 := Nat.le_of_lt_succ made.toNat_lt
    exact ⟨made.toNat, ⟨rfl, decide_eq_true within⟩, UInt32.ofNat_toNat⟩

namespace Inverse
variable {read : Json → Option α} {write : α → Json} {made default : α} {optionally : Option α}

theorem get?_required (inverse : Inverse read write)
    (found : required members name read = some made) :
    get? name (ofList (canonicalMembers members)) = some (write made) := by
  rw [get?_canonicalMembers]
  unfold required at found
  rcases presence_cases name members with repeated | once
  · simp [repeated] at found
  · rw [once] at found
    cases there : get? name (ofList members) with
    | none => simp [there] at found
    | some value =>
      rw [there] at found
      obtain rfl := (inverse.reads value made).mp found
      exact congrArg some (inverse.canonical made)

theorem get?_defaulted (inverse : Inverse read write)
    (found : defaulted members name read default = some made) :
    (get? name (ofList (canonicalMembers members))).getD (write default) = write made := by
  rw [get?_canonicalMembers]
  unfold defaulted at found
  rcases presence_cases name members with repeated | once
  · simp [repeated] at found
  · rw [once] at found
    cases there : get? name (ofList members) with
    | none =>
      rw [there] at found
      cases found
      rfl
    | some value =>
      rw [there] at found
      obtain rfl := (inverse.reads value made).mp found
      exact inverse.canonical made

theorem get?_nullable (inverse : Inverse read write)
    (found : nullable members name read = some optionally) :
    (get? name (ofList (canonicalMembers members))).getD .null = optional write optionally := by
  rw [get?_canonicalMembers]
  unfold nullable at found
  rcases presence_cases name members with repeated | once
  · simp [repeated] at found
  · rw [once] at found
    cases there : get? name (ofList members) with
    | none =>
      rw [there] at found
      cases found
      rfl
    | some value =>
      rw [there] at found
      cases value with
      | null =>
        cases found
        rfl
      | _ =>
        obtain ⟨made, read_made, rfl⟩ := Option.map_eq_some_iff.mp found
        rw [(inverse.reads _ made).mp read_made]
        exact inverse.canonical made

theorem required (inverse : Inverse read write) (sorted : Sorted members)
    (there : get? name members = some (write made)) : required members name read = some made := by
  rw [Json.required, presence_sorted sorted, there]
  exact (inverse.reads _ made).mpr rfl

theorem defaulted (inverse : Inverse read write) (sorted : Sorted members)
    (there : (get? name members).getD (write default) = write made) :
    defaulted members name read default = some made := by
  rw [Json.defaulted, presence_sorted sorted]
  cases found : get? name members with
  | none =>
    rw [found] at there
    rw [← (inverse.reads (write default) default).mpr rfl]
    exact (inverse.reads _ made).mpr there
  | some value =>
    rw [found] at there
    exact (inverse.reads value made).mpr there

theorem nullable (inverse : Inverse read write) (sorted : Sorted members)
    (there : (get? name members).getD .null = optional write optionally) :
    nullable members name read = some optionally := by
  rw [Json.nullable, presence_sorted sorted]
  cases found : get? name members with
  | none =>
    rw [found] at there
    cases optionally with
    | none => rfl
    | some made => exact absurd there.symm (inverse.present made)
  | some value =>
    rw [found] at there
    obtain rfl : value = optional write optionally := there
    cases optionally with
    | none => rfl
    | some made =>
      have again := (inverse.reads _ made).mpr rfl
      have present := inverse.present made
      dsimp only [optional, Option.elim]
      cases written : write made with
      | null => exact absurd written present
      | _ => simp [← written, again]

end Inverse
end SceneInspector.Json
