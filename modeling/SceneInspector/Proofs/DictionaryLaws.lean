import Mathlib.Data.List.Induction
import Mathlib.Data.List.Sort
import Mathlib.Data.String.Basic
import SceneInspector.Dictionary

namespace SceneInspector.Dictionary
variable {α β : Type}

def Sorted (entries : Dictionary α) : Prop :=
  entries.Pairwise fun earlier later => earlier.1 < later.1

theorem get?_insert (key other : String) (value : α) (entries : Dictionary α) :
    get? other (insert key value entries) =
      if other = key then some value else get? other entries := by
  split
  · rename_i same
    rw [same, get?_insert_self]
  · rename_i different
    exact get?_insert_of_ne key other value entries different

theorem mem_insert {key : String} {value : α} {entries : Dictionary α} {entry : String × α}
    (member : entry ∈ insert key value entries) : entry = (key, value) ∨ entry ∈ entries := by
  induction entries with
  | nil => exact .inl (List.mem_singleton.mp member)
  | cons first rest ih =>
    obtain ⟨name, old⟩ := first
    unfold insert at member
    split at member
    · rcases List.mem_cons.mp member with new | later
      · exact .inl new
      · exact .inr (List.mem_cons_of_mem _ later)
    · split at member
      · exact List.mem_cons.mp member
      · rcases List.mem_cons.mp member with same | later
        · exact .inr (List.mem_cons.mpr (.inl same))
        · exact (ih later).imp_right (List.mem_cons_of_mem _)

theorem Sorted.insert {entries : Dictionary α} (sorted : Sorted entries) (key : String)
    (value : α) : Sorted (insert key value entries) := by
  induction entries with
  | nil => exact List.pairwise_singleton _ _
  | cons first rest ih =>
    obtain ⟨name, old⟩ := first
    obtain ⟨first_least, rest_sorted⟩ := List.pairwise_cons.mp sorted
    unfold Dictionary.insert
    split
    · rename_i same
      subst same
      exact List.pairwise_cons.mpr ⟨first_least, rest_sorted⟩
    · rename_i different
      split
      · rename_i before
        refine List.pairwise_cons.mpr ⟨fun entry member => ?_, sorted⟩
        rcases List.mem_cons.mp member with rfl | later
        · exact before
        · exact before.trans (first_least entry later)
      · rename_i not_before
        refine List.pairwise_cons.mpr ⟨fun entry member => ?_, ih rest_sorted⟩
        rcases mem_insert member with rfl | later
        · exact lt_of_le_of_ne (not_lt.mp not_before) (Ne.symm different)
        · exact first_least entry later

@[simp] theorem get?_ofList_nil (name : String) :
    get? name (ofList ([] : List (String × α))) = none :=
  rfl

theorem ofList_concat (entries : List (String × α)) (key : String) (value : α) :
    ofList (entries ++ [(key, value)]) = insert key value (ofList entries) := by
  simp [ofList]

theorem sorted_ofList (entries : List (String × α)) : Sorted (ofList entries) := by
  induction entries using List.reverseRecOn with
  | nil => exact .nil
  | append_singleton entries entry ih =>
    rw [ofList_concat]
    exact ih.insert entry.1 entry.2

theorem mem_ofList {entries : List (String × α)} {entry : String × α}
    (member : entry ∈ ofList entries) : entry ∈ entries := by
  induction entries using List.reverseRecOn with
  | nil => exact member
  | append_singleton entries last ih =>
    rw [ofList_concat] at member
    rcases mem_insert member with rfl | earlier
    · exact List.mem_append_right _ List.mem_cons_self
    · exact List.mem_append_left _ (ih earlier)

-- Of two rows of entries the later has the say.
theorem get?_ofList_append (name : String) (first second : List (String × α)) :
    get? name (ofList (first ++ second)) =
      (get? name (ofList second)).or (get? name (ofList first)) := by
  induction second using List.reverseRecOn with
  | nil => rw [List.append_nil]; rfl
  | append_singleton second entry ih =>
    rw [← List.append_assoc, ofList_concat, ofList_concat, get?_insert, get?_insert, ih]
    split <;> rfl

theorem get?_ofList_cons (name key : String) (value : α) (entries : List (String × α)) :
    get? name (ofList ((key, value) :: entries)) =
      (get? name (ofList entries)).or (if name = key then some value else none) := by
  rw [← List.singleton_append, get?_ofList_append]
  congr 1
  exact get?_insert key name value []

theorem get?_ofList_map (change : α → β) (name : String) (entries : List (String × α)) :
    get? name (ofList (entries.map fun entry => (entry.1, change entry.2))) =
      (get? name (ofList entries)).map change := by
  induction entries with
  | nil => rfl
  | cons entry rest ih =>
    rw [List.map_cons, get?_ofList_cons, get?_ofList_cons, ih, Option.map_or]
    split <;> rfl

theorem get?_ofList_filter (kept : String → Bool) (name : String) (entries : List (String × α)) :
    get? name (ofList (entries.filter fun entry => kept entry.1)) =
      if kept name then get? name (ofList entries) else none := by
  induction entries with
  | nil => simp
  | cons entry rest ih =>
    obtain ⟨key, value⟩ := entry
    rw [List.filter_cons, get?_ofList_cons]
    by_cases here : name = key
    · subst here
      cases keep : kept name <;> simp [keep, ih, get?_ofList_cons]
    · cases kept key <;> simp [here, ih, get?_ofList_cons]

theorem get?_eq_none {name : String} {entries : Dictionary α} :
    get? name entries = none ↔ ∀ entry ∈ entries, entry.1 ≠ name := by
  induction entries with
  | nil => simp [get?]
  | cons entry rest ih => by_cases here : entry.1 = name <;> simp [get?, here, ih]

theorem Sorted.get?_eq_some {entries : Dictionary α} (sorted : Sorted entries) {name : String}
    {value : α} : get? name entries = some value ↔ (name, value) ∈ entries := by
  induction entries with
  | nil => simp [get?]
  | cons entry rest ih =>
    obtain ⟨key, first⟩ := entry
    obtain ⟨least, rest_sorted⟩ := List.pairwise_cons.mp sorted
    by_cases here : key = name
    · subst here
      have absent : (key, value) ∉ rest := fun member => lt_irrefl key (least _ member)
      simp [get?, absent, eq_comm]
    · simp [get?, here, Ne.symm here, ih rest_sorted]

theorem mem_of_get? {entries : Dictionary α} {name : String} {value : α}
    (found : get? name entries = some value) : (name, value) ∈ entries := by
  induction entries with
  | nil => cases found
  | cons entry rest ih =>
    rw [get?] at found
    split at found
    · rename_i here
      cases found
      rw [← here]
      exact List.mem_cons_self
    · exact List.mem_cons_of_mem _ (ih found)

-- Nothing but what is found under each name tells two dictionaries apart.
theorem Sorted.ext {left right : Dictionary α} (left_sorted : Sorted left)
    (right_sorted : Sorted right) (same : ∀ name, get? name left = get? name right) :
    left = right := by
  have irreflexive : Std.Irrefl fun (earlier later : String × α) => earlier.1 < later.1 :=
    ⟨fun entry => lt_irrefl entry.1⟩
  have antisymmetric : Std.Antisymm fun (earlier later : String × α) => earlier.1 < later.1 :=
    ⟨fun earlier later less greater => absurd greater less.asymm⟩
  refine left_sorted.eq_of_mem_iff right_sorted fun entry => ?_
  rw [← left_sorted.get?_eq_some, ← right_sorted.get?_eq_some, same]

theorem Sorted.ofList {entries : Dictionary α} (sorted : Sorted entries) :
    ofList entries = entries := by
  refine (sorted_ofList entries).ext sorted fun name => ?_
  induction entries with
  | nil => rfl
  | cons entry rest ih =>
    obtain ⟨key, value⟩ := entry
    obtain ⟨least, rest_sorted⟩ := List.pairwise_cons.mp sorted
    rw [get?_ofList_cons, ih rest_sorted, get?]
    by_cases here : key = name
    · subst here
      have absent : get? key rest = none :=
        get?_eq_none.mpr fun entry member => (least entry member).ne'
      simp [absent]
    · simp [here, Ne.symm here]

theorem Sorted.filter {entries : Dictionary α} (sorted : Sorted entries)
    (kept : String × α → Bool) : Sorted (entries.filter kept) :=
  List.Pairwise.filter kept sorted

theorem Sorted.get?_filter {entries : Dictionary α} (sorted : Sorted entries)
    (kept : String → Bool) (name : String) :
    get? name (entries.filter fun entry => kept entry.1) =
      if kept name then get? name entries else none := by
  rw [← (sorted.filter _).ofList, get?_ofList_filter, sorted.ofList]

theorem erase_ofList (key : String) (entries : List (String × α)) :
    erase key (ofList entries) = ofList (erase key entries) := by
  refine ((sorted_ofList entries).filter _).ext (sorted_ofList _) fun name => ?_
  refine Eq.trans ?_ (get?_ofList_filter (fun name => decide (name ≠ key)) name entries).symm
  by_cases here : name = key
  · rw [here, if_neg (by simp)]
    exact get?_erase_self key _
  · rw [if_pos (by simpa using here)]
    exact get?_erase_of_ne key name _ here

theorem Sorted.erase_insert {entries : Dictionary α} (sorted : Sorted entries) {key : String}
    (absent : get? key entries = none) (value : α) :
    erase key (Dictionary.insert key value entries) = entries := by
  refine ((sorted.insert key value).filter _).ext sorted fun name => ?_
  by_cases here : name = key
  · rw [here, absent]
    exact get?_erase_self key _
  · exact (get?_erase_of_ne key name _ here).trans (get?_insert_of_ne key name value _ here)

end SceneInspector.Dictionary
