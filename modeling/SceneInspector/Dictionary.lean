namespace SceneInspector

-- Entries in ascending order of their keys, one entry a key. The order of texts is that of their
-- code points, which is also the order of their encoded bytes.
abbrev Dictionary (α : Type) := List (String × α)

namespace Dictionary
variable {α : Type}

def get? (key : String) : Dictionary α → Option α
  | [] => none
  | (name, value) :: rest => if name = key then some value else get? key rest

def insert (key : String) (value : α) : Dictionary α → Dictionary α
  | [] => [(key, value)]
  | (name, old) :: rest =>
    if key = name then (key, value) :: rest
    else if key < name then (key, value) :: (name, old) :: rest
    else (name, old) :: insert key value rest

def erase (key : String) (entries : Dictionary α) : Dictionary α :=
  entries.filter fun entry => entry.1 ≠ key

def ofList (entries : List (String × α)) : Dictionary α :=
  entries.foldl (fun made entry => insert entry.1 entry.2 made) []

theorem get?_insert_self (key : String) (value : α) (entries : Dictionary α) :
    get? key (insert key value entries) = some value := by
  induction entries with
  | nil => simp [insert, get?]
  | cons entry rest ih =>
    obtain ⟨name, old⟩ := entry
    unfold insert
    split
    · simp [get?]
    · rename_i other
      split
      · simp [get?]
      · simp [get?, Ne.symm other, ih]

theorem get?_insert_of_ne (key other : String) (value : α) (entries : Dictionary α)
    (different : other ≠ key) : get? other (insert key value entries) = get? other entries := by
  induction entries with
  | nil => simp [insert, get?, Ne.symm different]
  | cons entry rest ih =>
    obtain ⟨name, old⟩ := entry
    unfold insert
    split
    · rename_i same
      subst same
      simp [get?, Ne.symm different]
    · split
      · simp [get?, Ne.symm different]
      · simp [get?, ih]

theorem get?_erase_self (key : String) (entries : Dictionary α) :
    get? key (erase key entries) = none := by
  induction entries with
  | nil => rfl
  | cons entry rest ih =>
    obtain ⟨name, value⟩ := entry
    unfold erase at ih ⊢
    by_cases same : name = key
    · simpa [same] using ih
    · simpa [same, get?] using ih

theorem get?_erase_of_ne (key other : String) (entries : Dictionary α) (different : other ≠ key) :
    get? other (erase key entries) = get? other entries := by
  induction entries with
  | nil => rfl
  | cons entry rest ih =>
    obtain ⟨name, value⟩ := entry
    unfold erase at ih ⊢
    by_cases same : name = key
    · simpa [same, get?, Ne.symm different] using ih
    · by_cases hit : name = other
      · simp [get?, hit, different]
      · simpa [same, get?, hit] using ih

theorem length_erase_lt (key : String) (entries : Dictionary α) (value : α)
    (found : get? key entries = some value) : (erase key entries).length < entries.length := by
  induction entries with
  | nil => simp [get?] at found
  | cons entry rest ih =>
    obtain ⟨name, old⟩ := entry
    unfold erase at ih ⊢
    by_cases same : name = key
    · simpa [same] using Nat.lt_succ_of_le (List.length_filter_le _ rest)
    · simp only [get?, same, if_false] at found
      simpa [same] using ih found

end SceneInspector.Dictionary
