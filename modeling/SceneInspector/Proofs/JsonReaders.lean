import SceneInspector.Proofs.JsonRecords

namespace SceneInspector.Json
open Dictionary (get? ofList)

variable {σ α β : Type} {settle : σ → σ} {read : Json → Option α} {write : α → Json}
  {name : String} {members : Members} {value : Json} {made : α}

abbrev inOrder (members : Members) : Members := ofList (canonicalMembers members)

-- What a reader makes of a source it makes of the settled source too. The settled one may be
-- readable where the source is not, as when a name is repeated.
def Steady (settle : σ → σ) (read : σ → Option α) : Prop :=
  ∀ ⦃source made⦄, read source = some made → read (settle source) = some made

def Faithful (read : σ → Option α) (write : α → σ) : Prop :=
  ∀ ⦃source made⦄, read source = some made → read (write made) = some made

def Readable (read : σ → Option α) (made : α) : Prop := ∃ source, read source = some made

theorem Faithful.again {read : σ → Option α} {write : α → σ} (faithful : Faithful read write)
    (readable : Readable read made) : read (write made) = some made :=
  let ⟨_, found⟩ := readable
  faithful found

theorem inOrder_erase (name : String) (members : Members) :
    inOrder (Dictionary.erase name members) = Dictionary.erase name (inOrder members) := by
  rw [inOrder, canonicalMembers_erase, Dictionary.erase_ofList]

-- The values of members are put in canonical form, in whatever order the members are then.
structure Settles (settle : Members → Members) : Prop where
  once : ∀ {name members value}, presence name members = .once value →
    presence name (settle members) = .once value.canonical
  absent : ∀ {name members}, presence name members = .absent →
    presence name (settle members) = .absent

theorem presence_inOrder (single : presence name members ≠ .repeated) :
    presence name (inOrder members) =
      match presence name members with
      | .once value => .once value.canonical
      | other => other := by
  rw [presence_sorted (Dictionary.sorted_ofList _), get?_canonicalMembers,
    (presence_cases name members).resolve_left single]
  cases get? name (ofList members) <;> rfl

theorem inOrder_settles : Settles inOrder where
  once there := by rw [presence_inOrder (by simp [there]), there]
  absent missing := by rw [presence_inOrder (by simp [missing]), missing]

theorem presence_canonicalMembers (name : String) (members : Members) :
    presence name (canonicalMembers members) =
      match presence name members with
      | .once value => .once value.canonical
      | other => other := by
  induction members with
  | nil => rfl
  | cons member rest ih =>
    obtain ⟨key, value⟩ := member
    rw [canonicalMembers, presence, presence, ih]
    by_cases here : key = name
    · cases presence name rest <;> simp [here]
    · rw [if_neg here, if_neg here]

theorem canonicalMembers_settles : Settles canonicalMembers where
  once there := by rw [presence_canonicalMembers, there]
  absent missing := by rw [presence_canonicalMembers, missing]

theorem canonicalItems_eq (items : List Json) : canonicalItems items = items.map canonical := by
  induction items with
  | nil => rfl
  | cons item rest ih => rw [canonicalItems, ih, List.map_cons]

theorem presence_erase {other : String} (different : other ≠ name) (members : Members) :
    presence name (Dictionary.erase other members) = presence name members := by
  unfold Dictionary.erase
  induction members with
  | nil => rfl
  | cons member rest ih =>
    obtain ⟨key, value⟩ := member
    by_cases dropped : key = other
    · subst dropped
      simpa [presence, different] using ih
    · rw [List.filter_cons_of_pos (by simpa using dropped), presence, presence, ih]

theorem presence_eq_absent :
    presence name members = .absent ↔ ∀ member ∈ members, member.1 ≠ name := by
  induction members with
  | nil => simp [presence]
  | cons member rest ih =>
    obtain ⟨key, value⟩ := member
    rw [presence, List.forall_mem_cons, ← ih]
    by_cases here : key = name
    · cases presence name rest <;> simp [here]
    · simp [here]

theorem presence_erase_self (name : String) (members : Members) :
    presence name (Dictionary.erase name members) = .absent :=
  presence_eq_absent.mpr fun _ among => of_decide_eq_true (List.mem_filter.mp among).2

theorem required_eq_some : required members name read = some made ↔
    ∃ value, presence name members = .once value ∧ read value = some made := by
  unfold required
  cases presence name members <;> simp

theorem readable_of_required (found : required members name read = some made) :
    Readable read made := by
  obtain ⟨value, -, own⟩ := required_eq_some.mp found
  exact ⟨value, own⟩

theorem readable_of_single (found : single? name read value = some made) : Readable read made := by
  obtain ⟨members, -, own⟩ := Option.bind_eq_some_iff.mp found
  exact readable_of_required own

theorem nullable_eq_some {made : Option α} : nullable members name read = some made ↔
    (presence name members = .absent ∨ presence name members = .once .null) ∧ made = none ∨
      ∃ value own, presence name members = .once value ∧ value ≠ .null ∧
        read value = some own ∧ made = some own := by
  unfold nullable
  cases presence name members with
  | once value => cases value <;> simp [eq_comm]
  | _ => simp [eq_comm]

theorem fields?_canonical {needed optional : List String}
    (found : value.fields? needed optional = some members) :
    ∃ settle, Settles settle ∧ value.canonical.fields? needed optional = some (settle members) := by
  cases value with
  | object own =>
    cases found
    exact ⟨inOrder, inOrder_settles, rfl⟩
  | array items =>
    refine ⟨canonicalMembers, canonicalMembers_settles, ?_⟩
    simp only [fields?, canonical, canonicalItems_eq, List.length_map] at found ⊢
    split at found
    · rename_i fitting
      cases found
      rw [if_pos fitting, canonicalMembers_eq, List.zip_map_right]
      rfl
    · cases found
  | _ => cases found

theorem bare?_eq_some : value.bare? = some () ↔ ∃ members, value.fields? [] [] = some members := by
  simp [bare?]

theorem tagged?_object {tag : String} {value rest : Json} :
    tagged? tag (.object members) = some (value, rest) ↔
      presence tag members = .once value ∧ rest = .object (Dictionary.erase tag members) := by
  rw [tagged?]
  cases presence tag members <;> simp [Dictionary.erase, eq_comm (a := rest)]

theorem tagged?_eq_object {tag : String} {source value rest : Json}
    (found : tagged? tag source = some (value, rest)) {own : Members}
    (object : rest.members? = some own) :
    ∃ members, source = .object members ∧ own = Dictionary.erase tag members := by
  cases source with
  | object members =>
    obtain ⟨-, rfl⟩ := tagged?_object.mp found
    cases object
    exact ⟨members, rfl, rfl⟩
  | array items =>
    cases items with
    | nil => cases found
    | cons first others =>
      cases found
      cases object
  | _ => cases found

theorem tagged?_first {tag : String} {rest : Members} (missing : presence tag rest = .absent)
    (value : Json) : tagged? tag (.object ((tag, value) :: rest)) = some (value, .object rest) := by
  have others : rest.filter (fun member => member.1 ≠ tag) = rest :=
    List.filter_eq_self.mpr fun member among =>
      decide_eq_true (presence_eq_absent.mp missing member among)
  refine tagged?_object.mpr ⟨by rw [presence, if_pos rfl, missing], ?_⟩
  rw [Dictionary.erase, List.filter_cons_of_neg (by simp), others]

theorem tagged?_canonical {tag : String} {source value rest : Json}
    (found : tagged? tag source = some (value, rest)) :
    tagged? tag source.canonical = some (value.canonical, rest.canonical) := by
  cases source with
  | object members =>
    obtain ⟨there, rfl⟩ := tagged?_object.mp found
    refine tagged?_object.mpr ⟨inOrder_settles.once there, ?_⟩
    exact congrArg object (inOrder_erase tag members)
  | array items =>
    cases items with
    | nil => cases found
    | cons first others =>
      cases found
      rfl
  | _ => cases found

theorem chosen?_eq_some {tagging : Tagging} {tag : String} {names : List String}
    {read : String → Json → Option α} : chosen? tagging tag names read value = some made ↔
      ∃ told rest name, tagged? tag value = some (told, rest) ∧
        variant? tagging names told = some name ∧ read name rest = some made := by
  simp [chosen?, Option.bind_eq_some_iff]

theorem chosen?_first {tagging : Tagging} {tag : String} {names : List String}
    {read : String → Json → Option α} {rest : Members} (missing : presence tag rest = .absent)
    (known : name ∈ names) (found : read name (.object rest) = some made) :
    chosen? tagging tag names read (.object ((tag, .string name) :: rest)) = some made :=
  chosen?_eq_some.mpr ⟨_, _, name, tagged?_first missing _, if_pos known, found⟩

theorem canonical_eq_null : value.canonical = .null ↔ value = .null := by
  cases value <;> simp [canonical]

-- A tag is a name or a number, and either is canonical.
theorem variant?_canonical (tagging : Tagging) (names : List String) (value : Json) :
    variant? tagging names value.canonical = variant? tagging names value := by
  cases value <;> rfl

namespace Steady

theorem pure (made : α) : Steady settle fun _ => some made := fun _ _ found => found

theorem bind {read : σ → Option α} {next : α → σ → Option β} (first : Steady settle read)
    (after : ∀ made, Steady settle (next made)) :
    Steady settle fun source => read source >>= fun made => next made source := by
  intro source made found
  obtain ⟨between, reached, left⟩ := Option.bind_eq_some_iff.mp found
  exact Option.bind_eq_some_iff.mpr ⟨between, first reached, after between left⟩

theorem scalar (no_array : ∀ items, read (.array items) = none)
    (no_object : ∀ members, read (.object members) = none) : Steady canonical read := by
  intro value made found
  cases value with
  | array items => rw [no_array] at found; cases found
  | object members => rw [no_object] at found; cases found
  | _ => exact found

section Members
variable {settle : Members → Members}

theorem required (steady : Steady canonical read) (settles : Settles settle) (name : String) :
    Steady settle fun members => required members name read := by
  intro members made found
  obtain ⟨value, there, own⟩ := required_eq_some.mp found
  exact required_eq_some.mpr ⟨value.canonical, settles.once there, steady own⟩

theorem nullable (steady : Steady canonical read) (settles : Settles settle) (name : String) :
    Steady settle fun members => nullable members name read := by
  intro members made found
  refine nullable_eq_some.mpr ?_
  rcases nullable_eq_some.mp found with ⟨nothing, rfl⟩ | ⟨value, own, there, present, own_read, rfl⟩
  · exact .inl ⟨nothing.imp settles.absent settles.once, rfl⟩
  · exact .inr ⟨value.canonical, own, settles.once there, mt canonical_eq_null.mp present,
      steady own_read, rfl⟩

end Members

theorem fields {read : Members → Option α} (needed optional : List String)
    (steady : ∀ {settle}, Settles settle → Steady settle read) :
    Steady canonical fun value => value.fields? needed optional >>= read := by
  intro value made found
  obtain ⟨members, listed, found⟩ := Option.bind_eq_some_iff.mp found
  obtain ⟨settle, settles, again⟩ := fields?_canonical listed
  exact Option.bind_eq_some_iff.mpr ⟨settle members, again, steady settles found⟩

theorem bare (made : α) : Steady canonical fun value => value.bare?.map fun _ => made := by
  intro value made found
  obtain ⟨nothing, empty, rfl⟩ := Option.map_eq_some_iff.mp found
  obtain ⟨members, listed⟩ := bare?_eq_some.mp empty
  obtain ⟨settle, _, again⟩ := fields?_canonical listed
  exact Option.map_eq_some_iff.mpr ⟨(), bare?_eq_some.mpr ⟨_, again⟩, rfl⟩

theorem single (steady : Steady canonical read) (name : String) :
    Steady canonical (single? name read) :=
  .fields _ _ fun settles => steady.required settles name

theorem chosen {read : String → Json → Option α} (tagging : Tagging) (tag : String)
    (names : List String) (steady : ∀ name, Steady canonical (read name)) :
    Steady canonical (chosen? tagging tag names read) := by
  intro value made found
  obtain ⟨told, rest, name, tagged, named, found⟩ := chosen?_eq_some.mp found
  exact chosen?_eq_some.mpr ⟨told.canonical, rest.canonical, name, tagged?_canonical tagged,
    (variant?_canonical tagging names told).trans named, steady name found⟩

theorem object {read : Members → Option α} (steady : Steady inOrder read) :
    Steady canonical fun value => value.members? >>= read := by
  intro value made found
  cases value with
  | object members => exact steady found
  | _ => cases found

theorem list (steady : Steady canonical read) : Steady canonical (list? read) := by
  intro value made found
  cases value with
  | array items =>
    show (canonicalItems items).mapM read = some made
    replace found : items.mapM read = some made := found
    induction items generalizing made with
    | nil => exact found
    | cons item rest ih =>
      rw [canonicalItems, List.mapM_cons]
      rw [List.mapM_cons] at found
      obtain ⟨first, first_read, found⟩ := Option.bind_eq_some_iff.mp found
      obtain ⟨later, later_read, found⟩ := Option.bind_eq_some_iff.mp found
      rw [steady first_read, ih later_read]
      exact found
  | _ => cases found

end Steady

theorem string_steady : Steady canonical string? := .scalar (fun _ => rfl) fun _ => rfl
theorem bool_steady : Steady canonical bool? := .scalar (fun _ => rfl) fun _ => rfl
theorem word_steady : Steady canonical word? := .scalar (fun _ => rfl) fun _ => rfl
theorem count_steady : Steady canonical count? := .scalar (fun _ => rfl) fun _ => rfl
theorem signed_steady : Steady canonical signed? := .scalar (fun _ => rfl) fun _ => rfl
theorem real_steady : Steady canonical real? := .scalar (fun _ => rfl) fun _ => rfl

namespace Faithful

theorem of_inverse (inverse : Inverse read write) : Faithful read write :=
  fun _ made _ => (inverse.reads _ made).mpr rfl

theorem required (faithful : Faithful read write) (readable : Readable read made)
    (there : presence name members = .once (write made)) :
    required members name read = some made :=
  required_eq_some.mpr ⟨write made, there, faithful.again readable⟩

theorem single (faithful : Faithful read write) (readable : Readable read made) (name : String) :
    single? name read (.object [(name, write made)]) = some made :=
  faithful.required readable (by rw [presence, if_pos rfl]; rfl)

theorem nullable (faithful : Faithful read write) (no_null : read .null = none)
    {made : Option α} (found : nullable members name read = some made) {written : Members}
    (there : presence name written = .once (optional write made)) :
    nullable written name read = some made := by
  rcases nullable_eq_some.mp found with ⟨-, rfl⟩ | ⟨value, own, -, -, own_read, rfl⟩
  · exact nullable_eq_some.mpr (.inl ⟨.inr there, rfl⟩)
  · have again := faithful own_read
    have present : write own ≠ .null := fun null => by simp [null, no_null] at again
    exact nullable_eq_some.mpr (.inr ⟨write own, own, there, present, again, rfl⟩)

theorem list (faithful : Faithful read write) :
    Faithful (list? read) fun made => .array (made.map write) := by
  intro value made found
  replace found := Option.bind_eq_some_iff.mp found
  obtain ⟨items, -, found⟩ := found
  show (made.map write).mapM read = some made
  induction items generalizing made with
  | nil =>
    cases found
    rfl
  | cons item rest ih =>
    rw [List.mapM_cons] at found
    obtain ⟨first, first_read, found⟩ := Option.bind_eq_some_iff.mp found
    obtain ⟨later, later_read, found⟩ := Option.bind_eq_some_iff.mp found
    cases found
    rw [List.map_cons, List.mapM_cons, faithful first_read, ih later_read]
    rfl

end Faithful

theorem word_faithful : Faithful word? fun word => .natural word.toNat := .of_inverse word_inverse

theorem count_faithful : Faithful count? .natural := by
  intro value made found
  unfold count? bounded? at found ⊢
  obtain ⟨-, within⟩ := Option.filter_eq_some_iff.mp found
  exact Option.filter_eq_some_iff.mpr ⟨(natural?_eq_some _ _).mpr rfl, within⟩

theorem signed_faithful : Faithful signed? .integer := by
  intro value made found
  unfold signed? at found
  split at found
  · show Text.inInt64? made = some made
    unfold Text.inInt64? at found ⊢
    split at found
    · cases found
      rename_i within
      exact if_pos within
    · cases found
  · cases found

theorem real_faithful : Faithful real? .real := by
  intro value made found
  unfold real? at found
  split at found
  · split at found
    · cases found
      rename_i finite
      rw [real, if_pos finite]
      exact if_pos finite
    · cases found
  · cases found

end SceneInspector.Json
