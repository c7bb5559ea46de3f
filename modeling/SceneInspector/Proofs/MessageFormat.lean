import SceneInspector.Message.Wire
import SceneInspector.Proofs.ElementCodec
import SceneInspector.Proofs.JsonReaders

namespace SceneInspector
open Json
open Dictionary (get?)

variable {members : Members} {value : Json}

namespace Fit

theorem inputs_steady : Steady canonical Inputs.ofJson? :=
  .fields _ _ fun settles => .bind (string_steady.required settles _) fun _ =>
    .bind (real_steady.nullable settles _) fun _ => .bind (real_steady.nullable settles _) fun _ =>
      .bind (count_steady.nullable settles _) fun _ => .pure _

theorem contour_steady : Steady canonical ContourRequest.ofJson? :=
  .fields _ _ fun settles => .bind (word_steady.required settles _) fun _ =>
    .bind (signed_steady.required settles _) fun _ =>
      .bind (signed_steady.required settles _) fun _ => .pure _

theorem scan_steady : Steady canonical ScanRequest.ofJson? :=
  .fields _ _ fun settles => .bind (word_steady.required settles _) fun _ =>
    .bind (signed_steady.required settles _) fun _ =>
      .bind (real_steady.required settles _) fun _ =>
        .bind (real_steady.required settles _) fun _ => .pure _

theorem inputs_faithful : Faithful Inputs.ofJson? fun inputs => .object inputs.toMembers := by
  intro value inputs read
  obtain ⟨members, -, read⟩ := Option.bind_eq_some_iff.mp read
  show Inputs.ofMembers? inputs.toMembers = some inputs
  unfold Inputs.ofMembers? at read ⊢
  simp only [Option.bind_eq_bind, Option.bind_eq_some_iff] at read
  obtain ⟨library, library_read, definition, definition_read, tolerance, tolerance_read,
    iterations, iterations_read, made⟩ := read
  cases made
  rw [real_faithful.nullable rfl definition_read rfl, real_faithful.nullable rfl tolerance_read rfl,
    count_faithful.nullable rfl iterations_read rfl]
  rfl

theorem contour_faithful :
    Faithful ContourRequest.ofJson? fun request => .object request.toMembers := by
  intro value request read
  obtain ⟨members, -, read⟩ := Option.bind_eq_some_iff.mp read
  show ContourRequest.ofMembers? request.toMembers = some request
  unfold ContourRequest.ofMembers? at read ⊢
  simp only [Option.bind_eq_bind, Option.bind_eq_some_iff] at read
  obtain ⟨points, points_read, first, first_read, second, second_read, made⟩ := read
  cases made
  rw [word_faithful.required (readable_of_required points_read) rfl,
    signed_faithful.required (readable_of_required first_read) rfl,
    signed_faithful.required (readable_of_required second_read) rfl]
  rfl

theorem scan_faithful : Faithful ScanRequest.ofJson? fun request => .object request.toMembers := by
  intro value request read
  obtain ⟨members, -, read⟩ := Option.bind_eq_some_iff.mp read
  show ScanRequest.ofMembers? request.toMembers = some request
  unfold ScanRequest.ofMembers? at read ⊢
  simp only [Option.bind_eq_bind, Option.bind_eq_some_iff] at read
  obtain ⟨points, points_read, parameter, parameter_read, low, low_read, high, high_read, made⟩ :=
    read
  cases made
  rw [word_faithful.required (readable_of_required points_read) rfl,
    signed_faithful.required (readable_of_required parameter_read) rfl,
    real_faithful.required (readable_of_required low_read) rfl,
    real_faithful.required (readable_of_required high_read) rfl]
  rfl

namespace Command

-- Here and below the cases of a variant stand in the order of the names.
theorem steady (tagging : Tagging) : Steady canonical (ofJson? tagging) := by
  refine .chosen _ _ _ fun name value made found => ?_
  unfold ofVariant? at found
  split at found
  case h_1 => exact Steady.bind inputs_steady (fun _ => .pure _) found
  case h_2 | h_3 | h_12 => exact Steady.bare _ found
  case h_8 => exact Steady.bind (bool_steady.single _) (fun _ => .pure _) found
  case h_9 =>
    exact Steady.fields _ _ (fun settles => .bind (real_steady.required settles _) fun _ =>
      .bind (real_steady.required settles _) fun _ => .pure _) found
  case h_10 => exact Steady.bind contour_steady (fun _ => .pure _) found
  case h_11 => exact Steady.bind scan_steady (fun _ => .pure _) found
  case h_14 => cases found
  all_goals exact Steady.bind (string_steady.single _) (fun _ => .pure _) found

def PartsReadable : Command → Prop
  | .doFit inputs => Readable Inputs.ofJson? inputs
  | .updateRange low high => Readable real? low ∧ Readable real? high
  | .drawContour request => Readable ContourRequest.ofJson? request
  | .drawScan request => Readable ScanRequest.ofJson? request
  | _ => True

theorem ofJson?_parts {tagging : Tagging} {value : Json} {command : Command}
    (read : ofJson? tagging value = some command) : command.PartsReadable := by
  obtain ⟨_, rest, _, -, -, found⟩ := chosen?_eq_some.mp read
  unfold ofVariant? at found
  split at found
  case h_1 | h_10 | h_11 =>
    obtain ⟨own, own_read, made⟩ := Option.bind_eq_some_iff.mp found
    cases made
    exact ⟨rest, own_read⟩
  case h_9 =>
    obtain ⟨range, -, found⟩ := Option.bind_eq_some_iff.mp found
    obtain ⟨low, low_read, found⟩ := Option.bind_eq_some_iff.mp found
    obtain ⟨high, high_read, made⟩ := Option.bind_eq_some_iff.mp found
    cases made
    exact ⟨readable_of_required low_read, readable_of_required high_read⟩
  case h_2 | h_3 | h_12 =>
    obtain ⟨_, -, rfl⟩ := Option.map_eq_some_iff.mp found
    trivial
  case h_14 => cases found
  all_goals
    obtain ⟨own, -, made⟩ := Option.bind_eq_some_iff.mp found
    cases made
    trivial

theorem faithful (tagging : Tagging) :
    Faithful (ofJson? tagging) fun command => .object command.toMembers := by
  intro value command read
  have parts := ofJson?_parts read
  cases command with
  | doFit inputs =>
    refine chosen?_first rfl (by decide) ?_
    exact Option.bind_eq_some_iff.mpr ⟨inputs, inputs_faithful.again parts, rfl⟩
  | updateRange low high =>
    refine chosen?_first rfl (by decide) ?_
    exact Option.bind_eq_some_iff.mpr ⟨low, real_faithful.required parts.1 rfl,
      Option.bind_eq_some_iff.mpr ⟨high, real_faithful.required parts.2 rfl, rfl⟩⟩
  | drawContour request =>
    refine chosen?_first rfl (by decide) ?_
    exact Option.bind_eq_some_iff.mpr ⟨request, contour_faithful.again parts, rfl⟩
  | drawScan request =>
    refine chosen?_first rfl (by decide) ?_
    exact Option.bind_eq_some_iff.mpr ⟨request, scan_faithful.again parts, rfl⟩
  | _ => rfl

end Command
end Fit

namespace Editor.Control.Event

theorem steady (tagging : Tagging) : Steady canonical (ofJson? tagging) := by
  refine .chosen _ _ _ fun name value made found => ?_
  unfold ofVariant? at found
  split at found
  case h_3 => exact Steady.bind (bool_steady.single _) (fun _ => .pure _) found
  case h_5 => exact Steady.bare _ found
  case h_6 => cases found
  all_goals exact Steady.bind (string_steady.single _) (fun _ => .pure _) found

theorem faithful (tagging : Tagging) : Faithful (ofJson? tagging) toJson := by
  intro value event _
  cases event <;> rfl

end Editor.Control.Event

namespace Element
variable {change : Change} {name : String}

theorem forestOfJson?_steady : Steady canonical forestOfJson? := by
  intro value forest read
  cases value with
  | array items => exact (forestOfItems?_carried items read).forestOfItems?
  | _ => cases read

theorem forestOfJson?_faithful :
    Faithful forestOfJson? fun forest => .array forest.elementsJson := by
  intro value forest read
  cases value with
  | array items => exact (forestOfItems?_carried items read).elementsJson.forestOfItems?
  | _ => cases read

namespace Change

theorem steady : Steady canonical ofJson? :=
  .object fun _ _ read => (ofMembers?_carried read).ofJson?

theorem faithful : Faithful ofMembers? toMembers :=
  fun _ _ read => (ofMembers?_carried read).toMembers.ofJson?

-- The flag and the known names aside, the element has what the object has.
theorem Carried.get?_root (carried : change.Carried members) (name : String) :
    get? name change.snapshot.root.members =
      if name ∈ flagName :: knownNames then none else get? name members := by
  cases carried.snapshot with
  | cons own _ _ _ =>
    by_cases known : name ∈ knownNames
    · rw [if_pos (List.mem_cons_of_mem _ known), own.kept.unknown name known]
    by_cases flag : name = flagName
    · rw [if_pos (by simp [flag]), flag, carried.get?_flag]
    · rw [if_neg (by simp [flag, known]), own.others name known,
        Dictionary.get?_erase_of_ne flagName name members flag]

-- A name that stands in no place of its own and that an object does not have is not written.
theorem presence_toMembers (read : ofMembers? members = some change)
    (free : name ∉ flagName :: knownNames) (missing : presence name members = .absent) :
    presence name change.toMembers = .absent := by
  have carried := ofMembers?_carried read
  have written := carried.toMembers
  have before := carried.get?_root name
  have after := written.get?_root name
  rw [if_neg free] at before after
  have nowhere := inOrder_settles.absent missing
  rw [presence_sorted carried.sorted, ← before, after] at nowhere
  rw [presence_sorted written.sorted]
  exact nowhere

end Change
end Element

namespace Message

theorem ticked_steady : Steady canonical Ticked.ofJson? :=
  .fields _ _ fun settles => .bind (string_steady.required settles _) fun _ =>
    .bind (bool_steady.required settles _) fun _ => .pure _

theorem ticked_faithful : Faithful Ticked.ofJson? Ticked.toJson := fun _ _ _ => rfl

namespace SceneNotice

theorem steady (tagging : Tagging) : Steady canonical (ofJson? tagging) := by
  refine .chosen _ _ _ fun name value made found => ?_
  unfold ofVariant? at found
  split at found
  case h_1 =>
    exact Steady.bind (Element.forestOfJson?_steady.single _) (fun _ => .pure _) found
  case h_3 => exact Steady.bind Element.Change.steady (fun _ => .pure _) found
  case h_4 => exact Steady.bind (word_steady.list.single _) (fun _ => .pure _) found
  case h_2 | h_5 => exact Steady.bare _ found
  case h_6 => cases found

def PartsReadable (value : Json) : SceneNotice → Prop
  | .managerInit roots => Readable Element.forestOfJson? roots
  | .elementChanged change => ∃ members, value = .object members ∧
      Element.Change.ofMembers? (Dictionary.erase "kind" members) = some change
  | .elementsRemoved ids => Readable (list? word?) ids
  | .beginChanges | .endChanges => True

theorem ofJson?_parts {tagging : Tagging} {value : Json} {notice : SceneNotice}
    (read : ofJson? tagging value = some notice) : notice.PartsReadable value := by
  obtain ⟨_, rest, _, told, -, found⟩ := chosen?_eq_some.mp read
  unfold ofVariant? at found
  split at found
  case h_1 | h_4 =>
    obtain ⟨own, own_read, made⟩ := Option.bind_eq_some_iff.mp found
    cases made
    exact readable_of_single own_read
  case h_3 =>
    obtain ⟨change, own_read, made⟩ := Option.bind_eq_some_iff.mp found
    cases made
    obtain ⟨members, object, own_read⟩ := Option.bind_eq_some_iff.mp own_read
    obtain ⟨whole, rfl, rfl⟩ := tagged?_eq_object told object
    exact ⟨whole, rfl, own_read⟩
  case h_2 | h_5 =>
    obtain ⟨_, -, rfl⟩ := Option.map_eq_some_iff.mp found
    trivial
  case h_6 => cases found

theorem faithful (tagging : Tagging) :
    Faithful (ofJson? tagging) fun notice => .object notice.toMembers := by
  intro value notice read
  have parts := ofJson?_parts read
  cases notice with
  | managerInit roots =>
    refine chosen?_first rfl (by decide) ?_
    exact Option.bind_eq_some_iff.mpr
      ⟨roots, Element.forestOfJson?_faithful.single parts "roots", rfl⟩
  | elementChanged change =>
    obtain ⟨members, rfl, own_read⟩ := parts
    have untold : presence "kind" change.toMembers = .absent :=
      Element.Change.presence_toMembers own_read (by decide) (presence_erase_self "kind" members)
    refine chosen?_first untold (by decide) ?_
    exact Option.bind_eq_some_iff.mpr ⟨change, Element.Change.faithful own_read, rfl⟩
  | elementsRemoved ids =>
    refine chosen?_first rfl (by decide) ?_
    exact Option.bind_eq_some_iff.mpr ⟨ids, word_faithful.list.single parts "ids", rfl⟩
  | beginChanges | endChanges => rfl

-- The name of the outer tag is not written if it was not read.
theorem presence_toMembers {tagging : Tagging} {notice : SceneNotice}
    (read : ofJson? tagging value = some notice)
    (missing : ∀ members, value = .object members → presence "type" members = .absent) :
    presence "type" notice.toMembers = .absent := by
  cases notice with
  | elementChanged change =>
    obtain ⟨members, rfl, own_read⟩ := ofJson?_parts read
    have untold : presence "type" (Dictionary.erase "kind" members) = .absent :=
      (presence_erase (by decide) members).trans (missing members rfl)
    exact Element.Change.presence_toMembers own_read (by decide) untold
  | _ => rfl

end SceneNotice

theorem steady : Steady canonical ofJson? := by
  refine .chosen _ _ _ fun name value made found => ?_
  unfold ofVariant? at found
  split at found
  case h_1 => exact Steady.bind (SceneNotice.steady _) (fun _ => .pure _) found
  case h_3 | h_4 =>
    exact Steady.fields _ _ (fun settles => .bind (word_steady.required settles _) fun _ =>
      .bind (word_steady.required settles _) fun _ => .pure _) found
  case h_5 => exact Steady.bind (ticked_steady.list.single _) (fun _ => .pure _) found
  case h_7 => exact Steady.bind (word_steady.single _) (fun _ => .pure _) found
  case h_9 =>
    exact Steady.fields _ _ (fun settles => .bind (count_steady.required settles _) fun _ =>
      .bind ((Editor.Control.Event.steady _).required settles _) fun _ => .pure _) found
  case h_11 => exact Steady.bind (Fit.Command.steady _) (fun _ => .pure _) found
  case h_8 | h_10 | h_12 => exact Steady.bare _ found
  case h_13 => cases found
  all_goals exact Steady.bind (string_steady.single _) (fun _ => .pure _) found

def PartsReadable (value : Json) : Message → Prop
  | .scene notice => ∃ rest, SceneNotice.ofJson? .byNameOrPosition rest = some notice ∧
      ∀ own, rest = .object own → ∃ members, value = .object members ∧
        own = Dictionary.erase "type" members
  | .selectElement selection element | .unselectElement selection element =>
    Readable word? selection ∧ Readable word? element
  | .selectionChanged items => Readable (list? Ticked.ofJson?) items
  | .mouseEnter element => Readable word? element
  | .controlEdited index event =>
    Readable count? index ∧ Readable (Editor.Control.Event.ofJson? .byNameOrPosition) event
  | .fit command => Readable (Fit.Command.ofJson? .byNameOrPosition) command
  | .panel _ | .detailPressed _ | .mouseLeave | .closeEditor | .quit => True

theorem ofJson?_parts {message : Message} (read : ofJson? value = some message) :
    message.PartsReadable value := by
  obtain ⟨_, rest, _, told, -, found⟩ := chosen?_eq_some.mp read
  unfold ofVariant? at found
  split at found
  case h_1 =>
    obtain ⟨notice, own_read, made⟩ := Option.bind_eq_some_iff.mp found
    cases made
    refine ⟨rest, own_read, ?_⟩
    rintro own rfl
    obtain ⟨members, rfl, erased⟩ := tagged?_eq_object told rfl
    exact ⟨members, rfl, erased⟩
  case h_11 =>
    obtain ⟨command, own_read, made⟩ := Option.bind_eq_some_iff.mp found
    cases made
    exact ⟨rest, own_read⟩
  case h_5 | h_7 =>
    obtain ⟨own, own_read, made⟩ := Option.bind_eq_some_iff.mp found
    cases made
    exact readable_of_single own_read
  case h_3 | h_4 | h_9 =>
    obtain ⟨members, -, found⟩ := Option.bind_eq_some_iff.mp found
    obtain ⟨first, first_read, found⟩ := Option.bind_eq_some_iff.mp found
    obtain ⟨second, second_read, made⟩ := Option.bind_eq_some_iff.mp found
    cases made
    exact ⟨readable_of_required first_read, readable_of_required second_read⟩
  case h_2 | h_6 =>
    obtain ⟨text, -, made⟩ := Option.bind_eq_some_iff.mp found
    cases made
    trivial
  case h_8 | h_10 | h_12 =>
    obtain ⟨_, -, rfl⟩ := Option.map_eq_some_iff.mp found
    trivial
  case h_13 => cases found

theorem faithful : Faithful ofJson? toJson := by
  intro value message read
  have parts := ofJson?_parts read
  cases message with
  | scene notice =>
    obtain ⟨rest, own_read, without_tag⟩ := parts
    have untold : presence "type" notice.toMembers = .absent := by
      refine SceneNotice.presence_toMembers own_read fun own object => ?_
      obtain ⟨members, -, rfl⟩ := without_tag own object
      exact presence_erase_self "type" members
    refine chosen?_first untold (by decide) ?_
    exact Option.bind_eq_some_iff.mpr ⟨notice, SceneNotice.faithful _ own_read, rfl⟩
  | selectElement selection element | unselectElement selection element =>
    refine chosen?_first rfl (by decide) ?_
    exact Option.bind_eq_some_iff.mpr ⟨selection, word_faithful.required parts.1 rfl,
      Option.bind_eq_some_iff.mpr ⟨element, word_faithful.required parts.2 rfl, rfl⟩⟩
  | selectionChanged items =>
    refine chosen?_first rfl (by decide) ?_
    exact Option.bind_eq_some_iff.mpr ⟨items, ticked_faithful.list.single parts "items", rfl⟩
  | mouseEnter element =>
    refine chosen?_first rfl (by decide) ?_
    exact Option.bind_eq_some_iff.mpr ⟨element, word_faithful.single parts "element_id", rfl⟩
  | controlEdited index event =>
    refine chosen?_first rfl (by decide) ?_
    exact Option.bind_eq_some_iff.mpr ⟨index, count_faithful.required parts.1 rfl,
      Option.bind_eq_some_iff.mpr
        ⟨event, (Editor.Control.Event.faithful _).required parts.2 rfl, rfl⟩⟩
  | fit command =>
    have untold : presence "type" command.toMembers = .absent := by
      cases command <;> rfl
    refine chosen?_first untold (by decide) ?_
    exact Option.bind_eq_some_iff.mpr ⟨command, (Fit.Command.faithful _).again parts, rfl⟩
  | panel | detailPressed | mouseLeave | closeEditor | quit => rfl

-- Of an object with a change the element keeps the members that are neither the tags, nor the
-- flag, nor known names.
theorem get?_changed {value : Json} {change : Element.Change}
    (read : ofJson? value = some (.scene (.elementChanged change))) :
    ∃ members, value = .object members ∧ ∀ name, get? name change.snapshot.root.members =
      if name ∈ "type" :: "kind" :: Element.Change.flagName :: Element.knownNames then none
      else get? name (inOrder members) := by
  obtain ⟨rest, notice, without_tag⟩ := ofJson?_parts read
  obtain ⟨own, rfl, own_read⟩ := SceneNotice.ofJson?_parts notice
  obtain ⟨members, rfl, rfl⟩ := without_tag own rfl
  refine ⟨members, rfl, fun name => ?_⟩
  have carried : change.Carried
      (Dictionary.erase "kind" (Dictionary.erase "type" (inOrder members))) := by
    rw [← inOrder_erase, ← inOrder_erase]
    exact Element.Change.ofMembers?_carried own_read
  rw [carried.get?_root]
  by_cases free : name ∈ Element.Change.flagName :: Element.knownNames
  · rw [if_pos free, if_pos (by simp only [List.mem_cons_of_mem, free])]
  rw [if_neg free]
  by_cases inner : name = "kind"
  · rw [inner, Dictionary.get?_erase_self, if_pos (by simp)]
  rw [Dictionary.get?_erase_of_ne _ _ _ inner]
  by_cases outer : name = "type"
  · rw [outer, Dictionary.get?_erase_self, if_pos (by simp)]
  · rw [Dictionary.get?_erase_of_ne _ _ _ outer, if_neg]
    rw [List.mem_cons, List.mem_cons]
    exact not_or.mpr ⟨outer, not_or.mpr ⟨inner, free⟩⟩

-- Whatever object a message is read from, in whatever order its members are: what is written for
-- the message is read as the same message, as it is written and in its canonical form. The tags of
-- a change are not among the members of its element, and neither the reading nor the writing
-- touches the members that are.
theorem wire_round_trip (value : Json) (message : Message) (read : ofJson? value = some message) :
    ofJson? message.toJson = some message ∧
    ofJson? message.toJson.canonical = some message ∧
    ∀ change, message = .scene (.elementChanged change) →
      ∃ members, value.canonical = .object members ∧
        ∀ name, get? name change.snapshot.root.members =
          if name ∈ "type" :: "kind" :: Element.Change.flagName :: Element.knownNames then none
          else get? name members := by
  have again := faithful read
  refine ⟨again, steady again, ?_⟩
  rintro change rfl
  obtain ⟨members, rfl, told⟩ := get?_changed read
  exact ⟨inOrder members, rfl, told⟩

-- A change of a track with its tags among the members. To the child the name of a tag is a name
-- like any other, and so is to the track the name of a tag that changes do not have.
def trackToggled : Json := .object [
  ("fNDiv", .natural 72),
  ("kind", .string "element_changed"),
  ("command", .string "reset"),
  ("fElementId", .natural 7),
  ("rnr_self_changed", .bool true),
  ("type", .string "scene"),
  ("childs", .array [.object [("type", .string "hit"), ("fElementId", .natural 8)]])]

def toggling : Element.Change :=
  ⟨⟨{ id := 7, members := [("command", .string "reset"), ("fNDiv", .natural 72)] },
    .cons { id := 8, members := [("type", .string "hit")] } .empty .empty⟩, true⟩

theorem wire_round_trip_toggled :
    ofJson? trackToggled = some (.scene (.elementChanged toggling)) ∧
    ofJson? (toJson (.scene (.elementChanged toggling))).canonical =
      some (.scene (.elementChanged toggling)) ∧
    get? "type" toggling.snapshot.root.members = none ∧
    get? "kind" toggling.snapshot.root.members = none := by
  have read : ofJson? trackToggled = some (.scene (.elementChanged toggling)) := by
    decide +kernel
  obtain ⟨-, again, changes⟩ := wire_round_trip trackToggled _ read
  obtain ⟨members, -, told⟩ := changes toggling rfl
  exact ⟨read, again, told "type", told "kind"⟩

-- The values of a record may be listed in the order of its fields, after the tag if it has one.
example : ofJson? (.object [
      ("type", .string "control_edited"),
      ("event", .array [.string "number", .string "3"]),
      ("index", .natural 2)]) = some (.controlEdited 2 (.number "3")) ∧
    ofJson? (.array [.string "selection_changed", .array [.array [.string "/0", .bool true]]]) =
      some (.selectionChanged [⟨"/0", true⟩]) := by
  decide +kernel

end Message
end SceneInspector
