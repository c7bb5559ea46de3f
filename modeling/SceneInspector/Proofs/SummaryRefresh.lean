import SceneInspector.Proofs.ChangeOrder
import SceneInspector.Proofs.RepeatedIds

namespace SceneInspector

-- What is read after a row of acts is what the last of them wrote that wrote it at all.
theorem foldl_written {State Act Value : Type} {step : State → Act → State}
    {read : State → Value} {writes : Act → Bool} {written : Act → Value}
    (law : ∀ state act, read (step state act) = if writes act then written act else read state)
    (acts : List Act) (state : State) :
    read (acts.foldl step state) =
      ((acts.reverse.find? writes).map written).getD (read state) := by
  induction acts using List.reverseRecOn with
  | nil => rfl
  | append_singleton acts act ih =>
    rw [List.foldl_append, List.foldl_cons, List.foldl_nil, law, List.reverse_append,
      List.reverse_singleton, List.singleton_append, List.find?_cons]
    cases writes act with
    | true => rfl
    | false => exact ih

namespace Element

def colour? (element : Element) : Option UInt32 := element.mainColour.filter (· ≠ 0)

def colourText (catalogue : Catalogue) (element : Element) : String :=
  (element.colour?.bind catalogue.colours.lookup?).getD ""

def isEditable (catalogue : Catalogue) (element : Element) : Bool :=
  catalogue.registry.isEditable element.typeName

def isColoured (catalogue : Catalogue) (element : Element) : Bool :=
  element.isEditable catalogue && element.colour?.isSome

def mark (element : Element) : Bool := element.rendersSelf.getD false

end Element

def Element.Change.marks (catalogue : Catalogue) (change : Element.Change) : Bool :=
  change.rendersSelfChanged || change.snapshot.root.isColoured catalogue

namespace Scene
variable {scene : Scene}

theorem ids_retold (indexed : scene.Indexed) (element : Element) :
    ids (scene.retold element).roots = ids scene.roots := by
  have mapped (roots : Forest Element) : (roots.map Element.id).preorder = ids roots := by
    rw [ids, ← Forest.placesFrom_roots (roots.map Element.id) [] 0, Forest.placesFrom_map,
      List.map_map, ← Forest.placesFrom_roots roots [] 0, List.map_map]
    rfl
  rw [← mapped, ← mapped, map_id_retold indexed]

-- Where ids do not repeat an element is the one that its id stands for.
theorem element?_of_mem (indexed : scene.Indexed) (distinct : (ids scene.roots).Nodup)
    {element : Element} (member : element ∈ scene.roots.preorder) :
    ∃ tree, scene.element? element.id = some tree ∧ tree.root = element := by
  have known : (last? scene.roots element.id).isSome = true :=
    (isSome_last? scene.roots element.id).mpr (List.mem_map_of_mem member)
  obtain ⟨tree, found⟩ := Option.isSome_iff_exists.mp known
  have named := last?_id found
  rw [← element?_indexed indexed] at found
  obtain ⟨position, _, there⟩ := Option.bind_eq_some_iff.mp found
  exact ⟨tree, found, List.inj_on_of_nodup_map distinct (Forest.mem_preorder there) member named⟩

end Scene

namespace Summary
variable {catalogue : Catalogue} {change : Element.Change}

theorem refreshed_eq (element : Element) (item : Item) :
    item.refreshed catalogue element = { item with
      name := element.name
      title := element.displayTitle
      master := element.effectiveMaster
      kind := if element.isEditable catalogue then .detailAndActive else .active
      mainColour := if element.isEditable catalogue then element.colourText catalogue
        else item.mainColour
      selected := if element.isColoured catalogue then element.mark else item.selected } := by
  unfold Item.refreshed Element.isColoured Element.colourText Element.isEditable Element.mark
    Element.colour?
  dsimp only
  cases catalogue.registry.isEditable element.typeName with
  | false => rfl
  | true =>
    rw [if_pos rfl]
    cases element.mainColour.filter (· ≠ 0) with
    | none => rfl
    | some index => rfl

def Item.told (catalogue : Catalogue) (item : Item) (change : Element.Change) : Item :=
  changedItem catalogue (some change.snapshot.root) change item

theorem told_eq (item : Item) (change : Element.Change) : item.told catalogue change =
    { item.refreshed catalogue change.snapshot.root with
      selected := if change.marks catalogue then change.snapshot.root.mark
        else item.selected } := by
  unfold Item.told changedItem Element.Change.marks
  dsimp only
  rw [refreshed_eq]
  cases change.rendersSelfChanged with
  | false => rfl
  | true => rfl

theorem retouches_other {before after : Summary} {id other : ElementId}
    (retouches : Retouches other before after) (indexed : before.index = indexOf before.roots)
    (still : after.index = indexOf after.roots) (different : id ≠ other) :
    (after.item? id).map (·.root) = (before.item? id).map (·.root) := by
  rw [item?_indexed still, item?_indexed indexed, first?_root, first?_root]
  rcases retouches.2 with same | ⟨hole, tree, item, _, found, split, again, element, _⟩
  · rw [same]
  · have named : tree.root.element = other := item_named indexed found
    have apart : other ≠ id := different.symm
    rw [split, again]
    simp [Hole.preorder_fill, element, named, apart]

theorem item?_applyChange (summary : Summary) (catalogue : Catalogue) (scene : Scene)
    (change : Element.Change) :
    ((summary.applyChange catalogue scene change).item? change.snapshot.root.id).map (·.root) =
      (summary.item? change.snapshot.root.id).map fun tree =>
        changedItem catalogue ((scene.element? change.snapshot.root.id).map (·.root)) change
          tree.root := by
  rw [applyChange_eq]
  unfold item? retold
  cases summary.index[change.snapshot.root.id]? with
  | none => rfl
  | some position => simp [Forest.edited, Forest.tree?_modify, Function.comp_def]

def followed (catalogue : Catalogue) (both : Scene × Summary) (change : Element.Change) :
    Scene × Summary :=
  let scene := (both.1.apply change.snapshot).1
  (scene, both.2.applyChange catalogue scene change)

structure Shown (id : ElementId) (both : Scene × Summary) (element : Element) (item : Item) :
    Prop where
  indexed : both.1.Indexed
  distinct : (Scene.ids both.1.roots).Nodup
  wellFormed : both.2.WellFormed
  live : (both.1.element? id).map (·.root) = some element
  item : (both.2.item? id).map (·.root) = some item

theorem followed_shown {id : ElementId} {both : Scene × Summary} {element : Element} {item : Item}
    (shown : Shown id both element item) (catalogue : Catalogue) {change : Element.Change}
    (bare : change.Bare) :
    Shown id (followed catalogue both change)
      (if change.snapshot.root.id = id then change.snapshot.root else element)
      (if change.snapshot.root.id = id then item.told catalogue change else item) := by
  obtain ⟨scene, summary⟩ := both
  obtain ⟨indexed, distinct, wellFormed, live, there⟩ := shown
  have still := (applyChange_inPlace summary catalogue (scene.apply change.snapshot).1
    change).wellFormed wellFormed
  refine ⟨Scene.apply_indexed indexed _, ?_, still, ?_, ?_⟩
  · show (Scene.ids (scene.apply change.snapshot).1.roots).Nodup
    rwa [Scene.apply_bare scene bare, Scene.ids_retold indexed]
  · show ((scene.apply change.snapshot).1.element? id).map (·.root) = _
    split
    · rename_i same
      subst same
      rw [Scene.apply_bare scene bare, Scene.element?_retold indexed]
      obtain ⟨tree, found, _⟩ := Option.map_eq_some_iff.mp live
      obtain ⟨position, known, _⟩ := Option.bind_eq_some_iff.mp found
      rw [Scene.taken?, known, Option.map_some]
    · rename_i other
      rwa [Scene.apply_other indexed (by rw [bare]; rfl) (Ne.symm other)]
  · show ((summary.applyChange catalogue (scene.apply change.snapshot).1 change).item? id).map
      (·.root) = _
    split
    · rename_i same
      subst same
      obtain ⟨tree, found, rfl⟩ := Option.map_eq_some_iff.mp there
      obtain ⟨element, live, _⟩ := Option.map_eq_some_iff.mp live
      obtain ⟨position, known, _⟩ := Option.bind_eq_some_iff.mp live
      rw [item?_applyChange, Scene.apply_bare scene bare, Scene.element?_retold indexed,
        Scene.taken?, known, found]
      rfl
    · rename_i other
      rwa [retouches_other (applyChange_retouches ..) wellFormed.indexed still.indexed
        (Ne.symm other)]

theorem run_shown {id : ElementId} {both : Scene × Summary} {element : Element} {item : Item}
    (shown : Shown id both element item) (catalogue : Catalogue) {changes : List Element.Change}
    (bare : ∀ change ∈ changes, change.Bare) :
    let told := changes.filter (·.snapshot.root.id = id)
    Shown id (changes.foldl (followed catalogue) both)
      (told.foldl (fun _ change => change.snapshot.root) element)
      (told.foldl (Item.told catalogue) item) := by
  induction changes generalizing both element item with
  | nil => exact shown
  | cons change rest ih =>
    have next := followed_shown shown catalogue (bare change List.mem_cons_self)
    have onward := ih next fun other member => bare other (List.mem_cons_of_mem _ member)
    by_cases same : change.snapshot.root.id = id
    · simpa [same] using onward
    · simpa [same] using onward

theorem index_run (changes : List Element.Change) (both : Scene × Summary) :
    (changes.foldl (followed catalogue) both).2.index = both.2.index := by
  induction changes generalizing both with
  | nil => rfl
  | cons change rest ih =>
    rw [List.foldl_cons, ih]
    exact (applyChange_inPlace both.2 catalogue (both.1.apply change.snapshot).1 change).index

-- Where ids do not repeat, the items of a scene show the elements that their ids stand for.
theorem rebuild_shows_live {scene : Scene} (indexed : scene.Indexed)
    (distinct : (Scene.ids scene.roots).Nodup) {summary : Summary} {id : ElementId}
    {item : Tree Item} (found : (summary.rebuild catalogue scene.roots).item? id = some item) :
    ∃ tree, scene.element? id = some tree ∧ Shows catalogue item.root tree.root := by
  obtain ⟨element, among, same, shows⟩ :=
    mem_shows (rebuild_shows summary catalogue scene.roots) (item?_mem found)
  obtain ⟨tree, live, rfl⟩ :=
    Scene.element?_of_mem indexed distinct (shownElements_subset _ _ _ among)
  rw [same, item_named rfl found] at live
  exact ⟨tree, live, shows⟩

def readings (first : Element) (changes : List Element.Change) : List Element.Change :=
  ⟨⟨first, .empty⟩, false⟩ :: changes.filter (·.snapshot.root.id = first.id)

theorem readings_last (first : Element) (changes : List Element.Change) :
    ∃ earlier latest, readings first changes = earlier ++ [latest] ∧
      latest.snapshot.root = (changes.filter (·.snapshot.root.id = first.id)).foldl
        (fun _ change => change.snapshot.root) first := by
  unfold readings
  cases changes.filter (·.snapshot.root.id = first.id) using List.reverseRecOn with
  | nil => exact ⟨[], _, rfl, rfl⟩
  | append_singleton told change => exact ⟨_ :: told, change, rfl, by simp⟩

theorem mainColour_told (catalogue : Catalogue) (reads : List Element.Change) (item : Item) :
    (reads.foldl (Item.told catalogue) item).mainColour =
      ((reads.reverse.find? (·.snapshot.root.isEditable catalogue)).map
        (·.snapshot.root.colourText catalogue)).getD item.mainColour :=
  foldl_written (fun item change => by rw [told_eq, refreshed_eq]) reads item

theorem selected_told (catalogue : Catalogue) (reads : List Element.Change) (item : Item) :
    (reads.foldl (Item.told catalogue) item).selected =
      ((reads.reverse.find? (·.marks catalogue)).map (·.snapshot.root.mark)).getD
        item.selected :=
  foldl_written (fun item change => by rw [told_eq]) reads item

-- An item after these readings of its element against one that is made anew. The colour agrees if
-- the element has an editor, or had no colour when last it had one. The mark agrees if the element
-- shows a colour, or if the last reading with a say in it took it off. A mark that a flag has set
-- is as the flag was.
structure Refreshed (catalogue : Catalogue) (reads : List Element.Change) (live : Element)
    (kept anew : Item) : Prop where
  name : kept.name = anew.name
  title : kept.title = anew.title
  master : kept.master = anew.master
  visible : kept.visible = anew.visible
  kind : kept.kind = anew.kind
  mainColour :
    live.isEditable catalogue = true ∨
      (∀ last, reads.reverse.find? (·.snapshot.root.isEditable catalogue) = some last →
        last.snapshot.root.colour? = none) →
    kept.mainColour = anew.mainColour
  selected :
    live.isColoured catalogue = true ∨
      (∀ last, reads.reverse.find? (·.marks catalogue) = some last →
        last.snapshot.root.mark = false) →
    kept.selected = anew.selected
  flagged : ∀ last, reads.reverse.find? (·.marks catalogue) = some last →
    last.rendersSelfChanged = true → kept.selected = last.snapshot.root.mark

theorem told_refreshed {earlier : List Element.Change} {latest : Element.Change} {blank anew : Item}
    (colourless : blank.mainColour = "") (unmarked : blank.selected = false)
    (shows : Shows catalogue anew latest.snapshot.root) :
    Refreshed catalogue (earlier ++ [latest]) latest.snapshot.root
      ((earlier ++ [latest]).foldl (Item.told catalogue) blank) anew := by
  have colour := mainColour_told catalogue (earlier ++ [latest]) blank
  have mark := selected_told catalogue (earlier ++ [latest]) blank
  rw [colourless] at colour
  rw [unmarked] at mark
  have last : (earlier ++ [latest]).foldl (Item.told catalogue) blank =
      (earlier.foldl (Item.told catalogue) blank).told catalogue latest := by simp
  rw [Shows, Item.ofElement, refreshed_eq] at shows
  refine ⟨?_, ?_, ?_, ?_, ?_, ?_, ?_, ?_⟩
  · rw [last, told_eq, refreshed_eq, shows]
  · rw [last, told_eq, refreshed_eq, shows]
  · rw [last, told_eq, refreshed_eq, shows]
  · rw [last, told_eq, refreshed_eq, shows]
    rfl
  · rw [last, told_eq, refreshed_eq, shows]
  · intro settled
    rw [colour, shows]
    cases editable : latest.snapshot.root.isEditable catalogue with
    | true => simp [editable]
    | false =>
      cases read : (earlier ++ [latest]).reverse.find? (·.snapshot.root.isEditable catalogue) with
      | none => rfl
      | some last =>
        rcases settled with editor | cleared
        · rw [editable] at editor
          cases editor
        · simp [Element.colourText, cleared last read]
  · intro settled
    rw [mark, shows]
    cases coloured : latest.snapshot.root.isColoured catalogue with
    | true => simp [Element.Change.marks, coloured]
    | false =>
      cases read : (earlier ++ [latest]).reverse.find? (·.marks catalogue) with
      | none => rfl
      | some last =>
        rcases settled with colour | cleared
        · rw [coloured] at colour
          cases colour
        · simp [cleared last read]
  · intro last read _
    rw [mark, read]
    rfl

-- Changes that bring no children leave each item as a build from the changed scene would make it,
-- but for what a flag says of the mark and what is left from an earlier colour.
theorem refreshed_as_rebuilt {scene : Scene} (reached : Scene.Reached scene)
    (distinct : (Scene.ids scene.roots).Nodup) (catalogue : Catalogue) (built fresh : Summary)
    {changes : List Element.Change} (bare : ∀ change ∈ changes, change.Bare) :
    let after := changes.foldl (followed catalogue) (scene, built.rebuild catalogue scene.roots)
    ∀ id kept anew, after.2.item? id = some kept →
      (fresh.rebuild catalogue after.1.roots).item? id = some anew →
      ∃ first live, scene.element? id = some first ∧ after.1.element? id = some live ∧
        Refreshed catalogue (readings first.root changes) live.root kept.root anew.root := by
  intro after id kept anew still again
  have indexed := Scene.reached_indexed reached
  have wellFormed := rebuild_wellFormed built catalogue scene.roots
  obtain ⟨position, known, _⟩ := Option.bind_eq_some_iff.mp still
  rw [index_run] at known
  obtain ⟨item, there, _⟩ := tree?_of_index wellFormed.indexed known
  have found : (built.rebuild catalogue scene.roots).item? id = some item := by
    rw [item?, known]
    exact there
  obtain ⟨first, live, shows⟩ := rebuild_shows_live indexed distinct found
  have shown : Shown id (scene, built.rebuild catalogue scene.roots) first.root item.root :=
    ⟨indexed, distinct, wellFormed, by rw [live]; rfl, by rw [found]; rfl⟩
  have later := run_shown shown catalogue bare
  obtain ⟨now, live_now, anew_shows⟩ := rebuild_shows_live later.indexed later.distinct again
  refine ⟨first, now, live, live_now, ?_⟩
  have named : first.root.id = id := Scene.element?_id indexed live
  obtain ⟨earlier, latest, split, last⟩ := readings_last first.root changes
  have live_last : latest.snapshot.root = now.root := by
    have present := later.live
    rw [live_now, Option.map_some, Option.some.injEq] at present
    rw [last, named, present]
  have kept_told : kept.root = (readings first.root changes).foldl (Item.told catalogue)
      ⟨first.root.id, first.root.effectiveMaster, item.root.position, "", "", .active, .plain, "",
        false⟩ := by
    have present := later.item
    rw [still, Option.map_some, Option.some.injEq, shows, ← named] at present
    exact present
  rw [← live_last] at anew_shows ⊢
  rw [kept_told, split]
  exact told_refreshed rfl rfl anew_shows

def paintedTrack (name : String) (mainColour : Option UInt32) (rendersSelf : Bool) : Element :=
  { id := 5, name, typeName := "REveTrack", mainColour, rendersSelf := some rendersSelf }

def trackScene (track : Element) : Scene := .ofRoots
  (.cons { id := 2, name := "Event" } (.cons track .empty (.cons { id := 7 } .empty .empty)) .empty)

def trackPaled : List Element.Change := [
  ⟨⟨{ id := 2, name := "Event 2" }, .empty⟩, false⟩,
  ⟨⟨paintedTrack "Track" (some 2) false, .empty⟩, true⟩,
  ⟨⟨paintedTrack "Track 2" none true, .empty⟩, false⟩]

theorem refreshed_as_rebuilt_track :
    let scene := trackScene (paintedTrack "Track" (some 4) true)
    let catalogue : Catalogue := ⟨.builtin, {}⟩
    let after := trackPaled.foldl (followed catalogue)
      (scene, (blank 2 0).rebuild catalogue scene.roots)
    Scene.Reached scene ∧ (Scene.ids scene.roots).Nodup ∧
      (∀ change ∈ trackPaled, change.Bare) ∧
      ∃ kept anew, after.2.item? 5 = some kept ∧
        ((blank 2 0).rebuild catalogue after.1.roots).item? 5 = some anew ∧
        kept.root.name = anew.root.name ∧ kept.root.mainColour = anew.root.mainColour ∧
        kept.root.selected = anew.root.selected ∧ kept.root.selected = false := by
  intro scene catalogue after
  have reached : Scene.Reached scene := .made _
  have distinct : (Scene.ids scene.roots).Nodup := by decide
  have bare : ∀ change ∈ trackPaled, change.Bare := by simp [trackPaled, Element.Change.Bare]
  obtain ⟨kept, still⟩ : ∃ kept, after.2.item? 5 = some kept :=
    Option.isSome_iff_exists.mp (by decide +kernel)
  obtain ⟨anew, again⟩ :
      ∃ anew, ((blank 2 0).rebuild catalogue after.1.roots).item? 5 = some anew :=
    Option.isSome_iff_exists.mp (by decide +kernel)
  obtain ⟨first, live, before, now, refreshed⟩ := refreshed_as_rebuilt reached distinct catalogue
    (blank 2 0) (blank 2 0) bare 5 kept anew still again
  have first_root : (scene.element? 5).map (·.root) = some (paintedTrack "Track" (some 4) true) := by
    decide +kernel
  have live_root : (after.1.element? 5).map (·.root) = some (paintedTrack "Track 2" none true) := by
    decide +kernel
  rw [before] at first_root
  rw [now] at live_root
  have first_root : first.root = paintedTrack "Track" (some 4) true := Option.some.inj first_root
  have live_root : live.root = paintedTrack "Track 2" none true := Option.some.inj live_root
  have read : (readings first.root trackPaled).reverse.find? (·.marks catalogue) =
      some ⟨⟨paintedTrack "Track" (some 2) false, .empty⟩, true⟩ := by
    rw [first_root]
    decide +kernel
  refine ⟨reached, distinct, bare, kept, anew, still, again, refreshed.name,
    refreshed.mainColour (.inl ?_), refreshed.selected (.inr ?_), refreshed.flagged _ read rfl⟩
  · rw [live_root]
    decide +kernel
  · intro last found
    cases read.symm.trans found
    rfl

-- A track without a colour takes a mark from the flag of a change, and has none when made anew.
theorem flagged_mark_not_rebuilt :
    let scene := trackScene (paintedTrack "Track" none false)
    let catalogue : Catalogue := ⟨.builtin, {}⟩
    let shown : Element.Change := ⟨⟨paintedTrack "Track" none true, .empty⟩, true⟩
    let after := [shown].foldl (followed catalogue)
      (scene, (blank 2 0).rebuild catalogue scene.roots)
    (Scene.ids scene.roots).Nodup ∧ shown.Bare ∧
      (after.2.item? 5).map (·.root.selected) = some true ∧
      (((blank 2 0).rebuild catalogue after.1.roots).item? 5).map (·.root.selected) =
        some false := by
  intro scene catalogue shown after
  exact ⟨by decide, rfl, by decide +kernel, by decide +kernel⟩

end Summary
end SceneInspector
