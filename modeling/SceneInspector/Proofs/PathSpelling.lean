import SceneInspector.Proofs.EditorPlace

namespace SceneInspector
namespace Summary
variable {summary : Summary} {path : String} {item : Tree Item} {numerals : List Text.Numeral}

structure LeadsTo (summary : Summary) (path : String) (numerals : List Text.Numeral)
    (item : Tree Item) : Prop where
  typed : path = String.ofList (Path.spelled numerals)
  words : ∀ numeral ∈ numerals, numeral.number ≤ Text.maxUInt64
  there : summary.roots.tree? (Path.numbers numerals) = some item

def NamedAlone (summary : Summary) (path : String) : Prop :=
  ∀ item, summary.atPath? path = some item → item.root.path = path

theorem atPath?_eq_some :
    summary.atPath? path = some item ↔ ∃ numerals, summary.LeadsTo path numerals item := by
  unfold Summary.atPath?
  constructor
  · intro found
    obtain ⟨position, read, there⟩ := Option.bind_eq_some_iff.mp found
    obtain ⟨numerals, typed, rfl, words⟩ := Path.exists_spelling read
    exact ⟨numerals, by rw [typed, String.ofList_toList], words, there⟩
  · rintro ⟨numerals, rfl, words, there⟩
    have some_numeral : numerals ≠ [] := by
      rintro rfl
      exact Forest.position_ne_nil there rfl
    rw [String.toList_ofList, Path.parse?_spelled some_numeral words]
    exact there

theorem LeadsTo.path_eq_iff (leads : summary.LeadsTo path numerals item)
    (wellFormed : summary.WellFormed) :
    item.root.path = path ↔ ∀ numeral ∈ numerals, numeral.needless = 0 := by
  rw [leads.typed, Item.path, wellFormed.position leads.there, ← String.toList_inj,
    String.toList_ofList, String.toList_ofList, eq_comm, Path.spelled_eq_render_iff]

theorem namedAlone_iff (wellFormed : summary.WellFormed) (path : String) :
    summary.NamedAlone path ↔ ∀ numerals item, summary.LeadsTo path numerals item →
      ∀ numeral ∈ numerals, numeral.needless = 0 := by
  constructor
  · intro named numerals item leads
    have found := atPath?_eq_some.mpr ⟨numerals, leads⟩
    exact (leads.path_eq_iff wellFormed).mp (named item found)
  · intro plain item found
    obtain ⟨numerals, leads⟩ := atPath?_eq_some.mp found
    exact (leads.path_eq_iff wellFormed).mpr (plain numerals item leads)

end Summary

namespace State
variable {state : State} {first second : String} {item : Tree Summary.Item} {tree : Tree Element}

structure Opens (state : State) (first second : String) (item : Tree Summary.Item)
    (tree : Tree Element) : Prop where
  shown : state.summary.atPath? first = some item
  again : state.summary.atPath? second = some item
  editable : item.root.kind = .detailAndActive
  live : state.scene.element? item.root.element = some tree
  elsewhere : state.editor.path? ≠ some first

def pressed (state : State) (path : String) : State := (state.update (.detailPressed path)).1

def SecondCloses (state : State) (first second : String) : Prop :=
  ∀ item tree, Opens state first second item tree →
    first = second ∧ ((state.pressed first).pressed second).editor = .closed

theorem pressed_eq {path : String} (shown : state.summary.atPath? path = some item)
    (editable : item.root.kind = .detailAndActive)
    (live : state.scene.element? item.root.element = some tree) : state.pressed path =
      { state with
        editor := if state.editor.path? = some path then .closed
          else .opened state.toolkit path tree.root } := by
  rw [pressed, press_editable shown editable live, Editor.Panel.toggle_eq]

-- The press changes neither the scene nor the summary, so that the next one finds the item again.
theorem Opens.pressed (opens : Opens state first second item tree) :
    (state.pressed first).editor = .opened state.toolkit first tree.root ∧
      ((state.pressed first).pressed second).editor =
        if first = second then .closed else .opened state.toolkit second tree.root := by
  have opened : state.pressed first =
      { state with editor := .opened state.toolkit first tree.root } := by
    rw [pressed_eq opens.shown opens.editable opens.live, if_neg opens.elsewhere]
  have shown : (state.pressed first).summary.atPath? second = some item := by
    rw [opened]
    exact opens.again
  have live : (state.pressed first).scene.element? item.root.element = some tree := by
    rw [opened]
    exact opens.live
  have again := pressed_eq shown opens.editable live
  refine ⟨by rw [opened], ?_⟩
  rw [again, opened]
  simp [Editor.Panel.opened, Editor.Panel.path?]

theorem secondCloses_iff (state : State) (first second : String) :
    SecondCloses state first second ↔
      first = second ∨ ∀ item tree, ¬ Opens state first second item tree := by
  constructor
  · intro closes
    by_cases same : first = second
    · exact .inl same
    · exact .inr fun item tree opens => same (closes item tree opens).1
  · rintro (same | never) item tree opens
    · refine ⟨same, ?_⟩
      rw [opens.pressed.2, if_pos same]
    · exact absurd opens (never item tree)

-- The numbers of a path may be typed in any way: each text that spells an item's position leads to
-- the item, and it is the path of the item exactly if none of its characters is needless. Of two
-- presses that reach an item the second closes the editor if it carries the text of the first, and
-- otherwise opens the same editor at the other text.
theorem spelled_paths_lead_iff (wellFormed : state.summary.WellFormed) (first second : String) :
    (∀ item, state.summary.atPath? first = some item ↔
      ∃ numerals, state.summary.LeadsTo first numerals item) ∧
    (∀ numerals item, state.summary.LeadsTo first numerals item →
      (item.root.path = first ↔ ∀ numeral ∈ numerals, numeral.needless = 0)) ∧
    (state.summary.NamedAlone first ↔
      ∀ numerals item, state.summary.LeadsTo first numerals item →
        ∀ numeral ∈ numerals, numeral.needless = 0) ∧
    (∀ item tree, Opens state first second item tree →
      (state.pressed first).editor = .opened state.toolkit first tree.root ∧
        ((state.pressed first).pressed second).editor =
          if first = second then .closed else .opened state.toolkit second tree.root) ∧
    (SecondCloses state first second ↔
      first = second ∨ ∀ item tree, ¬ Opens state first second item tree) := by
  refine ⟨fun item => Summary.atPath?_eq_some, ?_, Summary.namedAlone_iff wellFormed first, ?_, ?_⟩
  · exact fun numerals item leads => leads.path_eq_iff wellFormed
  · exact fun item tree opens => opens.pressed
  · exact secondCloses_iff state first second

-- The editor of the track is open at another text of its path, which neither of the two here is.
theorem track_opens : ∃ item tree,
    Opens (initial.run trackByOtherPath) "/0/childs/1" "/+0/childs/1" item tree ∧
      item.root.path = "/0/childs/1" := by
  let state := initial.run trackByOtherPath
  obtain ⟨item, there⟩ : ∃ item, state.summary.roots.tree? [0, 1] = some item :=
    Option.isSome_iff_exists.mp (by decide +kernel)
  obtain ⟨tree, live⟩ : ∃ tree, state.scene.element? 5 = some tree :=
    Option.isSome_iff_exists.mp (by decide +kernel)
  have shown : (state.summary.roots.tree? [0, 1]).map (fun item =>
      (item.root.kind, item.root.element, item.root.path)) =
        some (.detailAndActive, 5, "/0/childs/1") := by decide +kernel
  have elsewhere : state.editor.path? = some "/00/childs/+1" := by decide +kernel
  rw [there] at shown
  obtain ⟨editable, five, path⟩ : item.root.kind = .detailAndActive ∧ item.root.element = 5 ∧
      item.root.path = "/0/childs/1" := by simpa using shown
  have leads (signed : Bool) :
      let numerals : List Text.Numeral := [{ signed, number := 0 }, { number := 1 }]
      state.summary.LeadsTo (String.ofList (Summary.Path.spelled numerals)) numerals item :=
    ⟨rfl, by simp [Text.maxUInt64], there⟩
  refine ⟨item, tree, ?_, path⟩
  exact {
    shown := Summary.atPath?_eq_some.mpr ⟨_, leads false⟩
    again := Summary.atPath?_eq_some.mpr ⟨_, leads true⟩
    editable
    live := by rw [five, live]
    elsewhere := by rw [elsewhere]; decide }

theorem spelled_paths_lead_iff_track :
    let state := initial.run trackByOtherPath
    state.summary.WellFormed ∧ ¬ state.summary.NamedAlone "/+0/childs/1" ∧
      ∃ item tree, Opens state "/0/childs/1" "/+0/childs/1" item tree ∧
        ((state.pressed "/0/childs/1").pressed "/+0/childs/1").editor =
          .opened state.toolkit "/+0/childs/1" tree.root := by
  intro state
  have wellFormed : state.summary.WellFormed :=
    reached_summary (run_reached reached_initial trackByOtherPath)
  obtain ⟨found, own, alone, _⟩ :=
    spelled_paths_lead_iff wellFormed "/+0/childs/1" "/0/childs/1"
  obtain ⟨_, _, _, presses, _⟩ :=
    spelled_paths_lead_iff wellFormed "/0/childs/1" "/+0/childs/1"
  obtain ⟨item, tree, opens, path⟩ := track_opens
  obtain ⟨numerals, leads⟩ := (found item).mp opens.again
  refine ⟨wellFormed, fun unique => ?_, item, tree, opens, ?_⟩
  · have same := (own numerals item leads).mpr (alone.mp unique numerals item leads)
    exact absurd (path.symm.trans same) (by decide)
  · rw [(presses item tree opens).2, if_neg (by decide)]

-- A path with a sign leads to an item whose own path has none, and of two presses that reach the
-- item the second one, with the sign, leaves the editor open.
theorem signed_path_leads :
    (¬ ∀ summary : Summary, summary.WellFormed → ∀ path, summary.NamedAlone path) ∧
      ¬ ∀ state, Reached state → ∀ first second, SecondCloses state first second := by
  let state := initial.run trackByOtherPath
  have reached : Reached state := run_reached reached_initial trackByOtherPath
  obtain ⟨item, tree, opens, path⟩ := track_opens
  refine ⟨fun unique => ?_, fun closes => ?_⟩
  · have same := unique state.summary (reached_summary reached) "/+0/childs/1" item opens.again
    exact absurd (path.symm.trans same) (by decide)
  · have same := (closes state reached "/0/childs/1" "/+0/childs/1" item tree opens).1
    exact absurd same (by decide)

end State
end SceneInspector
