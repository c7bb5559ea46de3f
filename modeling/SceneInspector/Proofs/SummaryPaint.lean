import SceneInspector.Proofs.SummaryRefresh

namespace SceneInspector.Summary

def Alike (first second : Element) : Prop :=
  first.name = highlightName ↔ second.name = highlightName

theorem ofSelection_eq_iff (first second : Element) :
    Paint.ofSelection first = Paint.ofSelection second ↔ Alike first second := by
  unfold Paint.ofSelection Alike
  by_cases highlights : first.name = highlightName
  · by_cases also : second.name = highlightName <;> simp [highlights, also]
  · by_cases other : second.name = highlightName <;> simp [highlights, other]

theorem ofSelection_ne_plain (selection : Element) : Paint.ofSelection selection ≠ .plain := by
  unfold Paint.ofSelection
  split <;> nofun

-- The selection that painted the item of an id last, if nothing has taken its paint off since.
abbrev Painters := ElementId → Option Element

def Paint.ofPainter (painter : Option Element) : Paint := painter.elim .plain .ofSelection

def Painters.after (painters : Painters) (id : ElementId) (done : Bool)
    (painter : Option Element) : Painters :=
  if done then Function.update painters id painter else painters

inductive Painted (among : Element → Prop) : Summary → Painters → Prop where
  | built (summary : Summary) (catalogue : Catalogue) (elements : Forest Element) :
      Painted among (summary.rebuild catalogue elements) fun _ => none
  | changed {summary : Summary} {painters : Painters} (prior : Painted among summary painters)
      (catalogue : Catalogue) (scene : Scene) (change : Element.Change) :
      Painted among (summary.applyChange catalogue scene change) painters
  | removed {summary : Summary} {painters : Painters} (prior : Painted among summary painters) :
      Painted among summary.applyRemoval painters
  | flushed {summary : Summary} {painters : Painters} (prior : Painted among summary painters)
      (catalogue : Catalogue) (scene : Scene) :
      Painted among (summary.flush catalogue scene).1
        (if summary.stale then fun _ => none else painters)
  | selected {summary : Summary} {painters : Painters} (prior : Painted among summary painters)
      {selection : Element} (one : among selection) (id : ElementId) :
      Painted among (summary.select selection id).1
        (painters.after id (summary.select selection id).2 (some selection))
  | unselected {summary : Summary} {painters : Painters} (prior : Painted among summary painters)
      (selection : Element) (id : ElementId) :
      Painted among (summary.unselect selection id).1
        (painters.after id (summary.unselect selection id).2 none)

def paint? (summary : Summary) (id : ElementId) : Option Paint :=
  (summary.item? id).map (·.root.paint)

def repainted (summary : Summary) (id : ElementId) (paint : Paint) : Summary :=
  match summary.index[id]? with
  | some position => summary.change position fun item => { item with paint }
  | none => summary

section Painting
variable {summary : Summary}

theorem select_eq (wellFormed : WellFormed summary) (selection : Element) (id : ElementId) :
    summary.select selection id =
      (summary.repainted id (.ofSelection selection), (summary.paint? id).isSome) := by
  unfold select repainted paint? item?
  cases known : summary.index[id]? with
  | none => rfl
  | some position =>
    obtain ⟨tree, found, _⟩ := tree?_of_index wellFormed.indexed known
    simp [found]

theorem unselect_eq (summary : Summary) (selection : Element) (id : ElementId) :
    summary.unselect selection id =
      if summary.paint? id = some (.ofSelection selection) then (summary.repainted id .plain, true)
      else (summary, false) := by
  unfold unselect repainted paint? item?
  cases known : summary.index[id]? with
  | none => rfl
  | some position =>
    cases found : summary.roots.tree? position with
    | none => simp [found]
    | some tree => simp [found]

theorem repainted_inPlace (summary : Summary) (id : ElementId) (paint : Paint) :
    InPlace summary (summary.repainted id paint) := by
  unfold repainted
  cases summary.index[id]? with
  | none => exact InPlace.refl summary
  | some position => exact change_inPlace summary position ({ · with paint }) fun _ => rfl

theorem repainted_retouches (summary : Summary) (id : ElementId) (paint : Paint) :
    Retouches id summary (summary.repainted id paint) := by
  unfold repainted
  cases known : summary.index[id]? with
  | none => exact ⟨rfl, .inl rfl⟩
  | some position => exact change_retouches summary known ({ · with paint }) fun _ => rfl

theorem paint?_other {before after : Summary} {id other : ElementId}
    (retouches : Retouches other before after) (wellFormed : WellFormed before)
    (still : WellFormed after) (different : id ≠ other) : after.paint? id = before.paint? id := by
  have same := congrArg (Option.map Item.paint)
    (retouches_other retouches wellFormed.indexed still.indexed different)
  rwa [Option.map_map, Option.map_map] at same

theorem paint?_repainted (summary : Summary) (id : ElementId) (paint : Paint) :
    (summary.repainted id paint).paint? id = (summary.paint? id).map fun _ => paint := by
  unfold paint? item? repainted
  cases known : summary.index[id]? with
  | none => simp [known]
  | some position => simp [change, known, Forest.tree?_modify, Function.comp_def]

theorem paint?_repainted_other (wellFormed : WellFormed summary) {id other : ElementId}
    (paint : Paint) (different : other ≠ id) :
    (summary.repainted id paint).paint? other = summary.paint? other :=
  paint?_other (repainted_retouches summary id paint) wellFormed
    ((repainted_inPlace summary id paint).wellFormed wellFormed) different

theorem paint_changedItem (catalogue : Catalogue) (live : Option Element)
    (change : Element.Change) (item : Item) :
    (changedItem catalogue live change item).paint = item.paint := by
  unfold changedItem
  cases live with
  | none =>
    dsimp only
    split <;> rfl
  | some element =>
    dsimp only
    rw [refreshed_eq]
    split <;> rfl

theorem paint?_applyChange (wellFormed : WellFormed summary) (catalogue : Catalogue)
    (scene : Scene) (change : Element.Change) (id : ElementId) :
    (summary.applyChange catalogue scene change).paint? id = summary.paint? id := by
  by_cases same : id = change.snapshot.root.id
  · subst same
    have read := congrArg (Option.map Item.paint) (item?_applyChange summary catalogue scene change)
    simpa [paint?, Function.comp_def, paint_changedItem] using read
  · exact paint?_other (applyChange_retouches summary catalogue scene change) wellFormed
      ((applyChange_inPlace summary catalogue scene change).wellFormed wellFormed) same

theorem paint?_rebuild (summary : Summary) (catalogue : Catalogue) (elements : Forest Element)
    {id : ElementId} {paint : Paint}
    (shown : (summary.rebuild catalogue elements).paint? id = some paint) : paint = .plain := by
  obtain ⟨item, found, rfl⟩ := Option.map_eq_some_iff.mp shown
  obtain ⟨element, _, _, shows⟩ :=
    mem_shows (rebuild_shows summary catalogue elements) (item?_mem found)
  rw [shows, Item.ofElement, refreshed_eq]

end Painting

-- Every item that is found wears the paint of the painter of its id, and nothing else has one.
structure Explained (summary : Summary) (painters : Painters) : Prop where
  wellFormed : WellFormed summary
  shown : ∀ id paint, summary.paint? id = some paint → paint = .ofPainter (painters id)
  unshown : ∀ id, summary.paint? id = none → painters id = none

section Explaining
variable {summary : Summary} {painters : Painters}

theorem rebuild_explained (summary : Summary) (catalogue : Catalogue)
    (elements : Forest Element) :
    Explained (summary.rebuild catalogue elements) fun _ => none where
  wellFormed := rebuild_wellFormed summary catalogue elements
  shown _ _ shown := paint?_rebuild summary catalogue elements shown
  unshown _ _ := rfl

theorem Explained.same {after : Summary} (explained : Explained summary painters)
    (wellFormed : WellFormed after) (same : ∀ id, after.paint? id = summary.paint? id) :
    Explained after painters where
  wellFormed := wellFormed
  shown id paint shown := explained.shown id paint (by rw [← same, shown])
  unshown id unshown := explained.unshown id (by rw [← same, unshown])

theorem Explained.repainted (explained : Explained summary painters) {id : ElementId}
    (present : (summary.paint? id).isSome = true) (painter : Option Element) :
    Explained (summary.repainted id (.ofPainter painter))
      (Function.update painters id painter) := by
  obtain ⟨earlier, present⟩ := Option.isSome_iff_exists.mp present
  have here := paint?_repainted summary id (.ofPainter painter)
  rw [present, Option.map_some] at here
  have elsewhere {other : ElementId} (different : other ≠ id) :=
    paint?_repainted_other explained.wellFormed (.ofPainter painter) different
  refine ⟨(repainted_inPlace summary id _).wellFormed explained.wellFormed, ?_, ?_⟩
  · intro other paint shown
    by_cases same : other = id
    · subst same
      cases here.symm.trans shown
      rw [Function.update_self]
    · rw [elsewhere same] at shown
      rw [Function.update_of_ne same]
      exact explained.shown other paint shown
  · intro other unshown
    by_cases same : other = id
    · subst same
      cases here.symm.trans unshown
    · rw [elsewhere same] at unshown
      rw [Function.update_of_ne same]
      exact explained.unshown other unshown

theorem select_explained (explained : Explained summary painters) (selection : Element)
    (id : ElementId) : Explained (summary.select selection id).1
      (painters.after id (summary.select selection id).2 (some selection)) := by
  rw [select_eq explained.wellFormed]
  unfold Painters.after
  dsimp only
  split
  · rename_i present
    exact explained.repainted present (some selection)
  · rename_i absent
    refine explained.same
      ((repainted_inPlace summary id _).wellFormed explained.wellFormed) fun other => ?_
    by_cases same : other = id
    · subst same
      rw [paint?_repainted, Option.not_isSome_iff_eq_none.mp absent, Option.map_none]
    · exact paint?_repainted_other explained.wellFormed _ same

theorem unselect_explained (explained : Explained summary painters) (selection : Element)
    (id : ElementId) : Explained (summary.unselect selection id).1
      (painters.after id (summary.unselect selection id).2 none) := by
  rw [unselect_eq]
  split
  · rename_i worn
    exact explained.repainted (by rw [worn]; rfl) none
  · exact explained

theorem flush_explained (explained : Explained summary painters) (catalogue : Catalogue)
    (scene : Scene) : Explained (summary.flush catalogue scene).1
      (if summary.stale then fun _ => none else painters) := by
  have wellFormed := flush_wellFormed explained.wellFormed catalogue scene
  rw [State.flush_eq] at wellFormed ⊢
  by_cases stale : summary.stale = true
  · rw [if_pos stale, if_pos stale]
    exact rebuild_explained summary catalogue scene.roots
  · rw [if_neg stale] at wellFormed
    rw [if_neg stale, if_neg stale]
    exact explained.same wellFormed fun _ => rfl

theorem painted_explained {among : Element → Prop} (painted : Painted among summary painters) :
    Explained summary painters := by
  induction painted with
  | built summary catalogue elements => exact rebuild_explained summary catalogue elements
  | changed _ catalogue scene change ih =>
    exact ih.same ((applyChange_inPlace _ catalogue scene change).wellFormed ih.wellFormed)
      (paint?_applyChange ih.wellFormed catalogue scene change)
  | removed _ ih =>
    obtain ⟨indexed, placed, limited⟩ := ih.wellFormed
    exact ih.same ⟨indexed, placed, limited⟩ fun _ => rfl
  | flushed _ catalogue scene ih => exact flush_explained ih catalogue scene
  | selected _ _ id ih => exact select_explained ih _ id
  | unselected _ selection id ih => exact unselect_explained ih selection id

end Explaining

def Clears (id : ElementId) (before after : Summary) : Prop :=
  ∃ (hole : Hole Item) (tree : Tree Item), before.item? id = some tree ∧
    before.roots = hole.fill tree ∧
    after = { before with
      roots := hole.fill ⟨{ tree.root with paint := .plain }, tree.children⟩ }

structure ClearsOwn (summary : Summary) (painters : Painters) (selection : Element)
    (id : ElementId) : Prop where
  own : (summary.unselect selection id).2 = true →
    ∃ painter, painters id = some painter ∧ painter.id = selection.id
  clears : (summary.unselect selection id).2 = true →
    Clears id summary (summary.unselect selection id).1
  keeps : (summary.unselect selection id).2 = false →
    (summary.unselect selection id).1 = summary

section Clearing
variable {among : Element → Prop} {summary : Summary} {painters : Painters}

theorem after_among {id other : ElementId} {done : Bool} {now : Option Element}
    {painter : Element} (before : painters id = some painter → among painter)
    (one : ∀ paints, now = some paints → among paints)
    (later : painters.after other done now id = some painter) : among painter := by
  unfold Painters.after at later
  split at later
  · by_cases same : id = other
    · subst same
      rw [Function.update_self] at later
      exact one painter later
    · rw [Function.update_of_ne same] at later
      exact before later
  · exact before later

theorem painters_among (painted : Painted among summary painters) {id : ElementId}
    {painter : Element} (paints : painters id = some painter) : among painter := by
  induction painted with
  | built => cases paints
  | changed _ _ _ _ ih => exact ih paints
  | removed _ ih => exact ih paints
  | flushed _ _ _ ih =>
    split at paints
    · cases paints
    · exact ih paints
  | selected _ one _ ih => exact after_among ih (fun _ same => Option.some.inj same ▸ one) paints
  | unselected _ _ _ ih => exact after_among ih (fun _ absent => by cases absent) paints

theorem repainted_clears {id : ElementId} (present : (summary.paint? id).isSome = true) :
    Clears id summary (summary.repainted id .plain) := by
  obtain ⟨paint, shown⟩ := Option.isSome_iff_exists.mp present
  obtain ⟨tree, found, _⟩ := Option.map_eq_some_iff.mp shown
  obtain ⟨position, known, there⟩ := Option.bind_eq_some_iff.mp found
  obtain ⟨hole, roots, rfl⟩ := Forest.exists_hole there
  refine ⟨hole, tree, found, roots, ?_⟩
  simp [repainted, known, change, roots]

theorem unselect_keeps {selection : Element} {id : ElementId}
    (answered : (summary.unselect selection id).2 = false) :
    (summary.unselect selection id).1 = summary := by
  rw [unselect_eq] at answered ⊢
  split at answered
  · cases answered
  · rename_i other
    rw [if_neg other]

theorem unselect_clears {selection : Element} {id : ElementId}
    (answered : (summary.unselect selection id).2 = true) :
    Clears id summary (summary.unselect selection id).1 := by
  rw [unselect_eq] at answered ⊢
  split at answered
  · rename_i worn
    rw [if_pos worn]
    exact repainted_clears (by rw [worn]; rfl)
  · cases answered

theorem unselect_answers_iff (explained : Explained summary painters) (selection : Element)
    (id : ElementId) : (summary.unselect selection id).2 = true ↔
      ∃ painter, painters id = some painter ∧ Alike painter selection := by
  have answered : (summary.unselect selection id).2 = true ↔
      summary.paint? id = some (.ofSelection selection) := by
    rw [unselect_eq]
    split
    · rename_i worn
      exact iff_of_true rfl worn
    · rename_i other
      exact iff_of_false nofun other
  rw [answered]
  cases worn : summary.paint? id with
  | none => simp [explained.unshown id worn]
  | some paint =>
    rw [explained.shown id paint worn]
    cases painters id with
    | none => simpa [Paint.ofPainter] using (ofSelection_ne_plain selection).symm
    | some painter => simp [Paint.ofPainter, ofSelection_eq_iff]

end Clearing

def track : Summary :=
  (blank 2 0).rebuild ⟨.builtin, {}⟩
    (.cons { id := 5, name := "Track", typeName := "REveTrack" } .empty .empty)

theorem track_wellFormed : WellFormed track := rebuild_wellFormed _ _ _

theorem track_painted {among : Element → Prop} {selection : Element} (one : among selection) :
    ∃ painters, Painted among (track.select selection 5).1 painters ∧
      painters 5 = some selection := by
  have painted : Painted among track fun _ => none := .built _ _ _
  refine ⟨_, painted.selected one 5, ?_⟩
  rw [select_eq track_wellFormed]
  have shown : (track.paint? 5).isSome = true := by decide +kernel
  simp [Painters.after, shown]

-- An item is cleared by any selection that paints like the one that painted it, and by no other.
-- So a selection clears nothing but its own paint exactly if no other paints like it.
theorem unselect_clears_iff (among : Element → Prop) :
    (∀ summary painters, Painted among summary painters → ∀ selection id,
      ((summary.unselect selection id).2 = true ↔
        ∃ painter, painters id = some painter ∧ Alike painter selection) ∧
      ((summary.unselect selection id).2 = true →
        Clears id summary (summary.unselect selection id).1) ∧
      ((summary.unselect selection id).2 = false →
        (summary.unselect selection id).1 = summary)) ∧
    ((∀ summary painters, Painted among summary painters → ∀ selection, among selection →
        ∀ id, ClearsOwn summary painters selection id) ↔
      ∀ first, among first → ∀ second, among second → Alike first second →
        first.id = second.id) := by
  refine ⟨fun summary painters painted selection id => ?_, fun own => ?_, fun apart => ?_⟩
  · exact ⟨unselect_answers_iff (painted_explained painted) selection id, unselect_clears,
      unselect_keeps⟩
  · intro first one second other alike
    obtain ⟨painters, painted, paints⟩ := track_painted one
    have answers :=
      (unselect_answers_iff (painted_explained painted) second 5).mpr ⟨first, paints, alike⟩
    obtain ⟨painter, same, named⟩ := (own _ painters painted second other 5).own answers
    cases paints.symm.trans same
    exact named
  · intro summary painters painted selection other id
    refine ⟨fun answers => ?_, unselect_clears, unselect_keeps⟩
    obtain ⟨painter, paints, alike⟩ :=
      (unselect_answers_iff (painted_explained painted) selection id).mp answers
    exact ⟨painter, paints, apart painter (painters_among painted paints) selection other alike⟩

def hover : Element := { id := 90, name := highlightName }

def globalSelection : Element := { id := 91, name := "Global Selection" }

def userSelection : Element := { id := 92, name := "User Selection" }

theorem unselect_clears_iff_hover :
    let among : Element → Prop := fun selection => selection = hover ∨ selection = globalSelection
    ∀ summary painters, Painted among summary painters → ∀ selection, among selection →
      ∀ id, ClearsOwn summary painters selection id := by
  intro among
  refine (unselect_clears_iff among).2.mpr ?_
  rintro first (rfl | rfl) second (rfl | rfl) alike
  · rfl
  · exact absurd (alike.mp rfl) (by decide)
  · exact absurd (alike.mpr rfl) (by decide)
  · rfl

-- A user's selection takes off what the global one has painted.
theorem unselect_clears_other :
    ¬ ∀ summary painters, Painted (fun _ => True) summary painters → ∀ selection id,
      ClearsOwn summary painters selection id := by
  intro own
  obtain ⟨painters, painted, paints⟩ : ∃ painters,
      Painted (fun _ => True) (track.select globalSelection 5).1 painters ∧
        painters 5 = some globalSelection := track_painted trivial
  have answers : ((track.select globalSelection 5).1.unselect userSelection 5).2 = true := by
    decide +kernel
  obtain ⟨painter, same, named⟩ := (own _ painters painted userSelection 5).own answers
  cases paints.symm.trans same
  exact absurd named (by decide)

end SceneInspector.Summary
