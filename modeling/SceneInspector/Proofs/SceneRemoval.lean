import SceneInspector.Proofs.SceneIndex

namespace SceneInspector

namespace Forest
variable {α : Type}

-- For every root, in preorder, the roots from the top down to it.
def lineagesFrom (above : List α) : Forest α → List (List α)
  | .empty => []
  | .cons root children rest =>
    (above ++ [root]) ::
      (children.lineagesFrom (above ++ [root]) ++ rest.lineagesFrom above)

def lineages (forest : Forest α) : List (List α) := forest.lineagesFrom []

theorem lineagesFrom_above {forest : Forest α} {above line : List α}
    (member : line ∈ forest.lineagesFrom above) : above ⊆ line ∧ above.length < line.length := by
  induction forest generalizing above with
  | empty => cases member
  | cons root children rest below beside =>
    rcases List.mem_cons.mp member with rfl | further
    · exact ⟨List.subset_append_left _ _, by simp⟩
    · rcases List.mem_append.mp further with inside | outside
      · obtain ⟨holds, longer⟩ := below inside
        rw [List.length_append] at longer
        exact ⟨fun other earlier => holds (List.mem_append_left _ earlier),
          Nat.lt_of_succ_lt longer⟩
      · exact beside outside

theorem takeWhile_lineages (above : List α) (root : α) (children rest : Forest α) :
    (children.lineagesFrom (above ++ [root]) ++ rest.lineagesFrom above).takeWhile
        (fun line => above.length + 1 < line.length) =
      children.lineagesFrom (above ++ [root]) := by
  have stops : (rest.lineagesFrom above).takeWhile
      (fun line => above.length + 1 < line.length) = [] := by
    cases rest with
    | empty => rfl
    | cons next below others => simp [lineagesFrom]
  rw [List.takeWhile_append_of_pos, stops, List.append_nil]
  intro line member
  have longer := (lineagesFrom_above member).2
  simpa using longer

-- The lineages tell everything of a forest: which roots there are, in which order and under which
-- others.
theorem lineagesFrom_injective (above : List α) :
    Function.Injective (lineagesFrom (α := α) above) := by
  intro forest other same
  induction forest generalizing above other with
  | empty =>
    cases other with
    | empty => rfl
    | cons root children rest => cases same
  | cons root children rest below beside =>
    cases other with
    | empty => cases same
    | cons root' children' rest' =>
      obtain ⟨first, others⟩ := List.cons.inj same
      obtain rfl : root = root' := List.singleton_inj.mp (List.append_cancel_left first)
      have inside := congrArg
        (List.takeWhile fun line => above.length + 1 < line.length) others
      rw [takeWhile_lineages, takeWhile_lineages] at inside
      rw [inside] at others
      rw [below _ inside, beside _ (List.append_cancel_left others)]

theorem lineagesFrom_without (forest : Forest α) (dropped : α → Bool) {above : List α}
    (stay : ∀ root ∈ above, dropped root = false) :
    (forest.without dropped).lineagesFrom above =
      (forest.lineagesFrom above).filter fun line => line.all fun root => !dropped root := by
  induction forest generalizing above with
  | empty => rfl
  | cons root children rest below beside =>
    rw [lineagesFrom, List.filter_cons, List.filter_append, ← beside stay]
    by_cases leaves : dropped root = true
    · -- Everything below a dropped root has it in its lineage.
      have inside : (children.lineagesFrom (above ++ [root])).filter
          (fun line => line.all fun other => !dropped other) = [] := by
        rw [List.filter_eq_nil_iff]
        intro line member spared
        have listed := (lineagesFrom_above member).1 (List.mem_append_right _ List.mem_cons_self)
        simpa [leaves] using List.all_eq_true.mp spared root listed
      simp [without, leaves, inside]
    · have stays : dropped root = false := Bool.eq_false_iff.mpr leaves
      have all_stay : ∀ other ∈ above ++ [root], dropped other = false := by
        intro other member
        rcases List.mem_append.mp member with earlier | here
        · exact stay other earlier
        · rw [List.mem_singleton.mp here]
          exact stays
      have spared : ((above ++ [root]).all fun other => !dropped other) = true :=
        List.all_eq_true.mpr fun other member => by rw [all_stay other member, Bool.not_false]
      rw [without, if_neg leaves, lineagesFrom, if_pos spared, ← below all_stay]

theorem mem_preorder_without {forest : Forest α} {dropped : α → Bool} {root : α}
    (member : root ∈ (forest.without dropped).preorder) : dropped root = false := by
  induction forest with
  | empty => cases member
  | cons first children rest below beside =>
    unfold without at member
    split at member
    · exact beside member
    · rename_i stays
      rcases List.mem_cons.mp member with rfl | further
      · exact Bool.eq_false_iff.mpr stays
      · exact (List.mem_append.mp further).elim below beside

theorem without_without (forest : Forest α) (first second : α → Bool) :
    (forest.without first).without second =
      forest.without fun root => first root || second root := by
  induction forest with
  | empty => rfl
  | cons root children rest below beside =>
    cases leaves : first root with
    | true => simp [without, leaves, beside]
    | false => cases later : second root <;> simp [without, leaves, later, below, beside]

end Forest

namespace Scene
variable {scene : Scene}

theorem remove_count (indexed : scene.Indexed) (removed : List ElementId) :
    (scene.remove removed).2 = removed.countP (· ∈ ids scene.roots) := by
  have known : scene.index.contains = fun id => decide (id ∈ ids scene.roots) := by
    funext id
    rw [Bool.eq_iff_iff, ← Std.TreeMap.mem_iff_contains, indexed, mem_indexOf, decide_eq_true_iff]
  rw [List.countP_eq_length_filter, ← known]
  rfl

theorem remove_unnamed (scene : Scene) (removed : List ElementId) :
    ∀ id ∈ removed, id ∉ ids (scene.remove removed).1.roots := by
  intro id named present
  obtain ⟨element, member, rfl⟩ := List.mem_map.mp present
  have stays := Forest.mem_preorder_without member
  simp [named] at stays

theorem remove_remove (scene : Scene) (first second : List ElementId) :
    ((scene.remove first).1.remove second).1 = (scene.remove (first ++ second)).1 := by
  have either : (fun element : Element => decide (element.id ∈ first) ||
      decide (element.id ∈ second)) = fun element => decide (element.id ∈ first ++ second) := by
    funext element
    simp
  show ofRoots _ = ofRoots _
  rw [← either, ← Forest.without_without]
  rfl

theorem remove_congr (scene : Scene) {first second : List ElementId}
    (same : ∀ id, id ∈ first ↔ id ∈ second) : (scene.remove first).1 = (scene.remove second).1 := by
  simp only [remove, same]

-- A removal leaves the elements that are not named themselves and not below one that is, each where
-- it was among the others, and tells how many entries of its list named something. It is as well
-- to remove at once what is removed in two steps, in either order.
theorem removal_prunes (reached : Reached scene) (removed : List ElementId) :
    let after := (scene.remove removed).1
    (∀ roots : Forest Element, roots = after.roots ↔
      roots.lineages = scene.roots.lineages.filter fun line =>
        line.all fun element => element.id ∉ removed) ∧
    (∀ id ∈ removed, id ∉ ids after.roots) ∧
    (scene.remove removed).2 = removed.countP (· ∈ ids scene.roots) ∧
    ((scene.remove removed).2 = 0 ↔ after.roots = scene.roots) ∧
    ∀ further, (after.remove further).1 = (scene.remove (removed ++ further)).1 ∧
      (after.remove further).1 = ((scene.remove further).1.remove removed).1 := by
  intro after
  have indexed := reached_indexed reached
  have kept : after.roots.lineages = scene.roots.lineages.filter fun line =>
      line.all fun element => element.id ∉ removed := by
    have pruned := scene.roots.lineagesFrom_without (fun element => element.id ∈ removed)
      (List.forall_mem_nil _)
    simpa [Forest.lineages, after, remove, ofRoots] using pruned
  refine ⟨fun roots => ?_, remove_unnamed scene removed, remove_count indexed removed, ?_, ?_⟩
  · rw [← kept]
    exact (Forest.lineagesFrom_injective []).eq_iff.symm
  · constructor
    · intro nothing
      rw [show after = scene from remove_nothing indexed nothing]
    · intro unchanged
      rw [remove_count indexed, List.countP_eq_zero]
      intro id named present
      rw [decide_eq_true_iff, ← unchanged] at present
      exact remove_unnamed scene removed id named present
  · intro further
    refine ⟨remove_remove scene removed further, ?_⟩
    rw [remove_remove, remove_remove]
    exact remove_congr scene fun id => by rw [List.mem_append, List.mem_append, or_comm]

theorem removal_prunes_twins :
    let scene := ofRoots (twins "second")
    Reached scene ∧ (scene.remove [3, 9, 3]).2 = 2 ∧
      ids (scene.remove [3, 9, 3]).1.roots = [1, 2] ∧
      ((scene.remove [3, 9, 3]).1.remove [2]).1 = ((scene.remove [2]).1.remove [3, 9, 3]).1 := by
  intro scene
  have reached : Reached scene := .made (twins "second")
  obtain ⟨prunes, _, counts, _, orders⟩ := removal_prunes reached [3, 9, 3]
  have left := (prunes (.cons { id := 1, name := "top" }
    (.cons { id := 2, name := "first" } .empty .empty) .empty)).mpr (by decide +kernel)
  refine ⟨reached, ?_, ?_, (orders [2]).2⟩
  · rw [counts]
    decide
  · rw [← left]
    decide

end Scene
end SceneInspector
