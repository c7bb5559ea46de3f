import SceneInspector.Proofs.Numerals
import SceneInspector.Summary.Path

namespace SceneInspector.Summary.Path
open Text

theorem segments_cons {c : Char} (inside : c ≠ '/') (rest segment : List Char)
    (others : List (List Char)) (split : segments rest = segment :: others) :
    segments (c :: rest) = (c :: segment) :: others := by
  rw [segments, if_neg inside, split]

theorem segments_whole {part : List Char} (whole : '/' ∉ part) : segments part = [part] := by
  induction part with
  | nil => rfl
  | cons c rest ih =>
    rw [List.mem_cons, not_or] at whole
    exact segments_cons (Ne.symm whole.1) rest rest [] (ih whole.2)

theorem segments_slash {part : List Char} (whole : '/' ∉ part) (rest : List Char) :
    segments (part ++ '/' :: rest) = part :: segments rest := by
  induction part with
  | nil => rfl
  | cons c others ih =>
    rw [List.mem_cons, not_or] at whole
    exact segments_cons (Ne.symm whole.1) _ others _ (ih whole.2)

theorem segments_ne_nil (text : List Char) : segments text ≠ [] := by
  cases text with
  | nil => exact List.cons_ne_nil _ _
  | cons c rest =>
    unfold segments
    split
    · exact List.cons_ne_nil _ _
    · split <;> exact List.cons_ne_nil _ _

theorem intercalate_segments (text : List Char) : ['/'].intercalate (segments text) = text := by
  induction text with
  | nil => rfl
  | cons c rest ih =>
    by_cases slash : c = '/'
    · rw [segments, if_pos slash, List.intercalate_cons_of_ne_nil (segments_ne_nil rest), ih, slash]
      rfl
    · obtain ⟨segment, others, split⟩ := List.exists_cons_of_ne_nil (segments_ne_nil rest)
      rw [split] at ih
      rw [segments_cons slash rest segment others split]
      cases others with
      | nil =>
        rw [List.intercalate_singleton] at ih ⊢
        rw [ih]
      | cons next further =>
        rw [List.intercalate_cons_cons] at ih ⊢
        exact congrArg (c :: ·) ih

theorem slash_not_in_text (numeral : Numeral) : '/' ∉ numeral.text := by
  intro member
  rcases numeral.text_digits member with sign | digit
  · exact absurd sign (by decide)
  · exact absurd digit (by decide)

def spelled : List Numeral → List Char
  | [] => []
  | [numeral] => '/' :: numeral.text
  | numeral :: below => '/' :: numeral.text ++ '/' :: childs ++ spelled below

def numbers (numerals : List Numeral) : Position := numerals.map (·.number)

def needless : List Numeral → Nat
  | [] => 0
  | numeral :: below => numeral.needless + needless below

theorem spelled_cons (numeral : Numeral) {below : List Numeral} (further : below ≠ []) :
    spelled (numeral :: below) = '/' :: numeral.text ++ '/' :: childs ++ spelled below :=
  spelled.eq_3 numeral below fun last => further last

theorem render_cons (number : Nat) {below : Position} (further : below ≠ []) :
    render (number :: below) =
      '/' :: Nat.toDigits 10 number ++ '/' :: childs ++ render below :=
  render.eq_3 number below fun last => further last

theorem render_eq_spelled (position : Position) :
    render position = spelled (position.map fun number => { number }) := by
  induction position with
  | nil => rfl
  | cons number below ih =>
    by_cases last : below = []
    · subst last
      rfl
    · have further : below.map (fun number : Nat => ({ number } : Numeral)) ≠ [] := by
        simpa using last
      rw [List.map_cons, spelled_cons _ further, ← ih]
      exact render_cons number last

theorem parse?_spelled {numerals : List Numeral} (some_numeral : numerals ≠ [])
    (words : ∀ numeral ∈ numerals, numeral.number ≤ maxUInt64) :
    parse? (spelled numerals) = some (numbers numerals) := by
  induction numerals with
  | nil => exact absurd rfl some_numeral
  | cons numeral below ih =>
    have first : unsigned? maxUInt64 numeral.text = some numeral.number :=
      unsigned?_eq_some.mpr ⟨words numeral List.mem_cons_self, numeral, rfl, rfl⟩
    have whole := slash_not_in_text numeral
    by_cases last : below = []
    · subst last
      simp [spelled, parse?, segments_whole whole, numbers?, first, numbers]
    · have onward := ih last fun other member => words other (List.mem_cons_of_mem _ member)
      obtain ⟨text, there⟩ : ∃ text, spelled below = '/' :: text := by
        cases below with
        | nil => exact absurd rfl last
        | cons next further => cases further <;> exact ⟨_, rfl⟩
      have word : segments (childs ++ '/' :: text) = childs :: segments text :=
        segments_slash (by decide) text
      rw [there, parse?] at onward
      rw [spelled_cons numeral last, there]
      simp [parse?, segments_slash whole, word, numbers?, first, onward, numbers]

theorem exists_spelling_of_numbers? {parts : List (List Char)} {position : Position}
    (read : numbers? parts = some position) : ∃ numerals, numbers numerals = position ∧
      (∀ numeral ∈ numerals, numeral.number ≤ maxUInt64) ∧
      '/' :: ['/'].intercalate parts = spelled numerals ∧ numerals ≠ [] := by
  induction parts using numbers?.induct generalizing position with
  | case1 => cases read
  | case2 part =>
    obtain ⟨number, typed, rfl⟩ := Option.map_eq_some_iff.mp read
    obtain ⟨within, numeral, rfl, rfl⟩ := unsigned?_eq_some.mp typed
    exact ⟨[numeral], rfl, by simpa using within, by simp [spelled], by simp⟩
  | case3 part rest ih =>
    rw [numbers?, if_pos rfl] at read
    obtain ⟨number, typed, read⟩ := Option.bind_eq_some_iff.mp read
    obtain ⟨others, further, ⟨⟩⟩ := Option.bind_eq_some_iff.mp read
    obtain ⟨within, numeral, rfl, rfl⟩ := unsigned?_eq_some.mp typed
    obtain ⟨below, rfl, words, split, some_numeral⟩ := ih further
    have some_part : rest ≠ [] := by
      rintro rfl
      cases further
    refine ⟨numeral :: below, rfl, List.forall_mem_cons.mpr ⟨within, words⟩, ?_, by simp⟩
    rw [spelled_cons numeral some_numeral, ← split, List.intercalate_cons_cons,
      List.intercalate_cons_of_ne_nil some_part]
    simp
  | case4 part word rest other =>
    rw [numbers?, if_neg other] at read
    cases read

theorem exists_spelling {path : List Char} {position : Position}
    (read : parse? path = some position) : ∃ numerals, spelled numerals = path ∧
      numbers numerals = position ∧ ∀ numeral ∈ numerals, numeral.number ≤ maxUInt64 := by
  unfold parse? at read
  split at read
  · rename_i rest
    obtain ⟨numerals, same, words, split, _⟩ := exists_spelling_of_numbers? read
    exact ⟨numerals, by rw [← split, intercalate_segments], same, words⟩
  · cases read

theorem length_spelled (numerals : List Numeral) : (spelled numerals).length =
    (render (numbers numerals)).length + needless numerals := by
  induction numerals with
  | nil => rfl
  | cons numeral below ih =>
    by_cases last : below = []
    · subst last
      simp [spelled, render, numbers, needless, numeral.length_text]
      omega
    · have further : numbers below ≠ [] := by simpa [numbers] using last
      have written : numbers (numeral :: below) = numeral.number :: numbers below := rfl
      rw [spelled_cons numeral last, written, render_cons numeral.number further]
      simp only [List.length_append, List.length_cons, needless, ih, numeral.length_text]
      omega

theorem needless_eq_zero_iff (numerals : List Numeral) :
    needless numerals = 0 ↔ ∀ numeral ∈ numerals, numeral.needless = 0 := by
  induction numerals with
  | nil => simp [needless]
  | cons numeral below ih => rw [needless, Nat.add_eq_zero_iff, ih, List.forall_mem_cons]

-- A path is spelled as it is written exactly if no character of it could be left out.
theorem spelled_eq_render_iff (numerals : List Numeral) :
    spelled numerals = render (numbers numerals) ↔
      ∀ numeral ∈ numerals, numeral.needless = 0 := by
  constructor
  · intro same
    have length := length_spelled numerals
    rw [same] at length
    exact (needless_eq_zero_iff numerals).mp (by omega)
  · intro plain
    have same : (numbers numerals).map (fun number => { number }) = numerals := by
      rw [numbers, List.map_map]
      refine (List.map_congr_left fun numeral member => ?_).trans (List.map_id numerals)
      exact Numeral.plain_eq (plain numeral member)
    rw [render_eq_spelled, same]

theorem parse?_render {position : Position} (some_number : position ≠ [])
    (words : ∀ number ∈ position, number ≤ maxUInt64) :
    parse? (render position) = some position := by
  have plain : numbers (position.map fun number => { number }) = position := by
    simp [numbers, Function.comp_def]
  rw [render_eq_spelled, parse?_spelled (by simpa using some_number) (by simpa using words), plain]

theorem render_eq {position : Position} (some_number : position ≠ []) :
    String.ofList (render position) =
      "/" ++ "/childs/".intercalate (position.map toString) := by
  induction position with
  | nil => exact absurd rfl some_number
  | cons number below ih =>
    cases below with
    | nil =>
      apply String.toList_inj.mp
      simp [render]
    | cons next further =>
      have onward := congrArg String.toList (ih (by simp))
      rw [String.toList_ofList] at onward
      have word : "/childs/".toList = '/' :: childs ++ ['/'] := rfl
      apply String.toList_inj.mp
      simp [render, onward, word, String.intercalate_cons_cons]

end SceneInspector.Summary.Path
