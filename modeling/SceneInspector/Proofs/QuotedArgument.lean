import SceneInspector.Editor.Control

namespace SceneInspector.Call

-- What the receiver of a command takes for the inside of a literal, from behind its first quote: a
-- backslash takes the next character with it, and the first quote that is not taken so is the last
-- one. What follows that quote is left over.
def inside? : List Char → Option (List Char × List Char)
  | [] => none
  | ['\\'] => none
  | '\\' :: c :: rest => (inside? rest).map fun (inside, left) => ('\\' :: c :: inside, left)
  | '"' :: rest => some ([], rest)
  | c :: rest => (inside? rest).map fun (inside, left) => (c :: inside, left)

def unescaped : List Char → List Char
  | '\\' :: '"' :: rest => '"' :: unescaped rest
  | '\\' :: '\\' :: rest => '\\' :: unescaped rest
  | c :: rest => c :: unescaped rest
  | [] => []

def IsLiteralOf (text written : List Char) : Prop :=
  ∃ rest inside, written = '"' :: rest ∧ inside? rest = some (inside, []) ∧
    unescaped inside = text

def escaped (text : List Char) : List Char :=
  text.flatMap fun c => if c = '"' then ['\\', '"'] else [c]

theorem escaped_quote (rest : List Char) :
    escaped ('"' :: rest) = '\\' :: '"' :: escaped rest := rfl

theorem escaped_other {c : Char} (other : c ≠ '"') (rest : List Char) :
    escaped (c :: rest) = c :: escaped rest := by
  simp [escaped, other]

theorem unescaped_other {c : Char} (other : c ≠ '\\') (rest : List Char) :
    unescaped (c :: rest) = c :: unescaped rest := by
  rw [unescaped]
  · exact fun _ same _ => other same
  · exact fun _ same _ => other same

theorem unescaped_pair {c : Char} (backslash : c ≠ '\\') (quote : c ≠ '"') (rest : List Char) :
    unescaped ('\\' :: c :: rest) = '\\' :: c :: unescaped rest := by
  rw [unescaped, unescaped_other backslash]
  · exact fun _ _ same => quote (List.cons.inj same).1
  · exact fun _ _ same => backslash (List.cons.inj same).1

theorem inside?_other {c : Char} (backslash : c ≠ '\\') (quote : c ≠ '"') (rest : List Char) :
    inside? (c :: rest) = (inside? rest).map fun (inside, left) => (c :: inside, left) := by
  rw [inside?]
  · exact fun same _ => backslash same
  · exact fun _ _ same _ => backslash same
  · exact quote

theorem inside?_split {text inside left : List Char} (read : inside? text = some (inside, left)) :
    text = inside ++ '"' :: left := by
  induction text using inside?.induct generalizing inside with
  | case1 => cases read
  | case2 => cases read
  | case3 c rest ih =>
    rw [inside?] at read
    obtain ⟨⟨further, _⟩, there, ⟨⟩⟩ := Option.map_eq_some_iff.mp read
    exact congrArg ('\\' :: c :: ·) (ih there)
  | case4 rest =>
    cases read
    rfl
  | case5 c rest alone backslash quote ih =>
    rw [inside?] at read
    · obtain ⟨⟨further, _⟩, there, ⟨⟩⟩ := Option.map_eq_some_iff.mp read
      exact congrArg (c :: ·) (ih there)
    · exact alone
    · exact backslash
    · exact quote

@[elab_as_elim]
theorem induction_on {motive : List Char → Prop} (nil : motive [])
    (quote : ∀ rest, motive rest → motive ('"' :: rest))
    (other : ∀ c rest, c ≠ '\\' → c ≠ '"' → motive rest → motive (c :: rest))
    (lone : motive ['\\'])
    (double : ∀ rest, motive rest → motive ('\\' :: '\\' :: rest))
    (taken : ∀ rest, motive rest → motive ('\\' :: '"' :: rest))
    (pair : ∀ c rest, c ≠ '\\' → c ≠ '"' → motive rest → motive ('\\' :: c :: rest)) :
    ∀ text, motive text
  | [] => nil
  | c :: rest => by
    have further : ∀ shorter, shorter.length ≤ rest.length → motive shorter := fun shorter _ =>
      induction_on nil quote other lone double taken pair shorter
    by_cases backslash : c = '\\'
    · subst backslash
      cases rest with
      | nil => exact lone
      | cons d rest =>
        have onward := further rest (Nat.le_succ _)
        by_cases isBackslash : d = '\\'
        · exact isBackslash ▸ double rest onward
        by_cases isQuote : d = '"'
        · exact isQuote ▸ taken rest onward
        · exact pair d rest isBackslash isQuote onward
    · have onward := further rest (Nat.le_refl _)
      by_cases isQuote : c = '"'
      · exact isQuote ▸ quote rest onward
      · exact other c rest backslash isQuote onward
termination_by text => text.length
decreasing_by
  simp only [List.length_cons]
  omega

theorem unescaped_escaped_taken (rest : List Char) :
    unescaped (escaped ('\\' :: '"' :: rest)) = '\\' :: '"' :: unescaped (escaped rest) := by
  rw [escaped_other (by decide), escaped_quote, unescaped, unescaped_other (by decide)]

theorem unescaped_escaped_double (rest : List Char) :
    unescaped (escaped ('\\' :: '\\' :: rest)) = '\\' :: unescaped (escaped rest) := by
  rw [escaped_other (by decide), escaped_other (by decide), unescaped]

theorem unescaped_escaped_pair {c : Char} (backslash : c ≠ '\\') (quote : c ≠ '"')
    (rest : List Char) :
    unescaped (escaped ('\\' :: c :: rest)) = '\\' :: c :: unescaped (escaped rest) := by
  rw [escaped_other (by decide), escaped_other quote, unescaped_pair backslash quote]

theorem unescaped_escaped_quote (rest : List Char) :
    unescaped (escaped ('"' :: rest)) = '"' :: unescaped (escaped rest) := by
  rw [escaped_quote, unescaped]

theorem unescaped_escaped_other {c : Char} (backslash : c ≠ '\\') (quote : c ≠ '"')
    (rest : List Char) : unescaped (escaped (c :: rest)) = c :: unescaped (escaped rest) := by
  rw [escaped_other quote, unescaped_other backslash]

theorem length_unescaped_escaped (text : List Char) :
    (unescaped (escaped text)).length ≤ text.length := by
  induction text using induction_on with
  | nil => exact Nat.le_refl _
  | quote rest ih =>
    rw [unescaped_escaped_quote]
    exact Nat.succ_le_succ ih
  | other c rest backslash quote ih =>
    rw [unescaped_escaped_other backslash quote]
    exact Nat.succ_le_succ ih
  | lone => exact Nat.le_refl _
  | double rest ih =>
    rw [unescaped_escaped_double]
    exact Nat.succ_le_succ (Nat.le_succ_of_le ih)
  | taken rest ih =>
    rw [unescaped_escaped_taken]
    exact Nat.succ_le_succ (Nat.succ_le_succ ih)
  | pair c rest backslash quote ih =>
    rw [unescaped_escaped_pair backslash quote]
    exact Nat.succ_le_succ (Nat.succ_le_succ ih)

def ReadsBack (text : List Char) : Prop :=
  inside? (escaped text ++ ['"']) = some (escaped text, []) ∧ unescaped (escaped text) = text

theorem isLiteralOf_quotedText (text : List Char) :
    IsLiteralOf text (quotedText text) ↔ ReadsBack text := by
  have written : quotedText text = '"' :: (escaped text ++ ['"']) := rfl
  constructor
  · rintro ⟨rest, inside, same, read, means⟩
    obtain rfl : escaped text ++ ['"'] = rest := (List.cons.inj (written.symm.trans same)).2
    obtain rfl : escaped text = inside := List.append_cancel_right (inside?_split read)
    exact ⟨read, means⟩
  · rintro ⟨read, means⟩
    exact ⟨_, _, written, read, means⟩

def EachFollowed (text : List Char) : Prop :=
  ∀ earlier later, text = earlier ++ '\\' :: later →
    ∃ c rest, later = c :: rest ∧ c ≠ '\\' ∧ c ≠ '"'

theorem eachFollowed_cons (c : Char) (rest : List Char) : EachFollowed (c :: rest) ↔
    (c = '\\' → ∃ d more, rest = d :: more ∧ d ≠ '\\' ∧ d ≠ '"') ∧ EachFollowed rest := by
  constructor
  · intro followed
    refine ⟨fun backslash => followed [] rest (by rw [backslash]; rfl), ?_⟩
    intro earlier later split
    exact followed (c :: earlier) later (by rw [split]; rfl)
  · rintro ⟨first, followed⟩ earlier later split
    cases earlier with
    | nil =>
      obtain ⟨rfl, rfl⟩ := List.cons.inj split
      exact first rfl
    | cons d earlier => exact followed earlier later (List.cons.inj split).2

theorem eachFollowed_other {c : Char} (backslash : c ≠ '\\') (rest : List Char) :
    EachFollowed (c :: rest) ↔ EachFollowed rest := by
  rw [eachFollowed_cons]
  exact and_iff_right fun same => absurd same backslash

theorem EachFollowed.next {rest : List Char} (followed : EachFollowed ('\\' :: rest)) :
    ∃ d more, rest = d :: more ∧ d ≠ '\\' ∧ d ≠ '"' :=
  ((eachFollowed_cons '\\' rest).mp followed).1 rfl

theorem readsBack_iff (text : List Char) : ReadsBack text ↔ EachFollowed text := by
  induction text using induction_on with
  | nil => exact iff_of_true ⟨rfl, rfl⟩ fun earlier later split => by simp at split
  | quote rest ih =>
    rw [eachFollowed_other (by decide), ← ih]
    unfold ReadsBack
    rw [unescaped_escaped_quote, escaped_quote]
    simp [inside?]
  | other c rest backslash quote ih =>
    rw [eachFollowed_other backslash, ← ih]
    unfold ReadsBack
    rw [unescaped_escaped_other backslash quote, escaped_other quote]
    simp [inside?_other backslash quote]
  | lone =>
    -- The backslash takes the last quote with it.
    refine iff_of_false (fun back => nomatch back.1) fun followed => ?_
    obtain ⟨d, more, ⟨⟩, _⟩ := followed.next
  | double rest ih =>
    refine iff_of_false (fun back => ?_) fun followed => ?_
    · have means := back.2
      rw [unescaped_escaped_double] at means
      have shorter := length_unescaped_escaped rest
      rw [(List.cons.inj means).2] at shorter
      exact absurd shorter (Nat.not_succ_le_self _)
    · obtain ⟨d, more, same, backslash, _⟩ := followed.next
      exact backslash (List.cons.inj same).1.symm
  | taken rest ih =>
    -- The backslash takes the one that was written for the quote, so that the quote is the last.
    refine iff_of_false (fun back => ?_) fun followed => ?_
    · have read := back.1
      rw [escaped_other (by decide), escaped_quote] at read
      simp [inside?] at read
    · obtain ⟨d, more, same, _, quote⟩ := followed.next
      exact quote (List.cons.inj same).1.symm
  | pair c rest backslash quote ih =>
    rw [eachFollowed_cons, eachFollowed_other backslash, ← ih]
    unfold ReadsBack
    rw [unescaped_escaped_pair backslash quote, escaped_other (by decide), escaped_other quote]
    simp [inside?, backslash, quote]

-- What an edit of a quoted text sends has one argument, and that is one literal for the text, read
-- to its last quote and no further, exactly if each backslash of the text has a character after it
-- that is neither a backslash nor a quote. Quotes by themselves do no harm.
theorem quoted_argument_complete_iff (text : String) :
    (∀ verb, (Editor.Control.Handler.encode? ⟨verb, .string, true⟩ (.text text)).map command =
      some (verb ++ "( " ++ (Argument.quoted text).text ++ " )")) ∧
    (IsLiteralOf text.toList (Argument.quoted text).text.toList ↔ EachFollowed text.toList) := by
  refine ⟨fun verb => rfl, ?_⟩
  rw [Argument.text, String.toList_ofList, isLiteralOf_quotedText]
  exact readsBack_iff text.toList

-- A backslash at the end of a text takes the last quote, and the literal has no end.
theorem lone_backslash_unclosed :
    ¬ ∀ text : String, IsLiteralOf text.toList (Argument.quoted text).text.toList := by
  intro always
  obtain ⟨rest, inside, written, read, _⟩ := always "\\"
  have quoted : (Argument.quoted "\\").text.toList = ['"', '\\', '"'] := by decide
  obtain rfl : ['\\', '"'] = rest := (List.cons.inj (quoted.symm.trans written)).2
  cases read

example : inside? ((quotedText "\\\"); Destroy(".toList).drop 1) =
    some (['\\', '\\'], "); Destroy(\"".toList) := by decide

end SceneInspector.Call
