import SceneInspector.Editor.Control
import SceneInspector.Proofs.HexColour
import SceneInspector.Proofs.Numerals

namespace SceneInspector.Text

-- No decimal digit of any script lies among the blanks.
theorem blank_of_decimalDigit {c : Char} (digit : isDecimalDigit c = true) :
    isBlank c = false := by
  obtain ⟨start, member, within⟩ := List.any_eq_true.mp digit
  obtain ⟨lower, upper⟩ : start ≤ c.toNat ∧ c.toNat < start + 10 := by simpa using within
  have apart : ∀ start ∈ zeroDigits, (0x20 < start ∧ start + 10 ≤ 0x85) ∨
      (0xA0 < start ∧ start + 10 ≤ 0x1680) ∨ (0x1680 < start ∧ start + 10 ≤ 0x2000) ∨
        0x3000 < start := by decide
  have here := apart start member
  simp only [isBlank, Bool.or_eq_false_iff, Bool.and_eq_false_iff, beq_eq_false_iff_ne,
    decide_eq_false_iff_not]
  omega

end SceneInspector.Text

namespace SceneInspector.Colour
variable {c : Char} {typed : List Char} {colour : Rgb}

structure Digits where
  text : List Char
  some_digit : text ≠ []
  all : ∀ c ∈ text, Text.isDecimalDigit c = true

structure Gap where
  text : List Char
  single : text.length ≤ 1
  all : ∀ c ∈ text, Text.isBlank c = true

structure Triple where
  red : Digits
  afterRed : Gap
  green : Digits
  afterGreen : Gap
  blue : Digits

def Triple.inside (triple : Triple) : List Char :=
  triple.red.text ++ ',' :: (triple.afterRed.text ++
    (triple.green.text ++ ',' :: (triple.afterGreen.text ++ triple.blue.text)))

def Triple.text (triple : Triple) : List Char :=
  'r' :: 'g' :: 'b' :: '(' :: (triple.inside ++ [')'])

def Triple.parts (triple : Triple) : List Char × List Char × List Char :=
  (triple.red.text, triple.green.text, triple.blue.text)

def Digits.Writes (digits : Digits) (value : UInt8) : Prop :=
  (∀ c ∈ digits.text, c.isDigit = true) ∧ Text.digitsValue digits.text = value.toNat

structure Triple.Writes (triple : Triple) (colour : Rgb) : Prop where
  red : triple.red.Writes colour.red
  green : triple.green.Writes colour.green
  blue : triple.blue.Writes colour.blue

-- A text that is one colour from its first character to its last.
inductive Literal : List Char → Rgb → Prop where
  | triple {triple : Triple} {colour : Rgb} (writes : triple.Writes colour) :
      Literal triple.text colour
  | hex {digits : List Char} {colour : Rgb}
      (hex : SixDigits digits colour ∨ ThreeDigits digits colour) :
      Literal ('#' :: digits) colour
  | name {name : List Char} {digits : String} {colour : Rgb}
      (known : named? (String.ofList name) = some digits)
      (six : SixDigits digits.toList colour) : Literal name colour

structure Leftmost (triple : Triple) (before after text : List Char) : Prop where
  split : text = before ++ (triple.text ++ after)
  earliest : ∀ (other : Triple) (start rest : List Char), text = start ++ (other.text ++ rest) →
    before.length ≤ start.length

def Surrounded (text : List Char) (colour : Rgb) : Prop :=
  ∃ triple before after, Leftmost triple before after text ∧ triple.Writes colour ∧
    ¬ (before = [] ∧ after = [])

theorem component?_append (digits : Digits) (other : Text.isDecimalDigit c = false)
    (rest : List Char) : component? (digits.text ++ c :: rest) = some (digits.text, c :: rest) := by
  have run : (digits.text ++ c :: rest).takeWhile Text.isDecimalDigit = digits.text := by
    rw [List.takeWhile_append_of_pos digits.all, List.takeWhile_cons_of_neg (by simp [other]),
      List.append_nil]
  have remains : (digits.text ++ c :: rest).dropWhile Text.isDecimalDigit = c :: rest := by
    rw [List.dropWhile_append_of_pos digits.all, List.dropWhile_cons_of_neg (by simp [other])]
  unfold component?
  rw [run, remains]
  exact if_neg digits.some_digit

theorem component?_split {digits rest : List Char}
    (read : component? typed = some (digits, rest)) :
    ∃ run : Digits, run.text = digits ∧ typed = run.text ++ rest := by
  unfold component? at read
  dsimp only at read
  split at read
  · cases read
  · rename_i some_digit
    cases read
    exact ⟨⟨_, some_digit, List.all_eq_true.mp List.all_takeWhile⟩, rfl,
      List.takeWhile_append_dropWhile.symm⟩

theorem afterComma?_append (gap : Gap) (digits : Digits) (rest : List Char) :
    afterComma? (',' :: (gap.text ++ (digits.text ++ rest))) = some (digits.text ++ rest) := by
  obtain ⟨run, some_digit, all⟩ := digits
  obtain ⟨first, others, rfl⟩ := List.exists_cons_of_ne_nil some_digit
  obtain ⟨blanks, single, blank⟩ := gap
  match blanks with
  | [] =>
    have unblank := Text.blank_of_decimalDigit (all first List.mem_cons_self)
    simp [afterComma?, unblank]
  | [c] =>
    have white := blank c List.mem_cons_self
    simp [afterComma?, white]
  | _ :: _ :: _ => simp at single

theorem afterComma?_split {rest : List Char} (read : afterComma? typed = some rest) :
    ∃ gap : Gap, typed = ',' :: (gap.text ++ rest) := by
  unfold afterComma? at read
  split at read
  · rename_i c others
    by_cases blank : Text.isBlank c = true
    · rw [if_pos blank] at read
      cases read
      exact ⟨⟨[c], by simp, by simpa using blank⟩, rfl⟩
    · rw [if_neg blank] at read
      cases read
      exact ⟨⟨[], by simp, by simp⟩, rfl⟩
  · cases read
    exact ⟨⟨[], by simp, by simp⟩, rfl⟩
  · cases read

theorem tupleHere?_append (triple : Triple) (rest : List Char) :
    tupleHere? (triple.text ++ rest) = some triple.parts := by
  have comma : Text.isDecimalDigit ',' = false := by decide +kernel
  have close : Text.isDecimalDigit ')' = false := by decide +kernel
  simp [Triple.text, Triple.inside, Triple.parts, tupleHere?, component?_append _ comma,
    component?_append _ close, afterComma?_append]

theorem tupleHere?_split {parts : List Char × List Char × List Char}
    (read : tupleHere? typed = some parts) :
    ∃ (triple : Triple) (rest : List Char), typed = triple.text ++ rest ∧
      triple.parts = parts := by
  unfold tupleHere? at read
  split at read
  · simp only [Option.bind_eq_bind, Option.bind_eq_some_iff] at read
    obtain ⟨⟨_, _⟩, first, _, comma, ⟨_, _⟩, second, _, other, ⟨_, _⟩, third, read⟩ := read
    split at read
    · rename_i rest close
      cases read
      obtain ⟨red, rfl, rfl⟩ := component?_split first
      obtain ⟨afterRed, rfl⟩ := afterComma?_split comma
      obtain ⟨green, rfl, rfl⟩ := component?_split second
      obtain ⟨afterGreen, rfl⟩ := afterComma?_split other
      obtain ⟨blue, rfl, rfl⟩ := component?_split third
      cases close
      refine ⟨⟨red, afterRed, green, afterGreen, blue⟩, rest, ?_, rfl⟩
      simp [Triple.text, Triple.inside]
    · cases read
  · cases read

theorem tupleHere?_eq_some {parts : List Char × List Char × List Char} :
    tupleHere? typed = some parts ↔ ∃ (triple : Triple) (rest : List Char),
      typed = triple.text ++ rest ∧ triple.parts = parts := by
  constructor
  · exact tupleHere?_split
  · rintro ⟨triple, rest, rfl, rfl⟩
    exact tupleHere?_append triple rest

theorem Leftmost.head {triple : Triple} {after : List Char} :
    Leftmost triple [] after (triple.text ++ after) :=
  ⟨rfl, fun _ _ _ _ => Nat.zero_le _⟩

-- Where no triple begins at the head, the first one of what follows is the first one.
theorem Leftmost.cons_iff {triple : Triple} {before after : List Char}
    (not_here : tupleHere? (c :: typed) = none) :
    Leftmost triple (c :: before) after (c :: typed) ↔ Leftmost triple before after typed := by
  constructor
  · intro found
    refine ⟨(List.cons.inj found.split).2, fun other start rest split => ?_⟩
    have earlier := found.earliest other (c :: start) rest (congrArg (c :: ·) split)
    simpa using earlier
  · intro found
    refine ⟨congrArg (c :: ·) found.split, fun other start rest split => ?_⟩
    cases start with
    | nil =>
      have here := tupleHere?_append other rest
      rw [← List.nil_append (other.text ++ rest), ← split, not_here] at here
      cases here
    | cons head start =>
      have later := found.earliest other start rest (List.cons.inj split).2
      simpa using later

theorem tuple?_eq_some {parts : List Char × List Char × List Char} :
    tuple? typed = some parts ↔ ∃ triple before after,
      Leftmost triple before after typed ∧ triple.parts = parts := by
  induction typed with
  | nil =>
    refine iff_of_false nofun ?_
    rintro ⟨triple, before, after, ⟨split, _⟩, _⟩
    simp [Triple.text] at split
  | cons c rest ih =>
    unfold tuple?
    cases here : tupleHere? (c :: rest) with
    | some found =>
      obtain ⟨triple, after, split, rfl⟩ := tupleHere?_eq_some.mp here
      constructor
      · rintro ⟨⟩
        exact ⟨triple, [], after, split ▸ .head, rfl⟩
      · rintro ⟨other, before, further, first, rfl⟩
        obtain rfl : before = [] :=
          List.eq_nil_of_length_eq_zero (Nat.le_zero.mp (first.earliest triple [] after split))
        have again := tupleHere?_append other further
        rw [← List.nil_append (other.text ++ further), ← first.split, here] at again
        exact again
    | none =>
      rw [Option.none_or, ih]
      constructor
      · rintro ⟨triple, before, after, first, same⟩
        exact ⟨triple, c :: before, after, (Leftmost.cons_iff here).mpr first, same⟩
      · rintro ⟨triple, before, after, first, same⟩
        cases before with
        | nil =>
          have found := tupleHere?_append triple after
          rw [← List.nil_append (triple.text ++ after), ← first.split, here] at found
          cases found
        | cons head before =>
          obtain rfl : c = head := (List.cons.inj first.split).1
          exact ⟨triple, before, after, (Leftmost.cons_iff here).mp first, same⟩

theorem byte?_eq_some (digits : Digits) {value : UInt8} :
    byte? digits.text = some value ↔ digits.Writes value := by
  obtain ⟨run, some_digit, all⟩ := digits
  have unsigned : ∀ rest, run ≠ '+' :: rest := by
    rintro rest rfl
    exact absurd (all '+' List.mem_cons_self) (by decide +kernel)
  have read : Text.unsigned? Text.maxUInt8 run =
      (Text.natural? run).filter (· ≤ Text.maxUInt8) := by
    unfold Text.unsigned?
    split
    · rename_i rest
      exact absurd rfl (unsigned rest)
    · rfl
  have small := value.toNat_lt
  simp only [byte?, read, Text.natural?, Digits.Writes]
  constructor
  · intro found
    obtain ⟨number, kept, rfl⟩ := Option.map_eq_some_iff.mp found
    obtain ⟨digits, within⟩ := Option.filter_eq_some_iff.mp kept
    split at digits
    · rename_i ascii
      cases digits
      refine ⟨List.all_eq_true.mp ascii.2, ?_⟩
      rw [UInt8.toNat_ofNat', Nat.mod_eq_of_lt]
      exact Nat.lt_succ_of_le (of_decide_eq_true within)
    · cases digits
  · rintro ⟨ascii, written⟩
    rw [if_pos ⟨some_digit, List.all_eq_true.mpr ascii⟩, written]
    have within : value.toNat ≤ Text.maxUInt8 := Nat.le_of_lt_succ small
    simp [Option.filter, within]

-- The table has nothing that a triple or a hash sign could be read from, and no three digits.
theorem named?_facts {name value : String} (known : named? name = some value) :
    '(' ∉ name.toList ∧ '#' ∉ name.toList ∧ '#' ∉ value.toList ∧ value.toList.length ≠ 3 := by
  obtain ⟨before, after, split, _⟩ := List.lookup_eq_some_iff.mp known
  have member : (name, value) ∈ names := by
    rw [split]
    exact List.mem_append_right _ List.mem_cons_self
  have table : ∀ entry ∈ names, '(' ∉ entry.1.toList ∧ '#' ∉ entry.1.toList ∧
      '#' ∉ entry.2.toList ∧ entry.2.toList.length ≠ 3 := by decide +kernel
  exact table _ member

theorem hex?_named {name value : String} (known : named? name = some value) :
    hex? value.toList = some colour ↔ SixDigits value.toList colour := by
  obtain ⟨_, _, unmarked, not_three⟩ := named?_facts known
  have plain : Colour.unmarked value.toList = value.toList := by
    unfold Colour.unmarked
    split
    · rename_i digits marked
      exact absurd (marked ▸ List.mem_cons_self) unmarked
    · rfl
  rw [hex?_eq_some, plain]
  exact or_iff_left fun ⟨a, b, c, three, _⟩ => not_three (by rw [three]; rfl)

theorem Channel.not_parenthesis {high low : Char} {value : UInt8}
    (channel : Channel high low value) : '(' ≠ high ∧ '(' ≠ low := by
  obtain ⟨first, second, one, two, _⟩ := channel
  have unread (value : Nat) : ¬ HexDigit '(' value := by
    rw [← hexDigit?_eq_some]
    exact nofun
  constructor
  · rintro rfl
    exact unread first one
  · rintro rfl
    exact unread second two

theorem hexDigits_not_parenthesis (hex : SixDigits typed colour ∨ ThreeDigits typed colour) :
    '(' ∉ typed := by
  rcases hex with ⟨a, b, c, d, e, f, rfl, red, green, blue⟩ | ⟨a, b, c, rfl, red, green, blue⟩
  all_goals simp [red.not_parenthesis, green.not_parenthesis, blue.not_parenthesis]

theorem Literal.triple_of_parenthesis (literal : Literal typed colour) (opens : '(' ∈ typed) :
    ∃ triple : Triple, typed = triple.text ∧ triple.Writes colour := by
  cases literal with
  | triple writes => exact ⟨_, rfl, writes⟩
  | hex hex =>
    have inside := List.mem_of_ne_of_mem (by decide) opens
    exact absurd inside (hexDigits_not_parenthesis hex)
  | name known six =>
    have absent := (named?_facts known).1
    rw [String.toList_ofList] at absent
    exact absurd opens absent

theorem Leftmost.parenthesis {triple : Triple} {before after : List Char}
    (first : Leftmost triple before after typed) : '(' ∈ typed := by
  rw [first.split]
  simp [Triple.text]

theorem Leftmost.alone {triple : Triple} : Leftmost triple [] [] triple.text :=
  ⟨(List.append_nil _).symm, fun _ _ _ _ => Nat.zero_le _⟩

theorem Triple.inside_open (triple : Triple) : ')' ∉ triple.inside := by
  intro member
  have undigit (digits : Digits) : ')' ∉ digits.text :=
    fun inside => absurd (digits.all _ inside) (by decide +kernel)
  have unblank (gap : Gap) : ')' ∉ gap.text := fun inside => absurd (gap.all _ inside) (by decide)
  simp [Triple.inside, undigit, unblank] at member

-- A literal is its own first triple, as the triple closes where its text ends.
theorem Literal.whole {triple : Triple} {before after : List Char}
    (literal : Literal typed colour) (first : Leftmost triple before after typed) :
    before = [] ∧ after = [] := by
  obtain ⟨other, rfl, _⟩ := literal.triple_of_parenthesis first.parenthesis
  obtain rfl : before = [] :=
    List.eq_nil_of_length_eq_zero (Nat.le_zero.mp (first.earliest other [] [] (by simp)))
  refine ⟨rfl, ?_⟩
  have rest (triple : Triple) (after : List Char) :
      (triple.inside ++ ')' :: after).dropWhile (· ≠ ')') = ')' :: after := by
    have inside : ∀ c ∈ triple.inside, decide (c ≠ ')') = true := fun c member =>
      decide_eq_true (ne_of_mem_of_not_mem member triple.inside_open)
    rw [List.dropWhile_append_of_pos inside, List.dropWhile_cons_of_neg (by simp)]
  have split := first.split
  have inside : other.inside ++ [')'] = triple.inside ++ ')' :: after := by
    simpa [Triple.text] using split
  have closes := rest other []
  rw [inside, rest triple after] at closes
  exact (List.cons.inj closes).2

section
variable {text : String}

-- The first triple has the say, wherever it stands and whether or not it writes a colour.
theorem parse?_of_leftmost {triple : Triple} {before after : List Char}
    (first : Leftmost triple before after text.toList) :
    parse? text = some colour ↔ triple.Writes colour := by
  have made : tuple? text.toList = some triple.parts :=
    tuple?_eq_some.mpr ⟨triple, before, after, first, rfl⟩
  unfold parse?
  rw [made]
  simp only [Triple.parts, Option.bind_eq_bind, Option.bind_eq_some_iff, byte?_eq_some]
  constructor
  · rintro ⟨red, one, green, two, blue, three, ⟨⟩⟩
    exact ⟨one, two, three⟩
  · intro writes
    exact ⟨_, writes.red, _, writes.green, _, writes.blue, rfl⟩

theorem parse?_of_none (absent : tuple? text.toList = none) :
    parse? text = some colour ↔ Literal text.toList colour := by
  unfold parse?
  rw [absent]
  dsimp only
  constructor
  · intro read
    split at read
    · rename_i digits marked
      rw [marked]
      exact .hex (hex?_eq_some.mp read)
    · obtain ⟨value, known, read⟩ := Option.bind_eq_some_iff.mp read
      exact .name (by rw [String.ofList_toList, known]) ((hex?_named known).mp read)
  · intro literal
    obtain ⟨typed, rfl⟩ : ∃ typed, text = String.ofList typed :=
      ⟨text.toList, String.ofList_toList.symm⟩
    rw [String.toList_ofList] at absent literal ⊢
    cases literal with
    | @triple triple _ _ =>
      have made := tuple?_eq_some.mpr ⟨triple, [], [], .alone, rfl⟩
      cases absent.symm.trans made
    | hex hex => exact hex?_eq_some.mpr hex
    | @name _ value _ known six =>
      obtain ⟨_, unmarked, _⟩ := named?_facts known
      rw [String.toList_ofList] at unmarked
      split
      · exact absurd List.mem_cons_self unmarked
      · rw [known]
        exact (hex?_named known).mpr six

theorem parse?_eq_some : parse? text = some colour ↔
    Literal text.toList colour ∨ Surrounded text.toList colour := by
  constructor
  · intro read
    cases made : tuple? text.toList with
    | none => exact .inl ((parse?_of_none made).mp read)
    | some parts =>
      obtain ⟨triple, before, after, first, _⟩ := tuple?_eq_some.mp made
      have writes := (parse?_of_leftmost first).mp read
      by_cases whole : before = [] ∧ after = []
      · obtain ⟨rfl, rfl⟩ := whole
        have same : text.toList = triple.text := by simpa using first.split
        rw [same]
        exact .inl (.triple writes)
      · exact .inr ⟨triple, before, after, first, writes, whole⟩
  · rintro (literal | ⟨triple, before, after, first, writes, _⟩)
    · cases made : tuple? text.toList with
      | none => exact (parse?_of_none made).mpr literal
      | some parts =>
        obtain ⟨_, _, _, first, _⟩ := tuple?_eq_some.mp made
        obtain ⟨triple, same, writes⟩ := literal.triple_of_parenthesis first.parenthesis
        exact (parse?_of_leftmost (same ▸ Leftmost.alone)).mpr writes
    · exact (parse?_of_leftmost first).mpr writes

end

end SceneInspector.Colour

namespace SceneInspector.Editor.Control
variable {control : Control} {event : Event}

theorem edit_unsent (unsent : (control.edit event).2 = none) :
    control.edit event = (control, none) := by
  unfold edit at unsent ⊢
  split at unsent
  · cases unsent
  · rfl

theorem edit_colour_sent {picked : String} {call : Call} :
    (control.edit (.colour picked)).2 = some call ↔ control.handler.kind = .colour ∧
      ∃ colour, Colour.parse? picked = some colour ∧
        call = ⟨control.handler.verb, colour.components.map .byte⟩ := by
  unfold edit Handler.encode? Handler.arguments?
  cases kind : control.handler.kind with
  | colour =>
    cases read : Colour.parse? picked with
    | none => simp [read]
    | some colour => simp [read, eq_comm]
  | _ => simp

end SceneInspector.Editor.Control

namespace SceneInspector.Colour

def FailsClosed (text : String) : Prop :=
  (∀ colour, parse? text = some colour ↔ Literal text.toList colour) ∧
    ((∀ colour, ¬ Literal text.toList colour) →
      ∀ control : Editor.Control, control.edit (.colour text) = (control, none))

theorem failsClosed_iff (text : String) :
    FailsClosed text ↔ ∀ colour, ¬ Surrounded text.toList colour := by
  constructor
  · rintro ⟨exact, _⟩ colour surrounded
    have literal := (exact colour).mp (parse?_eq_some.mpr (.inr surrounded))
    obtain ⟨triple, before, after, first, _, more⟩ := surrounded
    exact more (literal.whole first)
  · intro alone
    have read (colour : Rgb) : parse? text = some colour ↔ Literal text.toList colour :=
      parse?_eq_some.trans (or_iff_left (alone colour))
    refine ⟨read, fun none_literal control => Editor.Control.edit_unsent ?_⟩
    refine Option.eq_none_iff_forall_ne_some.mpr fun call sent => ?_
    obtain ⟨_, colour, picked, _⟩ := Editor.Control.edit_colour_sent.mp sent
    exact none_literal colour ((read colour).mp picked)

-- What is read is a literal or the first triple of a text that has more to it, if it is in range.
-- What is read is sent by each control for a colour, and a control that sends nothing stays as it
-- is. So only the text around a triple keeps the reading of colours from failing closed.
theorem read_iff_literal_or_surrounded (text : String) :
    (∀ colour, parse? text = some colour ↔
      Literal text.toList colour ∨ Surrounded text.toList colour) ∧
    (∀ (control : Editor.Control) (call : Call),
      (control.edit (.colour text)).2 = some call ↔ control.handler.kind = .colour ∧
        ∃ colour, (Literal text.toList colour ∨ Surrounded text.toList colour) ∧
          call = ⟨control.handler.verb, colour.components.map .byte⟩) ∧
    (∀ control : Editor.Control, (control.edit (.colour text)).2 = none →
      control.edit (.colour text) = (control, none)) ∧
    (FailsClosed text ↔ ∀ colour, ¬ Surrounded text.toList colour) := by
  refine ⟨fun _ => parse?_eq_some, fun control call => ?_, fun _ => Editor.Control.edit_unsent,
    failsClosed_iff text⟩
  simp only [← parse?_eq_some]
  exact Editor.Control.edit_colour_sent

theorem letters_around_triple : ¬ FailsClosed "xrgb(1,2,3)y" := by
  rintro ⟨exact, _⟩
  have read : parse? "xrgb(1,2,3)y" = some ⟨1, 2, 3⟩ := by decide +kernel
  have literal := (exact ⟨1, 2, 3⟩).mp read
  obtain ⟨triple, same, _⟩ := literal.triple_of_parenthesis (by decide)
  have begins : 'x' = 'r' := (List.cons.inj same).1
  exact absurd begins (by decide)

end SceneInspector.Colour
