import SceneInspector.Text.Numeral

namespace SceneInspector.Text

theorem digitsValue_toDigits (number : Nat) : digitsValue (Nat.toDigits 10 number) = number :=
  Nat.ofDigitChars_toDigits (by decide) (by decide)

theorem toDigits_digits {number : Nat} {c : Char} (member : c ∈ Nat.toDigits 10 number) :
    c.isDigit = true :=
  Nat.isDigit_of_mem_toDigits (by decide) (by decide) member

theorem digitChar_digitValue {c : Char} (digit : c.isDigit = true) :
    digitValue c < 10 ∧ Nat.digitChar (digitValue c) = c := by
  simp only [Char.isDigit, Bool.and_eq_true, decide_eq_true_eq, UInt32.le_iff_toNat_le] at digit
  have lower : 48 ≤ c.toNat := digit.1
  have upper : c.toNat ≤ 57 := digit.2
  have value : digitValue c = c.toNat - 48 := rfl
  have small : digitValue c < 10 := by omega
  refine ⟨small, Char.toNat_inj.mp ?_⟩
  rw [Nat.toNat_digitChar_of_lt_ten small]
  omega

-- Digits that follow a number other than zero are the last ones of the number that they make.
theorem toDigits_append {value : Nat} (positive : 0 < value) {digits : List Char}
    (all : ∀ c ∈ digits, c.isDigit = true) :
    Nat.toDigits 10 (digits.foldl (fun value c => 10 * value + digitValue c) value) =
      Nat.toDigits 10 value ++ digits := by
  induction digits generalizing value with
  | nil => simp
  | cons c rest ih =>
    obtain ⟨first, others⟩ := List.forall_mem_cons.mp all
    obtain ⟨small, same⟩ := digitChar_digitValue first
    have joined := Nat.toDigits_append_toDigits (b := 10) (by decide) positive small
    rw [Nat.toDigits_of_lt_base small, same] at joined
    have onward : 0 < 10 * value + digitValue c := by omega
    rw [List.foldl_cons, ih onward others, ← joined, List.append_assoc]
    rfl

theorem exists_zeros {digits : List Char} (some_digit : digits ≠ [])
    (all : ∀ c ∈ digits, c.isDigit = true) :
    ∃ zeros, digits = List.replicate zeros '0' ++ Nat.toDigits 10 (digitsValue digits) := by
  induction digits with
  | nil => exact absurd rfl some_digit
  | cons c rest ih =>
    obtain ⟨first, others⟩ := List.forall_mem_cons.mp all
    obtain ⟨small, same⟩ := digitChar_digitValue first
    have value : digitsValue (c :: rest) =
        rest.foldl (fun value c => 10 * value + digitValue c) (digitValue c) := by
      simp [digitsValue]
    by_cases zero : digitValue c = 0
    · rw [zero] at value same
      obtain rfl : c = '0' := same.symm
      by_cases last : rest = []
      · subst last
        exact ⟨0, rfl⟩
      · obtain ⟨zeros, split⟩ := ih last others
        refine ⟨zeros + 1, ?_⟩
        rw [value]
        exact congrArg ('0' :: ·) split
    · refine ⟨0, ?_⟩
      rw [value, toDigits_append (Nat.pos_of_ne_zero zero) others,
        Nat.toDigits_of_lt_base small, same]
      rfl

theorem digitsValue_zeros (zeros : Nat) (digits : List Char) :
    digitsValue (List.replicate zeros '0' ++ digits) = digitsValue digits := by
  induction zeros with
  | zero => rfl
  | succ zeros ih => exact ih

theorem natural?_digits {text : List Char} {number : Nat} (read : natural? text = some number)
    {c : Char} (member : c ∈ text) : c.isDigit = true := by
  unfold natural? at read
  split at read
  · rename_i digits
    exact List.all_eq_true.mp digits.2 c member
  · cases read

theorem natural?_eq_some {text : List Char} {number : Nat} : natural? text = some number ↔
    ∃ zeros, text = List.replicate zeros '0' ++ Nat.toDigits 10 number := by
  unfold natural?
  constructor
  · intro read
    split at read
    · rename_i digits
      cases read
      exact exists_zeros digits.1 (List.all_eq_true.mp digits.2)
    · cases read
  · rintro ⟨zeros, rfl⟩
    have digits : ∀ c ∈ List.replicate zeros '0' ++ Nat.toDigits 10 number, c.isDigit = true := by
      intro c member
      rcases List.mem_append.mp member with zero | digit
      · rw [List.eq_of_mem_replicate zero]
        rfl
      · exact toDigits_digits digit
    have written : List.replicate zeros '0' ++ Nat.toDigits 10 number ≠ [] :=
      List.append_ne_nil_of_right_ne_nil _ Nat.toDigits_ne_nil
    rw [if_pos ⟨written, List.all_eq_true.mpr digits⟩, digitsValue_zeros, digitsValue_toDigits]

structure Numeral where
  signed : Bool := false
  zeros : Nat := 0
  number : Nat

namespace Numeral

def text (numeral : Numeral) : List Char :=
  (if numeral.signed then ['+'] else []) ++
    (List.replicate numeral.zeros '0' ++ Nat.toDigits 10 numeral.number)

def needless (numeral : Numeral) : Nat := (if numeral.signed then 1 else 0) + numeral.zeros

theorem length_text (numeral : Numeral) :
    numeral.text.length = (Nat.toDigits 10 numeral.number).length + numeral.needless := by
  unfold text needless
  split <;> simp <;> omega

theorem plain_eq {numeral : Numeral} (plain : numeral.needless = 0) :
    { number := numeral.number } = numeral := by
  obtain ⟨signed, zeros, number⟩ := numeral
  unfold needless at plain
  cases signed with
  | false => simpa [eq_comm] using plain
  | true => simp at plain

theorem text_digits (numeral : Numeral) {c : Char} (member : c ∈ numeral.text) :
    c = '+' ∨ c.isDigit = true := by
  unfold text at member
  rcases List.mem_append.mp member with sign | rest
  · split at sign
    · exact .inl (List.mem_singleton.mp sign)
    · cases sign
  · rcases List.mem_append.mp rest with zero | digit
    · rw [List.eq_of_mem_replicate zero]
      exact .inr rfl
    · exact .inr (toDigits_digits digit)

end Numeral

theorem unsigned?_eq_some {limit number : Nat} {text : List Char} :
    unsigned? limit text = some number ↔
      number ≤ limit ∧ ∃ numeral : Numeral, numeral.number = number ∧ numeral.text = text := by
  unfold unsigned?
  constructor
  · intro read
    obtain ⟨value, within⟩ := Option.filter_eq_some_iff.mp read
    refine ⟨by simpa using within, ?_⟩
    obtain ⟨zeros, split⟩ := natural?_eq_some.mp value
    split at split
    · rename_i rest
      exact ⟨⟨true, zeros, number⟩, rfl, congrArg ('+' :: ·) split.symm⟩
    · exact ⟨⟨false, zeros, number⟩, rfl, split.symm⟩
  · rintro ⟨within, ⟨signed, zeros, number⟩, rfl, rfl⟩
    have value : natural? (List.replicate zeros '0' ++ Nat.toDigits 10 number) = some number :=
      natural?_eq_some.mpr ⟨zeros, rfl⟩
    refine Option.filter_eq_some_iff.mpr ⟨?_, by simpa using within⟩
    cases signed with
    | true => exact value
    | false =>
      -- Digits do not begin with a plus sign, so that none is taken off.
      split
      · rename_i rest sign
        have plus : '+' ∈ List.replicate zeros '0' ++ Nat.toDigits 10 number := by
          rw [show List.replicate zeros '0' ++ Nat.toDigits 10 number = '+' :: rest from sign]
          exact List.mem_cons_self
        exact absurd (natural?_digits value plus) (by decide)
      · exact value

end SceneInspector.Text
