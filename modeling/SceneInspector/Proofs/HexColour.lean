import Mathlib.Data.List.Basic
import SceneInspector.Colour.Literal

namespace SceneInspector.Colour
variable {c : Char} {text found : List Char} {colour : Rgb} {value : Nat}

def HexDigit (c : Char) (value : Nat) : Prop :=
  value < 16 ∧ (c = Nat.digitChar value ∨ c = (Nat.digitChar value).toUpper)

instance : Decidable (HexDigit c value) := inferInstanceAs (Decidable (_ ∧ _))

def Channel (high low : Char) (value : UInt8) : Prop :=
  ∃ first second, HexDigit high first ∧ HexDigit low second ∧ value.toNat = 16 * first + second

def SixDigits (digits : List Char) (colour : Rgb) : Prop :=
  ∃ a b c d e f, digits = [a, b, c, d, e, f] ∧
    Channel a b colour.red ∧ Channel c d colour.green ∧ Channel e f colour.blue

def ThreeDigits (digits : List Char) (colour : Rgb) : Prop :=
  ∃ a b c, digits = [a, b, c] ∧
    Channel a a colour.red ∧ Channel b b colour.green ∧ Channel c c colour.blue

-- Every digit is one of ASCII, so that a table of these decides.
theorem hexDigit?_eq_some : hexDigit? c = some value ↔ HexDigit c value := by
  constructor
  · intro read
    have ascii : c.toNat < 128 := by
      refine Nat.lt_of_not_le fun beyond => ?_
      have past (last : Char) (low : last.toNat < 128) : ¬ c ≤ last :=
        fun below => Nat.not_lt_of_le (Nat.le_trans beyond (UInt32.le_iff_toNat_le.mp below)) low
      simp [hexDigit?, past] at read
    have table : ∀ point < 128, ∀ value ∈ hexDigit? (Char.ofNat point),
        HexDigit (Char.ofNat point) value := by decide +kernel
    rw [← Char.ofNat_toNat c] at read ⊢
    exact table c.toNat ascii value read
  · rintro ⟨small, same⟩
    have table : ∀ value < 16, hexDigit? (Nat.digitChar value) = some value ∧
        hexDigit? (Nat.digitChar value).toUpper = some value := by decide +kernel
    rcases same with rfl | rfl
    · exact (table value small).1
    · exact (table value small).2

theorem HexDigit.unique {other : Nat} (digit : HexDigit c value) (again : HexDigit c other) :
    value = other :=
  Option.some.inj ((hexDigit?_eq_some.mpr digit).symm.trans (hexDigit?_eq_some.mpr again))

theorem HexDigit.isHexSign (digit : HexDigit c value) : isHexSign c = true := by
  obtain ⟨small, same⟩ := digit
  have table : ∀ value < 16, Colour.isHexSign (Nat.digitChar value) = true ∧
      Colour.isHexSign (Nat.digitChar value).toUpper = true := by decide +kernel
  rcases same with rfl | rfl
  · exact (table value small).1
  · exact (table value small).2

-- A sign that is no digit of ASCII makes a channel unreadable. A plus sign would not, but it is
-- none of the signs.
theorem channel?_eq_some {high low : Char} {value : UInt8} (sign : isHexSign high = true) :
    channel? high low = some value ↔ Channel high low value := by
  have unsigned : high ≠ '+' := by
    rintro rfl
    exact absurd sign (by decide +kernel)
  have read : channel? high low = (hexDigit? high).bind fun first =>
      (hexDigit? low).bind fun second =>
        if 16 * first + second ≤ Text.maxUInt8 then some (UInt8.ofNat (16 * first + second))
        else none := by
    cases one : hexDigit? high <;> cases two : hexDigit? low <;>
      simp [channel?, hexByte?, unsigned, one, two]
  simp only [read, Option.bind_eq_some_iff, hexDigit?_eq_some, Channel]
  constructor
  · rintro ⟨first, one, second, two, made⟩
    refine ⟨first, second, one, two, ?_⟩
    split at made
    · rename_i within
      cases made
      have small : 16 * first + second < 2 ^ 8 := Nat.lt_succ_of_le within
      rw [UInt8.toNat_ofNat', Nat.mod_eq_of_lt small]
    · cases made
  · rintro ⟨first, second, one, two, written⟩
    refine ⟨first, one, second, two, ?_⟩
    have within : value.toNat ≤ Text.maxUInt8 := Nat.le_of_lt_succ value.toNat_lt
    rw [← written, if_pos within]
    exact congrArg some UInt8.ofNat_toNat

theorem Channel.signs {high low : Char} {value : UInt8} (channel : Channel high low value) :
    isHexSign high = true ∧ isHexSign low = true := by
  obtain ⟨first, second, one, two, _⟩ := channel
  exact ⟨one.isHexSign, two.isHexSign⟩

theorem hexSigns?_eq_some {count : Nat} : hexSigns? count text = some found ↔
    unmarked text = found ∧ found.length = count ∧ ∀ c ∈ found, isHexSign c = true := by
  unfold hexSigns?
  dsimp only
  constructor
  · intro made
    split at made
    · rename_i whole
      cases made
      exact ⟨rfl, whole.1, List.all_eq_true.mp whole.2⟩
    · cases made
  · rintro ⟨rfl, length, all⟩
    exact if_pos ⟨length, List.all_eq_true.mpr all⟩

theorem unmarked_signs (all : ∀ c ∈ text, isHexSign c = true) : unmarked text = text := by
  unfold unmarked
  split
  · exact absurd (all '#' List.mem_cons_self) (by decide +kernel)
  · rfl

theorem expanded_three {a b c : Char} (three : hexSigns? 3 text = some [a, b, c]) :
    hexSigns? 6 (expanded text) = some [a, a, b, b, c, c] := by
  obtain ⟨_, _, all⟩ := hexSigns?_eq_some.mp three
  have doubled : expanded text = [a, a, b, b, c, c] := by
    unfold expanded
    rw [three]
    rfl
  have signs : ∀ sign ∈ [a, a, b, b, c, c], isHexSign sign = true := by
    intro sign member
    exact all sign (by simpa using member)
  exact hexSigns?_eq_some.mpr ⟨by rw [doubled, unmarked_signs signs], rfl, signs⟩

theorem expanded_other (other : hexSigns? 3 text = none) : expanded text = text := by
  unfold expanded
  rw [other]

theorem ThreeDigits.hexSigns? (three : ThreeDigits (unmarked text) colour) :
    ∃ a b c, Colour.hexSigns? 3 text = some [a, b, c] := by
  obtain ⟨a, b, c, digits, red, green, blue⟩ := three
  refine ⟨a, b, c, hexSigns?_eq_some.mpr ⟨digits, rfl, ?_⟩⟩
  simp [red.signs, green.signs, blue.signs]

theorem SixDigits.hexSigns? (six : SixDigits (unmarked text) colour) :
    Colour.hexSigns? 6 text = some (unmarked text) := by
  obtain ⟨a, b, c, d, e, f, digits, red, green, blue⟩ := six
  refine hexSigns?_eq_some.mpr ⟨rfl, ?_⟩
  rw [digits]
  simp [red.signs, green.signs, blue.signs]

theorem hex?_signs {a b c d e f : Char}
    (found : hexSigns? 6 (expanded text) = some [a, b, c, d, e, f]) :
    hex? text = some colour ↔
      Channel a b colour.red ∧ Channel c d colour.green ∧ Channel e f colour.blue := by
  obtain ⟨_, _, all⟩ := hexSigns?_eq_some.mp found
  have first : channel? a b = some colour.red ↔ Channel a b colour.red :=
    channel?_eq_some (all a (by simp))
  have second : channel? c d = some colour.green ↔ Channel c d colour.green :=
    channel?_eq_some (all c (by simp))
  have third : channel? e f = some colour.blue ↔ Channel e f colour.blue :=
    channel?_eq_some (all e (by simp))
  unfold hex?
  rw [found]
  simp only [← first, ← second, ← third, Option.bind_eq_bind, Option.bind_eq_some_iff]
  constructor
  · rintro ⟨red, one, green, two, blue, three, ⟨⟩⟩
    exact ⟨one, two, three⟩
  · rintro ⟨one, two, three⟩
    exact ⟨_, one, _, two, _, three, rfl⟩

theorem hex?_eq_some : hex? text = some colour ↔
    SixDigits (unmarked text) colour ∨ ThreeDigits (unmarked text) colour := by
  cases three : hexSigns? 3 text with
  | some signs =>
    obtain ⟨digits, length, _⟩ := hexSigns?_eq_some.mp three
    obtain ⟨a, b, c, rfl⟩ := List.length_eq_three.mp length
    rw [hex?_signs (expanded_three three), digits]
    simp [SixDigits, ThreeDigits]
  | none =>
    have not_three : ¬ ThreeDigits (unmarked text) colour := by
      intro digits
      obtain ⟨a, b, c, found⟩ := digits.hexSigns?
      cases three.symm.trans found
    rw [or_iff_left not_three]
    constructor
    · intro read
      unfold hex? at read
      split at read
      · rename_i a b c d e f found
        have made : hex? text = some colour := by
          unfold hex?
          rw [found]
          exact read
        obtain ⟨red, green, blue⟩ := (hex?_signs found).mp made
        rw [expanded_other three] at found
        obtain ⟨digits, _⟩ := hexSigns?_eq_some.mp found
        exact ⟨a, b, c, d, e, f, digits, red, green, blue⟩
      · cases read
    · intro six
      have found := six.hexSigns?
      obtain ⟨a, b, c, d, e, f, digits, channels⟩ := six
      rw [digits, ← expanded_other three] at found
      exact (hex?_signs found).mpr channels

def Shorthand (digits : List Char) (colour : Rgb) : Prop :=
  ∃ a b c x y z, digits = [a, b, c] ∧ HexDigit a x ∧ HexDigit b y ∧ HexDigit c z ∧
    colour.red.toNat = 17 * x ∧ colour.green.toNat = 17 * y ∧ colour.blue.toNat = 17 * z

-- What might pass for part of a colour and is not: a digit of another script, a sign of a number,
-- a blank.
def Foreign (c : Char) : Prop :=
  (Text.isDecimalDigit c = true ∧ ¬ c.isDigit = true) ∨ c = '+' ∨ c = '-' ∨ Text.isBlank c = true

instance : Decidable (Foreign c) := inferInstanceAs (Decidable (_ ∨ _))

theorem HexDigit.not_foreign (digit : HexDigit c value) : ¬ Foreign c := by
  obtain ⟨small, same⟩ := digit
  have table : ∀ value < 16, ¬ Foreign (Nat.digitChar value) ∧
      ¬ Foreign (Nat.digitChar value).toUpper := by decide +kernel
  rcases same with rfl | rfl
  · exact (table value small).1
  · exact (table value small).2

theorem channel_doubled {channel : UInt8} :
    Channel c c channel ↔ ∃ value, HexDigit c value ∧ channel.toNat = 17 * value := by
  constructor
  · rintro ⟨first, second, one, two, written⟩
    obtain rfl := one.unique two
    exact ⟨first, one, by omega⟩
  · rintro ⟨value, digit, written⟩
    exact ⟨value, value, digit, digit, by omega⟩

theorem threeDigits_iff {digits : List Char} :
    ThreeDigits digits colour ↔ Shorthand digits colour := by
  simp only [ThreeDigits, Shorthand, channel_doubled]
  constructor
  · rintro ⟨a, b, c, three, ⟨x, first, red⟩, ⟨y, second, green⟩, ⟨z, third, blue⟩⟩
    exact ⟨a, b, c, x, y, z, three, first, second, third, red, green, blue⟩
  · rintro ⟨a, b, c, x, y, z, three, first, second, third, red, green, blue⟩
    exact ⟨a, b, c, three, ⟨x, first, red⟩, ⟨y, second, green⟩, ⟨z, third, blue⟩⟩

theorem exists_channel {high low : Char} {first second : Nat} (one : HexDigit high first)
    (two : HexDigit low second) : ∃ channel, Channel high low channel := by
  have within : 16 * first + second < 2 ^ 8 := by
    obtain ⟨high_small, _⟩ := one
    obtain ⟨low_small, _⟩ := two
    omega
  refine ⟨UInt8.ofNat (16 * first + second), first, second, one, two, ?_⟩
  rw [UInt8.toNat_ofNat', Nat.mod_eq_of_lt within]

theorem exists_colour {digits : List Char} (length : digits.length = 6 ∨ digits.length = 3)
    (all : ∀ c ∈ digits, ∃ value, HexDigit c value) :
    ∃ colour, SixDigits digits colour ∨ ThreeDigits digits colour := by
  have channel (high low : Char) (first : high ∈ digits) (second : low ∈ digits) :
      ∃ channel, Channel high low channel := by
    obtain ⟨_, one⟩ := all high first
    obtain ⟨_, two⟩ := all low second
    exact exists_channel one two
  rcases length with six | three
  · match digits, six with
    | [a, b, c, d, e, f], _ =>
      obtain ⟨red, first⟩ := channel a b (by simp) (by simp)
      obtain ⟨green, second⟩ := channel c d (by simp) (by simp)
      obtain ⟨blue, third⟩ := channel e f (by simp) (by simp)
      exact ⟨⟨red, green, blue⟩, .inl ⟨a, b, c, d, e, f, rfl, first, second, third⟩⟩
  · match digits, three with
    | [a, b, c], _ =>
      obtain ⟨red, first⟩ := channel a a (by simp) (by simp)
      obtain ⟨green, second⟩ := channel b b (by simp) (by simp)
      obtain ⟨blue, third⟩ := channel c c (by simp) (by simp)
      exact ⟨⟨red, green, blue⟩, .inr ⟨a, b, c, rfl, first, second, third⟩⟩

theorem digits_of_colour {digits : List Char}
    (written : SixDigits digits colour ∨ ThreeDigits digits colour) :
    (digits.length = 6 ∨ digits.length = 3) ∧ ∀ c ∈ digits, ∃ value, HexDigit c value := by
  have both {high low : Char} {channel : UInt8} (channel : Channel high low channel) :
      (∃ value, HexDigit high value) ∧ ∃ value, HexDigit low value := by
    obtain ⟨first, second, one, two, _⟩ := channel
    exact ⟨⟨first, one⟩, second, two⟩
  rcases written with ⟨a, b, c, d, e, f, rfl, red, green, blue⟩ | ⟨a, b, c, rfl, red, green, blue⟩
  · exact ⟨.inl rfl, by simp [both red, both green, both blue]⟩
  · exact ⟨.inr rfl, by simp [both red, both green, both blue]⟩

theorem unmarked_eq_iff {digits : List Char} (all : ∀ c ∈ digits, ∃ value, HexDigit c value) :
    unmarked text = digits ↔ text = digits ∨ text = '#' :: digits := by
  constructor
  · rintro rfl
    unfold unmarked
    split
    · exact .inr rfl
    · exact .inl rfl
  · rintro (rfl | rfl)
    · refine unmarked_signs fun c member => ?_
      obtain ⟨_, digit⟩ := all c member
      exact digit.isHexSign
    · rfl

def Marks (text digits : List Char) : Prop := text = digits ∨ text = '#' :: digits

theorem hex?_marks : hex? text = some colour ↔
    ∃ digits, Marks text digits ∧ (SixDigits digits colour ∨ ThreeDigits digits colour) := by
  rw [hex?_eq_some]
  constructor
  · intro written
    exact ⟨_, (unmarked_eq_iff (digits_of_colour written).2).mp rfl, written⟩
  · rintro ⟨digits, marks, written⟩
    rwa [(unmarked_eq_iff (digits_of_colour written).2).mpr marks]

theorem hex?_eq_none : hex? text = none ↔ ¬ ∃ digits, Marks text digits ∧
    (digits.length = 6 ∨ digits.length = 3) ∧ ∀ c ∈ digits, ∃ value, HexDigit c value := by
  rw [Option.eq_none_iff_forall_ne_some, ← not_exists_not]
  simp only [ne_eq, not_not]
  refine not_congr ⟨?_, ?_⟩
  · rintro ⟨colour, read⟩
    obtain ⟨digits, marks, written⟩ := hex?_marks.mp read
    exact ⟨digits, marks, digits_of_colour written⟩
  · rintro ⟨digits, marks, length, all⟩
    obtain ⟨colour, written⟩ := exists_colour length all
    exact ⟨colour, hex?_marks.mpr ⟨digits, marks, written⟩⟩

theorem hex?_foreign (member : c ∈ text) (foreign : Foreign c) : hex? text = none := by
  refine hex?_eq_none.mpr ?_
  rintro ⟨digits, marks, _, all⟩
  have hash : ¬ Foreign '#' := by decide +kernel
  have inside : c ∈ digits := by
    rcases marks with rfl | rfl
    · exact member
    · exact (List.mem_cons.mp member).resolve_left fun here => hash (here ▸ foreign)
  obtain ⟨_, digit⟩ := all c inside
  exact digit.not_foreign foreign

-- A text is read exactly if it is six digits of ASCII, two for each channel, or three of which each
-- counts seventeenfold, after at most one hash sign. So nothing is read that has a character of
-- another kind anywhere.
theorem hex?_exact (text : String) :
    (∀ colour, hex? text.toList = some colour ↔ ∃ digits, Marks text.toList digits ∧
      (SixDigits digits colour ∨ Shorthand digits colour)) ∧
    (hex? text.toList = none ↔ ¬ ∃ digits, Marks text.toList digits ∧
      (digits.length = 6 ∨ digits.length = 3) ∧ ∀ c ∈ digits, ∃ value, HexDigit c value) ∧
    ∀ c ∈ text.toList, Foreign c → hex? text.toList = none := by
  refine ⟨fun colour => ?_, hex?_eq_none, fun c => hex?_foreign⟩
  simp only [← threeDigits_iff]
  exact hex?_marks

theorem hex?_exact_scripts :
    hex? "#03F".toList = some ⟨0, 51, 255⟩ ∧ hex? "#0\u0663F".toList = none := by
  constructor
  · refine ((hex?_exact "#03F").1 ⟨0, 51, 255⟩).mpr ⟨['0', '3', 'F'], .inr (by decide), .inr ?_⟩
    exact ⟨'0', '3', 'F', 0, 3, 15, by decide⟩
  · exact (hex?_exact "#0\u0663F").2.2 '\u0663' (by decide) (by decide +kernel)

end SceneInspector.Colour
