/-
# SciCalc.Proofs.Syntax.NumeralValue -- numerals are read

The search for numbers and the reading of what it finds go by different functions, and by
digits that need not be the same.  Where all that is taken for a digit can be read as one,
every numeral is read, with the value that its digits spell (`double?_of_numeral`).

Reading has more to look for than a numeral can show: white space, low lines, a sign, words,
an exponent.  A numeral has none of these, since its characters are digits and a point, and
digits are far from letters and marks (`Text.toNat_of_isDigit`).
-/
import SciCalc.Proofs.Syntax.LongestLexeme
import SciCalc.Syntax.Written

namespace SciCalc.Syntax

set_option autoImplicit false

/-! ## The characters of a numeral -/

theorem isBlank_eq_false_of_isDigit {c : Char} (digit : Text.isDigit c = true) :
    Text.isBlank c = false := by
  have apart : ∀ start ∈ Text.digitZeros, ∀ range ∈ Text.blankRanges,
      start + 9 < range.1 ∨ range.2 < start := by
    decide
  obtain ⟨start, member, low, high⟩ := Text.exists_zero_of_isDigit digit
  refine Text.inRanges_eq_false fun range inside => ?_
  have := apart start member range inside
  omega

section Reading

variable [Digits] {text whole fraction : List Char}

theorem Numeral.not_blank (agree : Digits.Agree) (numeral : Numeral text) :
    ∀ c ∈ text, Text.isBlank c = false := by
  intro c inside
  rcases numeral.characters c inside with digit | rfl
  · exact isBlank_eq_false_of_isDigit (agree c digit)
  · decide +kernel

/-- Where a numeral has its characters. -/
theorem Numeral.toNat_bounds (agree : Digits.Agree) (numeral : Numeral text) :
    ∀ c ∈ text, 46 ≤ c.toNat ∧ c.toNat ≤ 57 ∨ 0x660 ≤ c.toNat := by
  intro c inside
  rcases numeral.characters c inside with digit | rfl
  · have := Text.toNat_of_isDigit (agree c digit)
    omega
  · decide

/-- An ASCII character in front of the point or behind the digits is in no numeral. -/
theorem Numeral.not_mem (agree : Digits.Agree) (numeral : Numeral text) {c : Char}
    (outside : c.toNat < 46 ∨ 57 < c.toNat ∧ c.toNat < 0x660) : c ∉ text := fun inside => by
  have := numeral.toNat_bounds agree c inside
  omega

theorem Numeral.map_toLower (agree : Digits.Agree) (numeral : Numeral text) :
    text.map Char.toLower = text := by
  refine (List.map_congr_left fun c inside => ?_).trans (List.map_id text)
  have bounds := numeral.toNat_bounds agree c inside
  refine dif_neg ?_
  rintro ⟨low, high⟩
  have low : 65 ≤ c.toNat := UInt32.le_iff_toNat_le.1 low
  have high : c.toNat ≤ 90 := UInt32.le_iff_toNat_le.1 high
  omega

/-- A numeral is no word that has a certain letter in it. -/
theorem Numeral.ne_word (agree : Digits.Agree) (numeral : Numeral text) {word : String}
    (letter : 'n' ∈ word.toList) : String.ofList text ≠ word := by
  rintro rfl
  rw [String.toList_ofList] at letter
  exact numeral.not_mem agree (by decide) letter

/-! ## The value of a numeral -/

/-- Digits are taken as a whole, up to a point or to the end, be it that digits are looked for
or that the point is. -/
theorem digits_taken (agree : Digits.Agree) {digits : List Char}
    (all : ∀ c ∈ digits, Digits.isDigit c = true) (behind : List Char)
    (ended : behind.head?.all (· = '.') = true) :
    ((digits ++ behind).takeWhile Text.isDigit = digits ∧
        (digits ++ behind).dropWhile Text.isDigit = behind) ∧
      (digits ++ behind).takeWhile (· ≠ '.') = digits ∧
        (digits ++ behind).dropWhile (· ≠ '.') = behind := by
  have point : Text.isDigit '.' = false := by decide +kernel
  have ends : ∀ c ∈ behind.head?, c = '.' := fun c first => by
    rw [Option.mem_def.1 first] at ended
    exact of_decide_eq_true ended
  refine ⟨Text.takeWhile_dropWhile_append (fun c inside => agree c (all c inside))
      fun c first => ends c first ▸ point,
    Text.takeWhile_dropWhile_append (fun c inside => decide_eq_true fun same => ?_)
      fun c first => by simp [ends c first]⟩
  have digit := agree c (all c inside)
  rw [same, point] at digit
  cases digit

theorem magnitude?_of_numeral (agree : Digits.Agree) (numeral : Numeral text) :
    (Text.Numeral.magnitude? text).map (·.toFloat false) = some (Numeral.value text) := by
  cases numeral with
  | whole nonempty all =>
      obtain ⟨⟨whole, rest⟩, before, behind⟩ := digits_taken agree all [] rfl
      rw [List.append_nil] at whole rest before behind
      rw [Numeral.value, before, behind, Text.Numeral.magnitude?, whole, rest]
      simp [nonempty, Text.Numeral.exponent?]
  | @pointed whole fraction nonempty wholeDigits fractionDigits =>
      obtain ⟨⟨front, rest⟩, before, behind⟩ :=
        digits_taken agree wholeDigits ('.' :: fraction) rfl
      obtain ⟨⟨digits, after⟩, -⟩ := digits_taken agree fractionDigits [] rfl
      rw [List.append_nil] at digits after
      have some : (whole.isEmpty && fraction.isEmpty) = false := by
        rw [Bool.and_eq_false_iff, List.isEmpty_eq_false_iff, List.isEmpty_eq_false_iff]
        exact nonempty
      rw [Numeral.value, before, behind, Text.Numeral.magnitude?, front, rest]
      simp [some, digits, after, Text.Numeral.exponent?]

/-- **A numeral is read with the value that its digits spell.** -/
theorem double?_of_numeral (agree : Digits.Agree) (numeral : Numeral text) :
    Text.Numeral.double? text = some (Numeral.value text) := by
  have trimmed : Text.trim Text.isBlank text = text := Text.trim_eq_self (numeral.not_blank agree)
  have solid : Text.Numeral.dropLowLines? false text = some text :=
    Text.Numeral.dropLowLines?_eq_self (numeral.not_mem agree (by decide)) false
  have unsigned : Text.Numeral.splitSign text = (false, text) :=
    Text.Numeral.splitSign_of_unsigned (numeral.not_mem agree (by decide))
      (numeral.not_mem agree (by decide))
  have name : String.ofList (text.map Char.toLower) = String.ofList text := by
    rw [numeral.map_toLower agree]
  have noInfinity : (String.ofList text = "inf" || String.ofList text = "infinity") = false := by
    rw [Bool.or_eq_false_iff, decide_eq_false_iff_not, decide_eq_false_iff_not]
    exact ⟨numeral.ne_word agree (by decide), numeral.ne_word agree (by decide)⟩
  have noNan : String.ofList text ≠ "nan" := numeral.ne_word agree (by decide)
  unfold Text.Numeral.double?
  simp only [trimmed, solid, Option.bind_eq_bind, Option.bind_some, unsigned, name, noInfinity]
  rw [if_neg Bool.false_ne_true, if_neg noNan, magnitude?_of_numeral agree numeral]

theorem tokens_numeral (agree : Digits.Agree) (numeral : Numeral text) (previous : Option Token) :
    Lexeme.tokens ⟨.number, text⟩ previous = [.number (Numeral.value text)] := by
  simp only [Lexeme.tokens, double?_of_numeral agree numeral, Option.toList_some, List.map_cons,
    List.map_nil]

end Reading

end SciCalc.Syntax
