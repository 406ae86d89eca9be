/-
# SciCalc.Proofs.Syntax.LongestLexeme -- the lexeme found is the one that leads

The scanner tries the kinds in a fixed order and looks for the longest text of the first
kind that fits.  That this is the longest text of any kind (`lexeme?_eq_some_iff`) needs
two facts.

Within a kind, each of the three ways to look for a text finds the longest (`Finds`).  For
names that is to try them longest first and take the first that fits (`find?_longestFirst`).

Between kinds, texts hardly ever meet: what a text begins with tells whether it is a mark,
a numeral or a word (`Opening`), marks are single characters, and of two kinds of words
that begin one text the other is a letter (`rivals`), which is tried last.
-/
import SciCalc.Syntax.Spelling

namespace SciCalc.Syntax

set_option autoImplicit false

/-! ## The longest text of one class -/

/-- What a search for the longest text of a class finds at the beginning of a text. -/
def Finds (inClass : List Char → Prop) (text : List Char) : Option (List Char) → Prop
  | some found => inClass found ∧ found <+: text ∧
      ∀ other, inClass other → other <+: text → other.length ≤ found.length
  | none => ∀ other, inClass other → ¬ other <+: text

theorem finds_longestName (names : List (List Char)) (text : List Char) :
    Finds (· ∈ names) text (longestName? names text) := by
  induction names with
  | nil => exact fun other member => absurd member List.not_mem_nil
  | cons name names ih =>
      rw [longestName?]
      cases found : longestName? names text with
      | none =>
          rw [found] at ih
          by_cases begins : name <+: text
          · have holds := List.isPrefixOf_iff_prefix.2 begins
            simp only [holds, if_true]
            refine ⟨List.mem_cons_self, begins, fun other member also => ?_⟩
            rcases List.mem_cons.1 member with rfl | later
            · exact Nat.le_refl _
            · exact absurd also (ih other later)
          · have fails : ¬ name.isPrefixOf text = true := mt List.isPrefixOf_iff_prefix.1 begins
            simp only [fails]
            intro other member also
            rcases List.mem_cons.1 member with rfl | later
            · exact begins also
            · exact ih other later also
      | some best =>
          rw [found] at ih
          obtain ⟨member, bestBegins, longest⟩ := ih
          by_cases wins : (name.isPrefixOf text && best.length ≤ name.length) = true
          · simp only [wins, if_true]
            rw [Bool.and_eq_true, List.isPrefixOf_iff_prefix, decide_eq_true_iff] at wins
            refine ⟨List.mem_cons_self, wins.1, fun other inside also => ?_⟩
            rcases List.mem_cons.1 inside with rfl | later
            · exact Nat.le_refl _
            · exact Nat.le_trans (longest other later also) wins.2
          · simp only [wins]
            rw [Bool.and_eq_true, List.isPrefixOf_iff_prefix, decide_eq_true_iff] at wins
            refine ⟨List.mem_cons_of_mem name member, bestBegins, fun other inside also => ?_⟩
            rcases List.mem_cons.1 inside with rfl | later
            · exact Nat.le_of_lt (Nat.lt_of_not_le fun le => wins ⟨also, le⟩)
            · exact longest other later also

/-- Names with the longer ones first, those of one length in the order they had. -/
def longestFirst (names : List (List Char)) : List (List Char) :=
  names.mergeSort fun u v => decide (v.length ≤ u.length)

theorem longestFirst_pairwise (names : List (List Char)) :
    (longestFirst names).Pairwise fun u v => v.length ≤ u.length := by
  refine (List.pairwise_mergeSort (fun u v w uv vw => ?_) (fun u v => ?_) names).imp fun longer =>
    of_decide_eq_true longer
  · exact decide_eq_true (Nat.le_trans (of_decide_eq_true vw) (of_decide_eq_true uv))
  · simpa using Nat.le_total v.length u.length

/-- **The first match among names that are tried longest first is the longest match.** -/
theorem find?_longestFirst (names : List (List Char)) (text : List Char) :
    (longestFirst names).find? (·.isPrefixOf text) = longestName? names text := by
  have finds := finds_longestName names text
  cases first : (longestFirst names).find? (·.isPrefixOf text) with
  | none =>
      rw [List.find?_eq_none] at first
      cases found : longestName? names text with
      | none => rfl
      | some best =>
          rw [found] at finds
          exact absurd (List.isPrefixOf_iff_prefix.2 finds.2.1)
            (first best (List.mem_mergeSort.2 finds.1))
  | some name =>
      obtain ⟨holds, earlier, later, order, passed⟩ := List.find?_eq_some_iff_append.1 first
      have begins := List.isPrefixOf_iff_prefix.1 holds
      have member : name ∈ names :=
        List.mem_mergeSort.1 (order ▸ List.mem_append_right earlier List.mem_cons_self)
      cases found : longestName? names text with
      | none =>
          rw [found] at finds
          exact absurd begins (finds name member)
      | some best =>
          rw [found] at finds
          obtain ⟨among, bestBegins, longest⟩ := finds
          -- The longest match was not passed over, so it is not longer than the first.
          have noLonger : best.length ≤ name.length := by
            have sorted := longestFirst_pairwise names
            have inside : best ∈ longestFirst names := List.mem_mergeSort.2 among
            rw [order] at sorted inside
            rcases List.mem_append.1 inside with before | after
            · have refused := passed best before
              rw [List.isPrefixOf_iff_prefix.2 bestBegins] at refused
              cases refused
            · rcases List.mem_cons.1 after with rfl | behind
              · exact Nat.le_refl _
              · exact List.rel_of_pairwise_cons (List.pairwise_append.1 sorted).2.1 behind
          have noShorter := longest name member begins
          have within := List.prefix_of_prefix_length_le begins bestBegins noShorter
          exact congrArg some (within.eq_of_length_le noLonger)

theorem prefix_takeWhile {p : Char → Bool} {text other : List Char} (begins : other <+: text)
    (all : ∀ c ∈ other, p c = true) : other <+: text.takeWhile p := by
  obtain ⟨rest, rfl⟩ := begins
  rw [List.takeWhile_append_of_pos all]
  exact List.prefix_append _ _

section Numerals

variable [Digits] {whole fraction rest text other : List Char}

theorem digits_takeWhile (text : List Char) :
    ∀ c ∈ text.takeWhile Digits.isDigit, Digits.isDigit c = true :=
  List.all_eq_true.1 List.all_takeWhile

theorem isDigit_point (agree : Digits.Agree) : Digits.isDigit '.' = false := by
  rw [Bool.eq_false_iff]
  intro digit
  exact absurd (agree '.' digit) (by decide +kernel)

/-- A numeral at the beginning of a text is a part of the leading digits, or all of them,
the point behind them and digits behind that. -/
theorem numeral_begins (agree : Digits.Agree) (numeral : Numeral other) (begins : other <+: text) :
    other ≠ [] ∧ other <+: text.takeWhile Digits.isDigit ∨
      ∃ fraction after, text.dropWhile Digits.isDigit = '.' :: after ∧
        other = text.takeWhile Digits.isDigit ++ '.' :: fraction ∧
        fraction <+: after.takeWhile Digits.isDigit ∧
        (text.takeWhile Digits.isDigit ≠ [] ∨ fraction ≠ []) := by
  cases numeral with
  | whole some digits => exact .inl ⟨some, prefix_takeWhile begins digits⟩
  | @pointed whole fraction some wholeDigits fractionDigits =>
      obtain ⟨after, rfl⟩ := begins
      rw [List.append_assoc, List.cons_append]
      obtain ⟨leading, behind⟩ := Text.takeWhile_dropWhile_append wholeDigits
        fun c (first : c ∈ ('.' :: (fraction ++ after)).head?) => Option.some.inj first ▸
          isDigit_point agree
      rw [leading, behind]
      exact .inr ⟨fraction, fraction ++ after, rfl, rfl,
        prefix_takeWhile (List.prefix_append _ _) fractionDigits, some⟩

theorem finds_numberText (agree : Digits.Agree) (text : List Char) :
    Finds Numeral text (numberText? text) := by
  have whole : text.takeWhile Digits.isDigit ++ text.dropWhile Digits.isDigit = text :=
    List.takeWhile_append_dropWhile
  rw [numberText?]
  split
  · -- A point stands behind the leading digits.
    rename_i after point
    rw [point] at whole
    dsimp only
    split
    · rename_i empty
      rw [Bool.and_eq_true, List.isEmpty_iff, List.isEmpty_iff] at empty
      intro other numeral begins
      rcases numeral_begins agree numeral begins with
        ⟨some, short⟩ | ⟨fraction, rest, behind, -, inside, some⟩
      · rw [empty.1, List.prefix_nil] at short
        exact some short
      · rw [point] at behind
        cases behind
        rw [empty.2, List.prefix_nil] at inside
        exact some.elim (· empty.1) (· inside)
    · rename_i nonempty
      rw [Bool.and_eq_true, List.isEmpty_iff, List.isEmpty_iff,
        Decidable.not_and_iff_or_not] at nonempty
      refine ⟨.pointed nonempty (digits_takeWhile text) (digits_takeWhile after), ?_,
        fun other numeral begins => ?_⟩
      · conv => rhs; rw [← whole]
        rw [List.prefix_append_right_inj, List.cons_prefix_cons]
        exact ⟨rfl, List.takeWhile_prefix _⟩
      · rw [List.length_append, List.length_cons]
        rcases numeral_begins agree numeral begins with
          ⟨-, short⟩ | ⟨fraction, rest, behind, same, inside, -⟩
        · have := short.length_le
          omega
        · rw [point] at behind
          cases behind
          have := inside.length_le
          rw [same, List.length_append, List.length_cons]
          omega
  · -- No point stands there.
    rename_i noPoint
    have digitsOnly : ∀ other, Numeral other → other <+: text →
        other ≠ [] ∧ other <+: text.takeWhile Digits.isDigit := by
      intro other numeral begins
      rcases numeral_begins agree numeral begins with short | ⟨fraction, rest, behind, -⟩
      · exact short
      · exact absurd behind (noPoint rest)
    split
    · rename_i empty
      rw [List.isEmpty_iff] at empty
      intro other numeral begins
      obtain ⟨some, short⟩ := digitsOnly other numeral begins
      rw [empty, List.prefix_nil] at short
      exact some short
    · rename_i nonempty
      rw [List.isEmpty_iff] at nonempty
      exact ⟨.whole nonempty (digits_takeWhile text), List.takeWhile_prefix _,
        fun other numeral begins => (digitsOnly other numeral begins).2.length_le⟩

end Numerals

section Kinds

variable [Digits]

namespace LexemeKind

/-- The texts of a kind that has only names are its names. -/
theorem spells_iff_listed {kind : LexemeKind} {text : List Char} (named : kind ≠ number)
    (noLetter : kind ≠ var) : kind.Spells text ↔ text ∈ kind.listed := by
  constructor
  · intro spelled
    cases spelled with
    | listed member => exact member
    | numeral => exact absurd rfl named
    | letter => exact absurd rfl noLetter
  · exact .listed

theorem spells_number {text : List Char} : number.Spells text ↔ Numeral text := by
  constructor
  · intro spelled
    cases spelled with
    | listed member => cases member
    | numeral numeral => exact numeral
  · exact .numeral

theorem spells_var {text : List Char} :
    var.Spells text ↔ text = answerName.toList ∨ ∃ c, c.isAlpha = true ∧ text = [c] := by
  constructor
  · intro spelled
    cases spelled with
    | listed member => exact .inl (List.mem_singleton.1 member)
    | letter letter => exact .inr ⟨_, letter, rfl⟩
  · rintro (rfl | ⟨c, letter, rfl⟩)
    · exact .listed List.mem_cons_self
    · exact .letter letter

end LexemeKind

theorem finds_variableText (text : List Char) :
    Finds (LexemeKind.Spells .var) text (variableText? text) := by
  rw [variableText?.eq_def]
  split
  · rename_i answer
    rw [List.isPrefixOf_iff_prefix] at answer
    refine ⟨LexemeKind.spells_var.2 (.inl rfl), answer, fun other spelled _ => ?_⟩
    rcases LexemeKind.spells_var.1 spelled with rfl | ⟨c, -, rfl⟩
    · exact Nat.le_refl _
    · show 1 ≤ answerName.toList.length
      decide
  · rename_i noAnswer
    rw [List.isPrefixOf_iff_prefix] at noAnswer
    have letterOnly : ∀ other, LexemeKind.Spells .var other → other <+: text →
        ∃ c rest, c.isAlpha = true ∧ other = [c] ∧ text = c :: rest := by
      intro other spelled begins
      rcases LexemeKind.spells_var.1 spelled with rfl | ⟨c, letter, rfl⟩
      · exact absurd begins noAnswer
      · obtain ⟨rest, rfl⟩ := begins
        exact ⟨c, rest, letter, rfl, rfl⟩
    split
    · rename_i c rest
      split
      · rename_i letter
        refine ⟨.letter letter, List.prefix_append [c] rest, fun other spelled begins => ?_⟩
        obtain ⟨d, behind, -, rfl, -⟩ := letterOnly other spelled begins
        exact Nat.le_refl _
      · rename_i noLetter
        intro other spelled begins
        obtain ⟨d, behind, letter, -, same⟩ := letterOnly other spelled begins
        cases same
        exact noLetter letter
    · intro other spelled begins
      obtain ⟨d, behind, -, -, same⟩ := letterOnly other spelled begins
      cases same

/-- Each kind finds its longest text. -/
theorem finds_text (agree : Digits.Agree) (kind : LexemeKind) (text : List Char) :
    Finds kind.Spells text (kind.text? text) := by
  have named (apart : kind ≠ .number) (also : kind ≠ .var) : kind.Spells = (· ∈ kind.listed) :=
    funext fun _ => propext (LexemeKind.spells_iff_listed apart also)
  cases kind with
  | number =>
      have same : LexemeKind.Spells .number = Numeral :=
        funext fun _ => propext LexemeKind.spells_number
      rw [same]
      exact finds_numberText agree text
  | var => exact finds_variableText text
  | _ =>
      rw [named (by decide) (by decide)]
      exact finds_longestName _ text

theorem spells_of_text? (agree : Digits.Agree) {kind : LexemeKind} {text found : List Char}
    (seen : kind.text? text = some found) : kind.Spells found := by
  have finds := finds_text agree kind text
  rw [seen] at finds
  exact finds.1

end Kinds

/-! ## Texts of different kinds -/

/-- The kind of the lexemes that are one mark. -/
def markKind? (c : Char) : Option LexemeKind :=
  if c = '(' then some .lparen
  else if c = ')' then some .rparen
  else if c = ',' then some .comma
  else if [c] ∈ LexemeKind.listed .operator then some .operator
  else none

/-- What the first character of a lexeme tells about it. -/
inductive Opening
  | mark
  | numeral
  | word
deriving DecidableEq

namespace Opening

/-- What a character opens. -/
def ofChar (c : Char) : Opening :=
  if (markKind? c).isSome then mark else if Digits.isDigit c || c == '.' then numeral else word

/-- How the texts of a kind begin. -/
def ofKind : LexemeKind → Opening
  | .function | .constant | .var => word
  | .number => numeral
  | .operator | .lparen | .rparen | .comma => mark

end Opening

/-- A text begins as its kind does, has no marks behind its first character, and is one
character if its kind is that of a mark. -/
def shaped (kind : LexemeKind) : List Char → Bool
  | [] => false
  | c :: cs =>
      decide (Opening.ofChar c = Opening.ofKind kind) && cs.all (fun d => (markKind? d).isNone) &&
        (markKind? c).all fun own => decide (own = kind) && cs.isEmpty

theorem shaped_listed (kind : LexemeKind) : kind.listed.all (shaped kind) = true := by
  cases kind <;> decide +kernel

/-- The operators, and with them all marks, are neither digits nor letters nor points. -/
theorem markKind?_eq_none {c : Char}
    (plain : Digits.isDigit c = true ∨ c.isAlpha = true ∨ c = '.') : markKind? c = none := by
  have marks : (('(' : Char) :: ')' :: ',' :: (LexemeKind.listed .operator).flatten).all (fun m =>
      !Digits.isDigit m && !m.isAlpha && m != '.') = true := by
    decide +kernel
  have single : (LexemeKind.listed .operator).all (fun name => name.length == 1) = true := by
    decide
  have apart : ∀ m ∈ '(' :: ')' :: ',' :: (LexemeKind.listed .operator).flatten, c ≠ m := by
    rintro m member rfl
    have clear := List.all_eq_true.1 marks c member
    rcases plain with digit | letter | rfl
    · simp [digit] at clear
    · simp [letter] at clear
    · simp at clear
  have noOperator : [c] ∉ LexemeKind.listed .operator := fun member =>
    apart c (List.mem_cons_of_mem _ (List.mem_cons_of_mem _ (List.mem_cons_of_mem _
      (List.mem_flatten.2 ⟨[c], member, List.mem_cons_self⟩)))) rfl
  rw [markKind?, if_neg (apart _ (by simp)), if_neg (apart _ (by simp)), if_neg (apart _ (by simp)),
    if_neg noOperator]

/-- The code points of letters lie between those of `A` and `z`. -/
theorem toNat_of_isAlpha {c : Char} (letter : c.isAlpha = true) :
    65 ≤ c.toNat ∧ c.toNat ≤ 122 := by
  have same : c.toNat = c.val.toNat := rfl
  rw [same]
  rcases Bool.or_eq_true_iff.1 letter with upper | lower
  · have bounds : 'A'.val ≤ c.val ∧ c.val ≤ 'Z'.val := of_decide_eq_true upper
    rw [UInt32.le_iff_toNat_le, UInt32.le_iff_toNat_le] at bounds
    exact ⟨bounds.1, Nat.le_trans bounds.2 (by decide)⟩
  · obtain ⟨low, high⟩ := Bool.and_eq_true_iff.1 lower
    have above : 'a'.val ≤ c.val := of_decide_eq_true low
    have below : c.val ≤ 'z'.val := of_decide_eq_true high
    rw [UInt32.le_iff_toNat_le] at above below
    exact ⟨Nat.le_trans (by decide) above, below⟩

theorem isDigit_eq_false_of_isAlpha {c : Char} (letter : c.isAlpha = true) :
    Digits.isDigit c = false := by
  rw [Bool.eq_false_iff]
  intro digit
  have bounds := toNat_of_isAlpha letter
  have := Text.toNat_of_isDigit digit
  omega

theorem Numeral.ne_nil [Digits] {text : List Char} (numeral : Numeral text) : text ≠ [] := by
  cases numeral with
  | whole some _ => exact some
  | pointed => simp

/-- The characters of a numeral are digits and points. -/
theorem Numeral.characters [Digits] {text : List Char} (numeral : Numeral text) :
    ∀ c ∈ text, Digits.isDigit c = true ∨ c = '.' := by
  cases numeral with
  | whole _ digits => exact fun c member => .inl (digits c member)
  | pointed _ wholeDigits fractionDigits =>
      intro c member
      rcases List.mem_append.1 member with front | behind
      · exact .inl (wholeDigits c front)
      · rcases List.mem_cons.1 behind with point | last
        · exact .inr point
        · exact .inl (fractionDigits c last)

/-- Every text is shaped as its kind is. -/
theorem shaped_of_spells {kind : LexemeKind} {text : List Char} (spelled : kind.Spells text) :
    shaped kind text = true := by
  cases spelled with
  | listed member => exact List.all_eq_true.1 (shaped_listed kind) text member
  | numeral numeral =>
      have characters := numeral.characters
      cases text with
      | nil => exact absurd rfl numeral.ne_nil
      | cons c cs =>
          have noMark : ∀ d ∈ c :: cs, markKind? d = none := fun d member =>
            markKind?_eq_none ((characters d member).imp_right .inr)
          have digit := characters c List.mem_cons_self
          have tail : cs.all (fun d => (markKind? d).isNone) = true :=
            List.all_eq_true.2 fun d member => by
              rw [noMark d (List.mem_cons_of_mem c member)]
              rfl
          rw [shaped, tail, Opening.ofChar, noMark c List.mem_cons_self]
          simpa [Opening.ofKind] using digit
  | @letter c letter =>
      have noMark : markKind? c = none := markKind?_eq_none (.inr (.inl letter))
      have noPoint : c ≠ '.' := fun same => by
        rw [same] at letter
        exact absurd letter (by decide)
      rw [shaped, Opening.ofChar, noMark]
      simp [isDigit_eq_false_of_isAlpha letter, noPoint, Opening.ofKind]

/-- Two words from tables do not begin one another, unless they are of one kind. -/
theorem listed_apart {kind other : LexemeKind} (word : Opening.ofKind kind = .word)
    (otherWord : Opening.ofKind other = .word) (apart : kind ≠ other) :
    ∀ u ∈ kind.listed, ∀ v ∈ other.listed, ¬ u <+: v := by
  cases kind <;> cases word <;> cases other <;> cases otherWord <;>
    first | exact absurd rfl apart | decide +kernel

/-- A letter has another text as its rival, of a kind that is tried before; only a constant
can be the same text. -/
structure Outdone (letter : List Char) (kind : LexemeKind) (text : List Char) : Prop where
  single : letter.length = 1
  named : kind ≠ .var
  tie : text = letter → kind = .constant

theorem outdone_of_listed {kind : LexemeKind} {text : List Char} {c : Char}
    (word : Opening.ofKind kind = .word) (named : kind ≠ .var) (member : text ∈ kind.listed)
    (letter : c.isAlpha = true) : Outdone [c] kind text := by
  have signs : (LexemeKind.listed .function).all (fun name =>
      name.length != 1 || name.all (!·.isAlpha)) = true := by
    decide
  refine ⟨rfl, named, ?_⟩
  rintro rfl
  cases kind <;> cases word
  case function =>
    have sign := List.all_eq_true.1 signs [c] member
    simp [letter] at sign
  case constant => rfl
  case var => exact absurd rfl named

theorem Opening.ofKind_eq_of_begins {kind other : LexemeKind} {u v text : List Char}
    (spelled : kind.Spells u) (otherSpelled : other.Spells v) (begins : u <+: text)
    (otherBegins : v <+: text) :
    Opening.ofKind kind = Opening.ofKind other ∧ (Opening.ofKind kind = .mark → kind = other) := by
  have shape := shaped_of_spells spelled
  have otherShape := shaped_of_spells otherSpelled
  cases u with
  | nil => cases shape
  | cons c cs =>
      cases v with
      | nil => cases otherShape
      | cons d ds =>
          obtain ⟨rest, rfl⟩ := begins
          obtain rfl : d = c := (List.cons_prefix_cons.1 otherBegins).1
          simp only [shaped, Bool.and_eq_true, decide_eq_true_eq] at shape otherShape
          refine ⟨shape.1.1.symm.trans otherShape.1.1, fun mark => ?_⟩
          have opens : Opening.ofChar d = .mark := shape.1.1.trans mark
          cases own : markKind? d with
          | none =>
              rw [Opening.ofChar, own] at opens
              split at opens
              · cases ‹(none : Option LexemeKind).isSome = true›
              · split at opens <;> cases opens
          | some known =>
              rw [own] at shape otherShape
              simp only [Option.all_some, Bool.and_eq_true, decide_eq_true_eq] at shape otherShape
              exact shape.2.1.symm.trans otherShape.2.1

/-- Of two texts of different kinds that begin one text, one is a letter. -/
theorem rivals {kind other : LexemeKind} {u v text : List Char} (spelled : kind.Spells u)
    (otherSpelled : other.Spells v) (begins : u <+: text) (otherBegins : v <+: text)
    (apart : kind ≠ other) :
    other = .var ∧ Outdone v kind u ∨ kind = .var ∧ Outdone u other v := by
  obtain ⟨sameOpening, marksAgree⟩ :=
    Opening.ofKind_eq_of_begins spelled otherSpelled begins otherBegins
  cases opening : Opening.ofKind kind with
  | mark => exact absurd (marksAgree opening) apart
  | numeral =>
      rw [opening] at sameOpening
      cases kind <;> cases opening
      cases other <;> cases sameOpening
      exact absurd rfl apart
  | word =>
      have otherOpening := sameOpening.symm.trans opening
      cases spelled with
      | numeral => cases opening
      | letter letter =>
          cases otherSpelled with
          | numeral => cases otherOpening
          | letter => exact absurd rfl apart
          | listed member =>
              exact .inr ⟨rfl, outdone_of_listed otherOpening (Ne.symm apart) member letter⟩
      | listed member =>
          cases otherSpelled with
          | numeral => cases otherOpening
          | letter letter => exact .inl ⟨rfl, outdone_of_listed opening apart member letter⟩
          | listed otherMember =>
              rcases List.prefix_or_prefix_of_prefix begins otherBegins with front | front
              · exact absurd front (listed_apart opening otherOpening apart u member v otherMember)
              · exact absurd front
                  (listed_apart otherOpening opening (Ne.symm apart) v otherMember u member)

/-! ## The lexeme at the beginning of a text -/

theorem LexemeKind.mem_all (kind : LexemeKind) : kind ∈ LexemeKind.all := by
  cases kind <;> decide

/-- The kinds that are tried before letters. -/
theorem LexemeKind.mem_dropLast_all {kind : LexemeKind} :
    kind ∈ LexemeKind.all.dropLast ↔ kind ≠ .var := by
  cases kind <;> decide

theorem text?_of_lexeme? [Digits] {text : List Char} {l : Lexeme} (found : lexeme? text = some l) :
    l.kind.text? text = some l.text := by
  obtain ⟨kind, -, here⟩ := List.exists_of_findSome?_eq_some found
  obtain ⟨t, seen, rfl⟩ := Option.map_eq_some_iff.1 here
  exact seen

/-- Letters are tried last: nothing else begins a text if a variable is found. -/
theorem text?_eq_none_of_lexeme? {text : List Char} {l : Lexeme} (found : lexeme? text = some l)
    (last : l.kind = .var) {kind : LexemeKind} (apart : kind ≠ .var) : kind.text? text = none := by
  have order : LexemeKind.all = LexemeKind.all.dropLast ++ [.var] := rfl
  rw [lexeme?, order, List.findSome?_append] at found
  cases early : LexemeKind.all.dropLast.findSome? fun kind =>
      (kind.text? text).map (Lexeme.mk kind) with
  | none =>
      have nothing := List.findSome?_eq_none_iff.1 early kind (LexemeKind.mem_dropLast_all.2 apart)
      exact Option.map_eq_none_iff.1 nothing
  | some other =>
      rw [early, Option.some_or] at found
      cases found
      obtain ⟨own, member, here⟩ := List.exists_of_findSome?_eq_some early
      obtain ⟨t, -, rfl⟩ := Option.map_eq_some_iff.1 here
      exact absurd last (LexemeKind.mem_dropLast_all.1 member)

/-- A text of any kind at the beginning is seen. -/
theorem exists_text?_of_spells {kind : LexemeKind} {text other : List Char}
    (spelled : kind.Spells other) (begins : other <+: text) :
    ∃ found, kind.text? text = some found ∧ kind.Spells found ∧ found <+: text ∧
      other.length ≤ found.length := by
  have finds := finds_text Digits.agree_table kind text
  cases seen : kind.text? text with
  | none =>
      rw [seen] at finds
      exact absurd begins (finds other spelled)
  | some found =>
      rw [seen] at finds
      exact ⟨found, rfl, finds.1, finds.2.1, finds.2.2 other spelled begins⟩

theorem leads_of_lexeme? {text : List Char} {l : Lexeme} (found : lexeme? text = some l) :
    l.Leads text := by
  have finds := finds_text Digits.agree_table l.kind text
  rw [text?_of_lexeme? found] at finds
  obtain ⟨spelled, begins, longest⟩ := finds
  -- A rival of another kind is a letter, unless the lexeme found is one.
  have outdone : ∀ kind other, LexemeKind.Spells kind other → other <+: text → kind ≠ l.kind →
      kind = .var ∧ Outdone other l.kind l.text := by
    intro kind other also otherBegins apart
    rcases rivals spelled also begins otherBegins (Ne.symm apart) with letter | ⟨last, -⟩
    · exact letter
    · have unseen := text?_eq_none_of_lexeme? found last (last ▸ apart)
      obtain ⟨t, seen, -⟩ := exists_text?_of_spells also otherBegins
      rw [unseen] at seen
      cases seen
  have nonempty : 1 ≤ l.text.length := by
    have shape := shaped_of_spells spelled
    cases same : l.text with
    | nil =>
        rw [same] at shape
        cases shape
    | cons c cs => exact Nat.succ_le_succ (Nat.zero_le _)
  refine ⟨spelled, begins, fun kind other also otherBegins => ?_, fun kind also => ?_⟩
  · by_cases same : kind = l.kind
    · exact longest other (same ▸ also) otherBegins
    · rw [(outdone kind other also otherBegins same).2.single]
      exact nonempty
  · by_cases same : kind = l.kind
    · exact .inl same
    · obtain ⟨letter, loses⟩ := outdone kind l.text also begins same
      exact .inr ⟨loses.tie rfl, letter⟩

theorem unled_of_lexeme? {text : List Char} (nothing : lexeme? text = none) : Unled text := by
  intro kind other spelled begins
  obtain ⟨found, seen, -⟩ := exists_text?_of_spells spelled begins
  have unseen := List.findSome?_eq_none_iff.1 nothing kind kind.mem_all
  rw [seen] at unseen
  cases unseen

/-- One lexeme at most leads a text. -/
theorem Lexeme.Leads.unique {text : List Char} {l m : Lexeme} (first : l.Leads text)
    (second : m.Leads text) : l = m := by
  have shorter := second.longest l.kind l.text first.spelled first.begins
  have longer := first.longest m.kind m.text second.spelled second.begins
  have sameText : l.text = m.text :=
    (List.prefix_of_prefix_length_le first.begins second.begins shorter).eq_of_length_le longer
  have sameKind : l.kind = m.kind := by
    rcases first.first m.kind (sameText ▸ second.spelled) with same | ⟨constant, var⟩
    · exact same.symm
    · rcases second.first l.kind (sameText ▸ first.spelled) with same | ⟨other, -⟩
      · exact same
      · rw [var] at other
        cases other
  cases l
  cases m
  cases sameText
  cases sameKind
  rfl

/-- **The lexeme found is the one that leads the text**: the longest text of any kind. -/
theorem lexeme?_eq_some_iff {text : List Char} {l : Lexeme} :
    lexeme? text = some l ↔ l.Leads text := by
  refine ⟨leads_of_lexeme?, fun leads => ?_⟩
  cases found : lexeme? text with
  | none => exact absurd leads.begins (unled_of_lexeme? found l.kind l.text leads.spelled)
  | some m => rw [(leads_of_lexeme? found).unique leads]

theorem lexeme?_eq_none_iff {text : List Char} : lexeme? text = none ↔ Unled text := by
  refine ⟨unled_of_lexeme?, fun unled => ?_⟩
  cases found : lexeme? text with
  | none => rfl
  | some l =>
      have leads := leads_of_lexeme? found
      exact absurd leads.begins (unled l.kind l.text leads.spelled)

end SciCalc.Syntax
