/-
# SciCalc.Proofs.Syntax.WrittenText -- reading undoes writing

Every text of a written expression is read as the tokens of its tree, whatever white space
and plus signs it has (`tokenize_written`).

The induction carries two things at once (`ReadAs`).  To the right, no spelling runs into
what follows it: marks are lexemes wherever they stand (`Splits.mark`), and everything else
in a text is followed by a mark or by nothing (`Splits.word`).  To the left, an expression
is met in prefix position and leaves it (`Written.tokens_ends`), which decides what a minus
or a plus behind it means.
-/
import SciCalc.Proofs.Syntax.Splitting
import SciCalc.Syntax.Written

namespace SciCalc.Syntax

set_option autoImplicit false

variable {text rest : List Char} {ps : List Piece} {l : Lexeme} {kind : LexemeKind}

/-! ## Spellings and what follows them -/

/-- A text that goes on with a mark, or is at its end. -/
def Ended (rest : List Char) : Prop := ∀ c ∈ rest.head?, (markKind? c).isSome = true

theorem ended_nil : Ended [] := fun _ inside => by cases inside

theorem ended_mark {c : Char} (mark : markKind? c = some kind) : Ended (c :: rest) := by
  intro d inside
  obtain rfl : c = d := by simpa using inside
  rw [mark]
  rfl

theorem spells_of_markKind? {c : Char} (mark : markKind? c = some kind) : kind.Spells [c] := by
  rw [markKind?] at mark
  split at mark
  · cases mark
    subst c
    exact .listed List.mem_cons_self
  · split at mark
    · cases mark
      subst c
      exact .listed List.mem_cons_self
    · split at mark
      · cases mark
        subst c
        exact .listed List.mem_cons_self
      · split at mark
        · cases mark
          exact .listed ‹_›
        · cases mark

/-- Every text that begins with a mark is the mark alone. -/
theorem eq_of_mark_begins {c : Char} {own : LexemeKind} {other : List Char}
    (mark : markKind? c = some kind) (spelled : own.Spells other) (begins : other <+: c :: rest) :
    own = kind ∧ other = [c] := by
  have shape := shaped_of_spells spelled
  cases other with
  | nil => cases shape
  | cons d ds =>
      obtain rfl : d = c := (List.cons_prefix_cons.1 begins).1
      rw [shaped, mark] at shape
      simp only [Option.all_some, Bool.and_eq_true, decide_eq_true_eq, List.isEmpty_iff] at shape
      obtain ⟨-, rfl, rfl⟩ := shape
      exact ⟨rfl, rfl⟩

/-- A mark is a lexeme, whatever follows it. -/
theorem Splits.mark {c : Char} (mark : markKind? c = some kind) (splits : Splits rest ps) :
    Splits (c :: rest) (.lexeme ⟨kind, [c]⟩ :: ps) := by
  refine .lexeme (l := ⟨kind, [c]⟩) ⟨spells_of_markKind? mark, List.prefix_append [c] rest, ?_, ?_⟩
    splits
  · intro own other spelled begins
    obtain ⟨-, rfl⟩ := eq_of_mark_begins mark spelled begins
    exact Nat.le_refl _
  · intro own spelled
    exact .inl (eq_of_mark_begins mark spelled (List.prefix_refl _)).1

/-- No spelling goes on over the end of a text with a mark or nothing behind it. -/
theorem LexemeKind.Spells.begins_of_ended {other : List Char} (spelled : kind.Spells other)
    (nonempty : text ≠ []) (ended : Ended rest) (begins : other <+: text ++ rest) :
    other <+: text := by
  refine Decidable.byContradiction fun beyond => ?_
  -- A longer text would hold the mark behind its first character.
  have front : text <+: other := by
    rcases List.prefix_or_prefix_of_prefix begins (List.prefix_append text rest) with
      inside | longer
    · exact absurd inside beyond
    · exact longer
  obtain ⟨more, rfl⟩ := front
  have shape := shaped_of_spells spelled
  cases more with
  | nil => exact beyond (by simp)
  | cons c cs =>
      have mark : (markKind? c).isSome = true := by
        have behind := (List.prefix_append_right_inj text).1 begins
        cases rest with
        | nil => simp at behind
        | cons d ds =>
            obtain rfl : c = d := (List.cons_prefix_cons.1 behind).1
            exact ended c rfl
      obtain ⟨d, ds, rfl⟩ := List.exists_cons_of_ne_nil nonempty
      rw [List.cons_append, shaped, Bool.and_eq_true, Bool.and_eq_true] at shape
      have clear := List.all_eq_true.1 shape.1.2 c (by simp)
      rw [Option.isNone_iff_eq_none] at clear
      rw [clear] at mark
      cases mark

/-- What leads a text leads it also when a mark or nothing follows. -/
theorem Lexeme.Leads.append (leads : l.Leads text) (nonempty : text ≠ []) (ended : Ended rest) :
    l.Leads (text ++ rest) :=
  ⟨leads.spelled, leads.begins.trans (List.prefix_append _ _), fun own other spelled begins =>
    leads.longest own other spelled (spelled.begins_of_ended nonempty ended begins), leads.first⟩

/-- And where nothing leads, nothing does then. -/
theorem Unled.append (unled : Unled text) (nonempty : text ≠ []) (ended : Ended rest) :
    Unled (text ++ rest) :=
  fun own other spelled begins =>
    unled own other spelled (spelled.begins_of_ended nonempty ended begins)

theorem Splits.word (leads : l.Leads l.text) (ended : Ended rest) (splits : Splits rest ps) :
    Splits (l.text ++ rest) (.lexeme l :: ps) :=
  .lexeme (leads.append leads.spelled.ne_nil ended) splits

/-- A spelling that is no variable leads itself. -/
theorem leads_self (spelled : kind.Spells text) (named : kind ≠ .var) :
    Lexeme.Leads ⟨kind, text⟩ text := by
  refine ⟨spelled, List.prefix_refl _, fun _ _ _ begins => begins.length_le, fun own also => ?_⟩
  by_cases same : kind = own
  · exact .inl same.symm
  · rcases rivals spelled also (List.prefix_refl _) (List.prefix_refl _) same with
      ⟨letter, outdone⟩ | ⟨letter, -⟩
    · exact .inr ⟨outdone.tie rfl, letter⟩
    · exact absurd letter named

/-- So does a variable, unless it is the constant. -/
theorem leads_self_var (spelled : LexemeKind.Spells .var text) (noConstant : text ≠ ['e']) :
    Lexeme.Leads ⟨.var, text⟩ text := by
  refine ⟨spelled, List.prefix_refl _, fun _ _ _ begins => begins.length_le, fun own also => ?_⟩
  by_cases same : LexemeKind.var = own
  · exact .inl same.symm
  · exfalso
    rcases rivals spelled also (List.prefix_refl _) (List.prefix_refl _) same with
      ⟨letter, -⟩ | ⟨-, outdone⟩
    · exact same letter.symm
    · obtain rfl := outdone.tie rfl
      have single : (LexemeKind.listed .constant).all (fun name =>
          name.length != 1 || name == ['e'] || name.all (!·.isAlpha)) = true := by
        decide
      rcases LexemeKind.spells_var.1 spelled with rfl | ⟨c, letter, rfl⟩
      · cases outdone.single
      · have member := (LexemeKind.spells_iff_listed (by decide) (by decide)).1 also
        have known := List.all_eq_true.1 single [c] member
        have other : c ≠ 'e' := fun this => noConstant (this ▸ rfl)
        simp [letter, other] at known

/-! ## Tokens of operators -/

/-- A symbol between operands is one mark, and no operand is on the left behind it. -/
theorem symbol_mark {symbol : String} (written : (symbolLevel? symbol).isSome = true) :
    ∃ c, symbol.toList = [c] ∧ markKind? c = some .operator ∧
      inPrefixPosition (some (.operator symbol false)) = true := by
  rw [symbolLevel?.eq_def] at written
  split at written
  case h_10 => cases written
  all_goals exact ⟨_, rfl, by decide +kernel, rfl⟩

theorem sign_mark {sign : String} (minus : sign ∈ minusSigns) :
    ∃ c, sign.toList = [c] ∧ markKind? c = some .operator := by
  simp only [minusSigns, List.mem_cons, List.not_mem_nil, or_false] at minus
  rcases minus with rfl | rfl
  · exact ⟨'-', rfl, by decide +kernel⟩
  · exact ⟨'−', rfl, by decide +kernel⟩

variable {previous : Option Token}

theorem tokens_infix (symbol : String) (operand : inPrefixPosition previous = false) :
    Lexeme.tokens ⟨.operator, symbol.toList⟩ previous = [.operator symbol false] := by
  simp only [Lexeme.tokens, operand, Bool.false_eq_true, if_false, String.ofList_toList]

theorem tokens_sign {sign : String} (minus : sign ∈ minusSigns)
    (noOperand : inPrefixPosition previous = true) :
    Lexeme.tokens ⟨.operator, sign.toList⟩ previous = [.number (-1.0), .signProduct] := by
  simp only [Lexeme.tokens, noOperand, if_true, String.ofList_toList, minus]

theorem tokens_plus (noOperand : inPrefixPosition previous = true) :
    Lexeme.tokens ⟨.operator, ['+']⟩ previous = [] := by
  have noMinus : String.ofList ['+'] ∉ minusSigns := by decide
  simp only [Lexeme.tokens, noOperand, if_true, if_neg noMinus]

/-- The last token of a written expression is an operand, a parenthesis that closes or a
factorial: what follows is not in prefix position. -/
theorem Written.tokens_ends : (e : Written) →
    ∃ front last, e.tokens = front ++ [last] ∧ inPrefixPosition (some last) = false
  | number literal _ => ⟨[], .number (Numeral.value literal), by rw [tokens]; rfl, rfl⟩
  | constant name _ => ⟨[], .constant name, by rw [tokens]; rfl, rfl⟩
  | letter c _ _ => ⟨[], .var (String.singleton c.toUpper), by rw [tokens]; rfl, rfl⟩
  | answer => ⟨[], .var answerName, by rw [tokens]; rfl, rfl⟩
  | group inner => ⟨.lparen :: inner.tokens, .rparen, by rw [tokens], rfl⟩
  | call name _ arguments =>
      ⟨.function name :: .lparen :: listTokens arguments, .rparen, by rw [tokens], rfl⟩
  | factorial operand => ⟨operand.tokens, .operator factorialSymbol false, by rw [tokens], rfl⟩
  | negate _ _ operand => by
      obtain ⟨front, last, whole, ends⟩ := operand.tokens_ends
      exact ⟨.number (-1.0) :: .signProduct :: front, last, by rw [tokens, whole]; rfl, ends⟩
  | binary symbol _ left right => by
      obtain ⟨front, last, whole, ends⟩ := right.tokens_ends
      exact ⟨left.tokens ++ .operator symbol false :: front, last, by
        rw [tokens, whole, List.append_assoc, List.cons_append], ends⟩

theorem Written.not_inPrefixPosition (e : Written) (previous : Option Token) :
    inPrefixPosition (e.tokens.getLast?.or previous) = false := by
  obtain ⟨front, last, whole, ends⟩ := e.tokens_ends
  rw [whole, List.getLast?_concat, Option.some_or]
  exact ends

/-! ## Reading a stretch of text -/

/-- A text with a mark or nothing behind it falls into lexemes of its own, which in prefix
position have the given tokens. -/
def ReadAs (text : List Char) (ts : List Token) : Prop :=
  ∃ ls : List Lexeme,
    (∀ rest ps, Ended rest → Splits rest ps → Splits (text ++ rest) (ls.map .lexeme ++ ps)) ∧
      ∀ previous, inPrefixPosition previous = true → tokensAfter previous ls = ts

theorem readAs_leaf {kind : LexemeKind} {text : List Char} {t : Token}
    (leads : Lexeme.Leads ⟨kind, text⟩ text)
    (token : ∀ previous, Lexeme.tokens ⟨kind, text⟩ previous = [t]) : ReadAs text [t] :=
  ⟨[⟨kind, text⟩], fun _ _ ended splits => .word (l := ⟨kind, text⟩) leads ended splits,
    fun previous _ => by rw [tokensAfter, token, tokensAfter, List.append_nil]⟩

/-- Parentheses and a text inside them, wherever they stand. -/
theorem ReadAs.parens {text : List Char} {ts : List Token} (inside : ReadAs text ts) :
    ∃ ls : List Lexeme,
      (∀ rest ps, Splits rest ps →
        Splits ('(' :: text ++ ')' :: rest) (ls.map .lexeme ++ ps)) ∧
      ∀ previous, tokensAfter previous ls = .lparen :: ts ++ [.rparen] := by
  obtain ⟨ls, splits, tokens⟩ := inside
  refine ⟨⟨.lparen, ['(']⟩ :: ls ++ [⟨.rparen, [')']⟩], fun rest ps more => ?_, fun previous => ?_⟩
  · have closing := Splits.mark (c := ')') rfl more
    have whole := Splits.mark (c := '(') rfl (splits _ _ (ended_mark rfl) closing)
    simpa using whole
  · have opened : Lexeme.tokens ⟨.lparen, ['(']⟩ previous = [.lparen] := rfl
    rw [List.cons_append, tokensAfter, tokensAfter_append, opened, List.getLast?_singleton,
      Option.some_or, tokens _ rfl]
    rfl

theorem ReadAs.group {text : List Char} {ts : List Token} (inside : ReadAs text ts) :
    ReadAs ('(' :: text ++ [')']) (.lparen :: ts ++ [.rparen]) := by
  obtain ⟨ls, splits, tokens⟩ := inside.parens
  refine ⟨ls, fun rest ps _ more => ?_, fun previous _ => tokens previous⟩
  simpa using splits rest ps more

theorem ReadAs.call {name : String} {text : List Char} {ts : List Token}
    (known : name ∈ Fn.names.map Prod.fst) (inside : ReadAs text ts) :
    ReadAs (name.toList ++ '(' :: text ++ [')'])
      (.function name :: .lparen :: ts ++ [.rparen]) := by
  obtain ⟨ls, splits, tokens⟩ := inside.parens
  have listed : name.toList ∈ LexemeKind.listed .function := by
    obtain ⟨entry, member, rfl⟩ := List.mem_map.1 known
    exact List.mem_map_of_mem member
  refine ⟨⟨.function, name.toList⟩ :: ls, fun rest ps _ more => ?_, fun previous _ => ?_⟩
  · have leads : Lexeme.Leads ⟨.function, name.toList⟩ name.toList :=
      leads_self (.listed listed) (by decide)
    have whole := Splits.word leads (ended_mark rfl) (splits rest ps more)
    simpa using whole
  · have called : Lexeme.tokens ⟨.function, name.toList⟩ previous = [.function name] := by
      rw [Lexeme.tokens, String.ofList_toList]
    rw [tokensAfter, called, tokens]
    rfl

/-- Behind an expression an operator has its left operand. -/
theorem ReadAs.factorial {e : Written} {text : List Char} (front : ReadAs text e.tokens) :
    ReadAs (text ++ factorialSymbol.toList)
      (e.tokens ++ [.operator factorialSymbol false]) := by
  obtain ⟨ls, splits, tokens⟩ := front
  refine ⟨ls ++ [⟨.operator, factorialSymbol.toList⟩], fun rest ps _ more => ?_,
    fun previous position => ?_⟩
  · have mark : markKind? '!' = some .operator := by decide +kernel
    have whole := splits _ _ (ended_mark mark) (Splits.mark mark more)
    simpa [factorialSymbol] using whole
  · rw [tokensAfter_append, tokens previous position, tokensAfter,
      tokens_infix factorialSymbol (e.not_inPrefixPosition previous), tokensAfter, List.append_nil]

theorem ReadAs.binary {symbol : String} {e : Written} {front behind : List Char}
    {ts : List Token} (written : (symbolLevel? symbol).isSome = true)
    (first : ReadAs front e.tokens) (second : ReadAs behind ts) :
    ReadAs (front ++ symbol.toList ++ behind) (e.tokens ++ .operator symbol false :: ts) := by
  obtain ⟨ls, splits, tokens⟩ := first
  obtain ⟨ms, moreSplits, moreTokens⟩ := second
  obtain ⟨c, single, mark, opens⟩ := symbol_mark written
  refine ⟨ls ++ ⟨.operator, symbol.toList⟩ :: ms, fun rest ps ended more => ?_,
    fun previous position => ?_⟩
  · have whole := splits _ _ (ended_mark mark) (Splits.mark mark (moreSplits rest ps ended more))
    simpa [single] using whole
  · rw [tokensAfter_append, tokens previous position, tokensAfter,
      tokens_infix symbol (e.not_inPrefixPosition previous), List.getLast?_singleton,
      Option.some_or, moreTokens _ opens]
    rfl

theorem ReadAs.negate {sign : String} {text : List Char} {ts : List Token}
    (minus : sign ∈ minusSigns) (behind : ReadAs text ts) :
    ReadAs (sign.toList ++ text) (.number (-1.0) :: .signProduct :: ts) := by
  obtain ⟨ls, splits, tokens⟩ := behind
  obtain ⟨c, single, mark⟩ := sign_mark minus
  refine ⟨⟨.operator, sign.toList⟩ :: ls, fun rest ps ended more => ?_, fun previous position => ?_⟩
  · have whole := Splits.mark mark (splits rest ps ended more)
    simpa [single] using whole
  · have opens : inPrefixPosition (some .signProduct) = true := rfl
    rw [tokensAfter, tokens_sign minus position]
    exact congrArg ([.number (-1.0), .signProduct] ++ ·) (tokens _ opens)

theorem ReadAs.plus {text : List Char} {ts : List Token} (behind : ReadAs text ts) :
    ReadAs ('+' :: text) ts := by
  obtain ⟨ls, splits, tokens⟩ := behind
  refine ⟨⟨.operator, ['+']⟩ :: ls, fun rest ps ended more => ?_, fun previous position => ?_⟩
  · have mark : markKind? '+' = some .operator := by decide +kernel
    exact Splits.mark mark (splits rest ps ended more)
  · rw [tokensAfter, tokens_plus position]
    exact tokens previous position

/-- A comma follows an argument and puts the next one in prefix position. -/
theorem ReadAs.comma {front behind : List Char} {ts us : List Token} (first : ReadAs front ts)
    (second : ReadAs behind us) : ReadAs (front ++ ',' :: behind) (ts ++ .comma :: us) := by
  obtain ⟨ls, splits, tokens⟩ := first
  obtain ⟨ms, moreSplits, moreTokens⟩ := second
  refine ⟨ls ++ ⟨.comma, [',']⟩ :: ms, fun rest ps ended more => ?_, fun previous position => ?_⟩
  · have mark : markKind? ',' = some .comma := rfl
    have whole := splits _ _ (ended_mark mark) (Splits.mark mark (moreSplits rest ps ended more))
    simpa using whole
  · rw [tokensAfter_append, tokens previous position]
    exact congrArg (ts ++ .comma :: ·) (moreTokens (some .comma) rfl)

theorem constant_leads {name : String} (known : name ∈ constants.map Prod.fst) :
    Lexeme.Leads ⟨.constant, name.toList⟩ name.toList := by
  obtain ⟨entry, member, rfl⟩ := List.mem_map.1 known
  exact leads_self (.listed (List.mem_map_of_mem member)) (by decide)

mutual

/-- **Every text of an expression is read as its tokens.** -/
theorem WrittenAs.readAs {e : Written} {text : List Char} :
    WrittenAs e text → ReadAs text e.tokens
  | @WrittenAs.number _ numeral => by
      rw [Written.tokens]
      exact readAs_leaf (leads_self (.numeral numeral) (by decide))
        (tokens_numeral Digits.agree_table numeral)
  | @WrittenAs.constant name known => by
      rw [Written.tokens]
      refine readAs_leaf (constant_leads known) fun previous => ?_
      rw [Lexeme.tokens, String.ofList_toList]
  | @WrittenAs.letter c letter noConstant => by
      rw [Written.tokens]
      refine readAs_leaf (leads_self_var (.letter letter) fun same => ?_) fun _ => rfl
      exact noConstant (List.singleton_inj.1 same)
  | .answer => by
      rw [Written.tokens]
      exact readAs_leaf (leads_self_var (.listed List.mem_cons_self) (by decide)) fun _ => rfl
  | .group inside => by
      rw [Written.tokens]
      exact inside.readAs.group
  | @WrittenAs.call name known _ _ inside => by
      rw [Written.tokens]
      exact inside.readAs.call known
  | .factorial front => by
      rw [Written.tokens]
      exact front.readAs.factorial
  | @WrittenAs.negate _ minus _ _ behind => by
      rw [Written.tokens]
      exact behind.readAs.negate minus
  | @WrittenAs.binary _ written _ _ _ _ first second => by
      rw [Written.tokens]
      exact first.readAs.binary written second.readAs

theorem WrittenSigned.readAs {e : Written} {text : List Char} :
    WrittenSigned e text → ReadAs text e.tokens
  | .bare plain => plain.readAs
  | .plus signed => signed.readAs.plus

theorem WrittenList.readAs {arguments : List Written} {text : List Char} :
    WrittenList arguments text → ReadAs text (Written.listTokens arguments)
  | .none => by
      rw [Written.listTokens]
      exact ⟨[], fun _ _ _ more => more, fun _ _ => rfl⟩
  | .last signed => by
      rw [Written.listTokens]
      exact signed.readAs
  | .more signed rest => by
      rw [Written.listTokens]
      · exact signed.readAs.comma rest.readAs
      · simp

end

/-! ## White space -/

theorem isBlank_eq_false_of_isAlpha {c : Char} (letter : c.isAlpha = true) :
    Text.isBlank c = false := by
  have apart : ∀ range ∈ Text.blankRanges, range.2 < 65 ∨ 122 < range.1 := by decide
  refine Text.inRanges_eq_false fun range inside => ?_
  have := apart range inside
  have := toNat_of_isAlpha letter
  omega

/-- No lexeme has white space in it. -/
theorem LexemeKind.Spells.not_blank (spelled : kind.Spells text) :
    ∀ c ∈ text, Text.isBlank c = false := by
  cases spelled with
  | listed member =>
      have clear : kind.listed.all (fun name => name.all (!Text.isBlank ·)) = true := by
        cases kind <;> decide +kernel
      intro c inside
      simpa using List.all_eq_true.1 (List.all_eq_true.1 clear text member) c inside
  | numeral numeral => exact numeral.not_blank Digits.agree_table
  | letter letter =>
      intro c inside
      obtain rfl := List.mem_singleton.1 inside
      exact isBlank_eq_false_of_isAlpha letter

theorem Splits.not_blank {ls : List Lexeme} (splits : Splits text (ls.map .lexeme)) :
    ∀ c ∈ text, Text.isBlank c = false := by
  induction ls generalizing text with
  | nil =>
      cases splits
      exact fun _ inside => by cases inside
  | cons l ls ih =>
      cases splits with
      | lexeme leads more =>
          intro c inside
          rcases List.mem_append.1 inside with front | behind
          · exact leads.spelled.not_blank c front
          · exact ih more c behind

/-- Dropping white space undoes putting it in. -/
theorem Spaced.squeeze {plain spaced : List Char} (puts : Spaced plain spaced)
    (solid : ∀ c ∈ plain, Text.isBlank c = false) : Text.squeeze spaced = plain := by
  induction puts with
  | nil => rfl
  | blank blank _ ih => rw [Text.squeeze, List.filter_cons_of_neg (by simp [blank])]; exact ih solid
  | @keep c _ _ _ ih =>
      have here := solid c List.mem_cons_self
      rw [Text.squeeze, List.filter_cons_of_pos (by simp [here])]
      exact congrArg (c :: ·) (ih fun d inside => solid d (List.mem_cons_of_mem c inside))

/-- Every text is what is left of it with the white space put in. -/
theorem spaced_squeeze (cs : List Char) : Spaced (Text.squeeze cs) cs := by
  induction cs with
  | nil => exact .nil
  | cons c cs ih =>
      cases blank : Text.isBlank c with
      | true =>
          rw [Text.squeeze, List.filter_cons_of_neg (by simp [blank])]
          exact .blank blank ih
      | false =>
          rw [Text.squeeze, List.filter_cons_of_pos (by simp [blank])]
          exact .keep ih

/-! ## Whole texts -/

/-- The lexemes of a written text, without its white space, have the tokens of the expression. -/
theorem WrittenSigned.splits {e : Written} {plain : List Char} {text : String}
    (written : WrittenSigned e plain) (spaced : Spaced plain text.toList) :
    ∃ ls : List Lexeme, Splits (Text.squeeze text.toList) (ls.map .lexeme) ∧
      tokensAfter none ls = e.tokens := by
  obtain ⟨ls, splits, tokens⟩ := written.readAs
  have whole : Splits plain (ls.map .lexeme) := by
    simpa using splits [] [] ended_nil .nil
  rw [← spaced.squeeze whole.not_blank] at whole
  exact ⟨ls, whole, tokens none rfl⟩

/-- **Reading undoes writing.**  Every text of a written expression, with any white space in
it and any plus signs in front of operands in prefix position, is read as the tokens of the
expression, and nothing is skipped. -/
theorem tokenize_written (strict : Bool) {e : Written} {plain : List Char} {text : String}
    (written : WrittenSigned e plain) (spaced : Spaced plain text.toList) :
    tokenize strict text = ⟨[], .ok e.tokens⟩ := by
  obtain ⟨ls, splits, tokens⟩ := written.splits spaced
  rw [tokenize_of_splits splits, tokens]

/-- `−x^2-nCr(4,e)!` with white space in a name and plus signs in front of operands. -/
theorem tokenize_written_signs :
    let e : Written :=
      .binary "-" rfl
        (.negate "−" (by decide) (.binary "^" rfl (.letter 'x' rfl (by decide))
          (.number ['2'] (.digit (by decide +kernel)))))
        (.factorial (.call "nCr" (by decide)
          [.number ['4'] (.digit (by decide +kernel)), .constant "e" (by decide)]))
    let plain := "−++x^2-nCr(4,+e)!".toList
    let text := " − ++x^\t2 - n Cr(4, +e )!"
    WrittenSigned e plain ∧ Spaced plain text.toList ∧
      tokenize true text =
        ⟨[], .ok [.number (-1.0), .signProduct, .var "X", .operator "^" false,
          .number (Numeral.value ['2']), .operator "-" false, .function "nCr", .lparen,
          .number (Numeral.value ['4']), .comma, .constant "e", .rparen,
          .operator "!" false]⟩ := by
  intro e plain text
  have covered : ∃ t, WrittenSigned e t ∧ t = plain :=
    ⟨_, .bare (.binary
        (.negate (.plus (.plus (.bare (.binary .letter (.bare .number))))))
        (.bare (.factorial (.call (.more (.bare .number) (.last (.plus (.bare .constant)))))))),
      by decide +kernel⟩
  obtain ⟨t, written, same⟩ := covered
  rw [same] at written
  have squeezed : Text.squeeze text.toList = plain := by decide +kernel
  have spaced := spaced_squeeze text.toList
  rw [squeezed] at spaced
  exact ⟨written, spaced, tokenize_written true written spaced⟩

end SciCalc.Syntax
