/-
# SciCalc.Proofs.Calculator.EquationSides -- an equation means the difference of its sides

An equation is solved by its text: each side is put in parentheses, with a minus between them.
If both sides can be parsed, so can the difference, and its postfix order is that of the left
side, that of the right side, and the minus (`parse_equation`).  The sides need not be
expressions: an empty side has no tokens, one with too few operands has them still.

No lexeme reaches over a parenthesis that a side is put in (`splits_difference`), so reading
the difference is reading each side, and fails where that of a side does
(`sides_of_tokenize`).
-/
import SciCalc.Calculator.Basic
import SciCalc.Proofs.Syntax.Parenthesized

namespace SciCalc

set_option autoImplicit false

open SciCalc.Syntax

namespace Syntax

variable {ts us front behind : List Token}

/-- The tokens of two stretches in parentheses and a minus between them. -/
def differenceTokens (ts us : List Token) : List Token :=
  .lparen :: ts ++ .rparen :: .operator "-" false :: (.lparen :: us ++ [.rparen])

/-- The pieces of two texts in parentheses and of a minus between them. -/
def differencePieces (ps qs : List Piece) : List Piece :=
  .lexeme ⟨.lparen, ['(']⟩ :: ps ++ .lexeme ⟨.rparen, [')']⟩ :: .lexeme ⟨.operator, ['-']⟩ ::
    (.lexeme ⟨.lparen, ['(']⟩ :: qs ++ [.lexeme ⟨.rparen, [')']⟩])

/-- No lexeme reaches over a parenthesis that a side is put in. -/
theorem splits_difference {left right : String} {ps qs : List Piece}
    (leftSplits : Splits (Text.squeeze left.toList) ps)
    (rightSplits : Splits (Text.squeeze right.toList) qs) :
    Splits (Text.squeeze ("(" ++ left ++ ")-(" ++ right ++ ")").toList)
      (differencePieces ps qs) := by
  have minus : markKind? '-' = some .operator := by decide +kernel
  have splits := leftSplits.parenthesized (.mark minus (rightSplits.parenthesized .nil))
  have text : Text.squeeze ("(" ++ left ++ ")-(" ++ right ++ ")").toList =
      '(' :: Text.squeeze left.toList ++
        ')' :: '-' :: ('(' :: Text.squeeze right.toList ++ [')']) := by
    have opening : Text.isBlank '(' = false := by decide +kernel
    have closing : Text.isBlank ')' = false := by decide +kernel
    have sign : Text.isBlank '-' = false := by decide +kernel
    simp [Text.squeeze, opening, closing, sign]
  rw [text]
  exact splits

/-- All pieces are lexemes exactly when those of both sides are. -/
theorem lexemes_difference {ps qs : List Piece} :
    (∃ ls : List Lexeme, differencePieces ps qs = ls.map .lexeme) ↔
      (∃ ls : List Lexeme, ps = ls.map .lexeme) ∧ ∃ ms : List Lexeme, qs = ms.map .lexeme := by
  simp only [Piece.all_lexemes_iff, ← forall_and]
  simp [differencePieces]

/-- Behind a closing parenthesis a minus stands between operands. -/
theorem tokenize_difference {strict : Bool} {left right : String}
    (leftRead : (tokenize strict left).outcome = .ok ts)
    (rightRead : (tokenize strict right).outcome = .ok us) :
    (tokenize strict ("(" ++ left ++ ")-(" ++ right ++ ")")).outcome =
      .ok (differenceTokens ts us) := by
  obtain ⟨ps, leftSplits, leftAll, rfl⟩ := tokenize_eq_ok_iff.1 leftRead
  obtain ⟨qs, rightSplits, rightAll, rfl⟩ := tokenize_eq_ok_iff.1 rightRead
  refine tokenize_eq_ok_iff.2 ⟨_, splits_difference leftSplits rightSplits, fun strictly => ?_, ?_⟩
  · exact lexemes_difference.2 ⟨leftAll strictly, rightAll strictly⟩
  · have lexemes : (differencePieces ps qs).filterMap Piece.lexeme? =
        ⟨.lparen, ['(']⟩ :: ps.filterMap Piece.lexeme? ++ ⟨.rparen, [')']⟩ :: ⟨.operator, ['-']⟩ ::
          (⟨.lparen, ['(']⟩ :: qs.filterMap Piece.lexeme? ++ [⟨.rparen, [')']⟩]) := by
      simp [differencePieces, Piece.lexeme?]
    have minusToken : Lexeme.tokens ⟨.operator, ['-']⟩ (some .rparen) = [.operator "-" false] := rfl
    rw [lexemes, tokensAfter_parenthesized, tokensAfter, minusToken, tokensAfter_parenthesized]
    rfl

/-- If a difference of two sides is read, so is each side alone. -/
theorem sides_of_tokenize {strict : Bool} {left right : String} {read : List Token}
    (whole : (tokenize strict ("(" ++ left ++ ")-(" ++ right ++ ")")).outcome = .ok read) :
    ∃ ts us, (tokenize strict left).outcome = .ok ts ∧ (tokenize strict right).outcome = .ok us ∧
      read = differenceTokens ts us := by
  obtain ⟨ps, splits, all, -⟩ := tokenize_eq_ok_iff.1 whole
  have leftSplits := splits_pieces (Text.squeeze left.toList)
  have rightSplits := splits_pieces (Text.squeeze right.toList)
  have pieces := splits.eq_pieces.trans (splits_difference leftSplits rightSplits).eq_pieces.symm
  rw [pieces, lexemes_difference] at all
  have leftRead := tokenize_eq_ok_iff.2 ⟨_, leftSplits, fun strictly => (all strictly).1, rfl⟩
  have rightRead := tokenize_eq_ok_iff.2 ⟨_, rightSplits, fun strictly => (all strictly).2, rfl⟩
  have again := tokenize_difference leftRead rightRead
  exact ⟨_, _, leftRead, rightRead, Except.ok.inj (whole.symm.trans again)⟩

/-- Each side is put out as it is alone, and the minus behind both. -/
theorem toPostfix_difference (leftKnown : ∀ t ∈ ts, t.Known) (rightKnown : ∀ t ∈ us, t.Known)
    (leftEnds : toPostfix ts = .ok front) (rightEnds : toPostfix us = .ok behind) :
    toPostfix (differenceTokens ts us) = .ok (front ++ behind ++ [.operator "-" false]) := by
  have left : Yard.start.Reads _ ⟨front.reverse ++ [], [], []⟩ :=
    Yard.reads_parenthesized leftKnown leftEnds rfl
  have minus : Yard.step ⟨front.reverse ++ [], [], []⟩ (.operator "-" false) =
      .ok ⟨front.reverse ++ [], [.operator "-" false], []⟩ := rfl
  have right := Yard.reads_parenthesized (y := ⟨front.reverse ++ [], [.operator "-" false], []⟩)
    rightKnown rightEnds rfl
  have whole : (differenceTokens ts us).foldlM Yard.step Yard.start =
      .ok ⟨behind.reverse ++ (front.reverse ++ []), [.operator "-" false], []⟩ := by
    have run := left.append (.cons minus right)
    simpa [differenceTokens, Yard.Reads] using run
  rw [toPostfix, whole]
  simp [bind, Except.bind, Yard.finish, Token.isParen]

end Syntax

namespace Calculator

/-- The sides of an equation are what stands before and behind its only equals sign. -/
theorem equation_sides {left right : String} (leftSide : equalsSign ∉ left.toList)
    (rightSide : equalsSign ∉ right.toList) :
    equation (left ++ "=" ++ right) = .ok ("(" ++ left ++ ")-(" ++ right ++ ")") := by
  have before : ∀ c ∈ left.toList, decide (c ≠ equalsSign) = true := fun c inside =>
    decide_eq_true fun same => leftSide (same ▸ inside)
  have text : (left ++ "=" ++ right).toList = left.toList ++ equalsSign :: right.toList := by
    simp [equalsSign]
  simp only [equation, text, List.takeWhile_append_of_pos before,
    List.dropWhile_append_of_pos before]
  simp [rightSide]

/-- **An equation means the difference of its sides.**  If the sides can each be parsed, the
text that the equation stands for can be, and its postfix order is that of the left side,
followed by that of the right side and the minus between two operands. -/
theorem parse_equation {strict : Bool} {left right : String} {front behind : List Token}
    (leftSide : equalsSign ∉ left.toList) (rightSide : equalsSign ∉ right.toList)
    (leftParses : (parse strict left).outcome = .ok front)
    (rightParses : (parse strict right).outcome = .ok behind) :
    ∃ text, equation (left ++ "=" ++ right) = .ok text ∧
      (parse strict text).outcome = .ok (front ++ behind ++ [.operator "-" false]) := by
  obtain ⟨ts, leftRead, leftKnown, leftEnds⟩ := known_of_parse Digits.agree_table leftParses
  obtain ⟨us, rightRead, rightKnown, rightEnds⟩ := known_of_parse Digits.agree_table rightParses
  refine ⟨_, equation_sides leftSide rightSide, ?_⟩
  rw [outcome_parse, tokenize_difference leftRead rightRead]
  exact toPostfix_difference leftKnown rightKnown leftEnds rightEnds

/-- A lenient reading of `-x#sin= +$`: a sign in front and a function that is not called on the
left, no token at all on the right. -/
theorem parse_equation_uncalled :
    equalsSign ∉ "-x#sin".toList ∧ equalsSign ∉ " +$".toList ∧
      (parse false "-x#sin").outcome =
        .ok [.number (-1.0), .var "X", .function "sin", .signProduct] ∧
      (parse false " +$").outcome = .ok [] ∧
      ∃ text, equation ("-x#sin" ++ "=" ++ " +$") = .ok text ∧
        (parse false text).outcome =
          .ok ([.number (-1.0), .var "X", .function "sin", .signProduct] ++ [] ++
            [.operator "-" false]) := by
  have leftSide : equalsSign ∉ "-x#sin".toList := by decide +kernel
  have rightSide : equalsSign ∉ " +$".toList := by decide +kernel
  have leftParses : (parse false "-x#sin").outcome =
      .ok [.number (-1.0), .var "X", .function "sin", .signProduct] := rfl
  have rightParses : (parse false " +$").outcome = .ok [] := rfl
  exact ⟨leftSide, rightSide, leftParses, rightParses,
    parse_equation leftSide rightSide leftParses rightParses⟩

end Calculator

end SciCalc
