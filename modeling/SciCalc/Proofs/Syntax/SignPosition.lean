/-
# SciCalc.Proofs.Syntax.SignPosition -- which signs are operators

Whether a plus or a minus is a sign or an operator is decided by the last token in front of
it, with what was dropped in between out of sight: a plus that was a sign, characters that a
lenient reading skipped.

So the tokens in front are the whole state of a reading, and what they say of the next
lexeme is a property of the list they make (`Placed`): the product of a sign has the number
`-1` in front, and the two stand where an operand begins (`OperandBegins`); a plus or a minus
that is left an operator has the end of an operand in front (`OperandEnds`).  Every lexeme
keeps the property (`Placed.lexeme`), hence every reading has it (`placed_ofText`).
-/
import Mathlib.Data.List.Induction
import SciCalc.Proofs.Syntax.Sentence

namespace SciCalc.Syntax

set_option autoImplicit false

variable {previous : Option Token} {t : Token} {ts : List Token} {symbol : String}
  {strict : Bool}

/-! ## In front of an operator -/

/-- Where an operand begins: at the start, and behind an opening parenthesis, a comma, an
operator that does not follow its operand, or the product of a sign. -/
inductive OperandBegins : Option Token → Prop
  | start : OperandBegins none
  | lparen : OperandBegins (some .lparen)
  | comma : OperandBegins (some .comma)
  | operator {symbol : String} {o : Operation} (meant : Operation.ofSymbol? symbol = some o)
      (infixed : o.postfixed = false) : OperandBegins (some (.operator symbol false))
  | sign : OperandBegins (some .signProduct)

/-- Behind which tokens a plus or a minus is an operator.  The name of a function is one of
them: its parenthesis is not waited for. -/
inductive OperandEnds : Token → Prop
  | number (value : Float) : OperandEnds (.number value)
  | constant (name : String) : OperandEnds (.constant name)
  | var (name : String) : OperandEnds (.var name)
  | function (name : String) : OperandEnds (.function name)
  | rparen : OperandEnds .rparen
  | factorial : OperandEnds (.operator factorialSymbol false)

theorem OperandBegins.inPrefixPosition (begins : OperandBegins previous) :
    inPrefixPosition previous = true := by
  cases begins with
  | @operator symbol o meant infixed =>
      have entry : Token.operationOf? symbol false = some o := meant
      simp [Syntax.inPrefixPosition, entry, infixed]
  | _ => rfl

theorem OperandEnds.not_inPrefixPosition (ends : OperandEnds t) :
    inPrefixPosition (some t) = false := by
  cases ends <;> rfl

theorem OperandEnds.not_begins (ends : OperandEnds t) : ¬ OperandBegins (some t) := fun begins =>
  Bool.false_ne_true (ends.not_inPrefixPosition.symm.trans begins.inPrefixPosition)

theorem operandBegins_of_prefix (prefixed : inPrefixPosition previous = true)
    (product : ∀ symbol, previous = some (.operator symbol true) → symbol = "×") :
    OperandBegins previous := by
  rcases previous with _ | t
  · exact .start
  · cases t with
    | lparen => exact .lparen
    | comma => exact .comma
    | operator symbol unary =>
        cases unary with
        | true =>
            cases product symbol rfl
            exact .sign
        | false =>
            simp only [inPrefixPosition] at prefixed
            split at prefixed
            · rename_i o meant
              exact .operator meant (by simpa using prefixed)
            · cases prefixed
    | _ => cases prefixed

theorem operandEnds_of_not_prefix (known : t.Known)
    (behind : inPrefixPosition (some t) = false) : OperandEnds t := by
  cases t with
  | number value => exact .number value
  | constant name => exact .constant name
  | var name => exact .var name
  | function name => exact .function name
  | rparen => exact .rparen
  | lparen | comma => cases behind
  | operator symbol unary =>
      cases unary with
      | true => cases behind
      | false =>
          rcases symbol_cases known with rfl | ⟨level, written⟩
          · exact .factorial
          · rw [inPrefixPosition_of_written written] at behind
            cases behind

/-! ## Operators in place -/

/-- What an operator has in front of it. -/
def Token.PlacedBehind (front : List Token) : Token → Prop
  | operator symbol true =>
      symbol = "×" ∧ ∃ earlier, front = earlier ++ [.number (-1.0)] ∧
        OperandBegins earlier.getLast?
  | operator symbol false =>
      symbol = "+" ∨ symbol ∈ minusSigns → ∃ t, front.getLast? = some t ∧ OperandEnds t
  | _ => True

/-- Every operator has in front of it what it is to have. -/
def Placed (ts : List Token) : Prop :=
  ∀ front t behind, ts = front ++ t :: behind → t.PlacedBehind front

theorem placed_nil : Placed [] := fun front t behind split => by simp at split

theorem Placed.snoc (placed : Placed ts) (next : t.PlacedBehind ts) : Placed (ts ++ [t]) := by
  intro front u behind split
  rcases List.eq_nil_or_concat behind with rfl | ⟨between, last, rfl⟩
  · obtain ⟨rfl, same⟩ := List.append_inj' split rfl
    cases same
    exact next
  · rw [List.concat_eq_append, ← List.cons_append, ← List.append_assoc] at split
    exact placed front u between (List.append_inj' split rfl).1

/-- The last token has its own in front of it. -/
theorem Placed.product (placed : Placed ts)
    (last : ts.getLast? = some (.operator symbol true)) : symbol = "×" := by
  obtain ⟨front, rfl⟩ := List.getLast?_eq_some_iff.1 last
  exact (placed front (.operator symbol true) [] rfl).1

/-- The tokens of an operator's lexeme. -/
theorem Placed.operator (placed : Placed ts) (known : ∀ t ∈ ts, t.Known) (text : List Char) :
    Placed (ts ++ Lexeme.tokens ⟨.operator, text⟩ ts.getLast?) := by
  rw [Lexeme.tokens]
  dsimp only
  cases prefixed : inPrefixPosition ts.getLast? with
  | true =>
      have begins := operandBegins_of_prefix prefixed fun _ => placed.product
      rw [if_pos rfl]
      by_cases minus : String.ofList text ∈ minusSigns
      · have number : Placed (ts ++ [.number (-1.0)]) := placed.snoc trivial
        have sign : Placed (ts ++ [.number (-1.0)] ++ [.signProduct]) :=
          number.snoc ⟨rfl, ts, rfl, begins⟩
        rw [if_pos minus]
        rwa [List.append_assoc] at sign
      · rw [if_neg minus]
        by_cases plus : String.ofList text = "+"
        · rwa [if_pos plus, List.append_nil]
        · rw [if_neg plus]
          exact placed.snoc fun sign => absurd sign (not_or.2 ⟨plus, minus⟩)
  | false =>
      rw [if_neg Bool.false_ne_true]
      refine placed.snoc fun _ => ?_
      cases last : ts.getLast? with
      | none =>
          rw [last] at prefixed
          cases prefixed
      | some t =>
          rw [last] at prefixed
          exact ⟨t, rfl, operandEnds_of_not_prefix (known t (List.mem_of_getLast? last)) prefixed⟩

theorem Placed.lexeme (placed : Placed ts) (known : ∀ t ∈ ts, t.Known) (l : Lexeme) :
    Placed (ts ++ l.tokens ts.getLast?) := by
  obtain ⟨kind, text⟩ := l
  cases kind with
  | operator => exact placed.operator known text
  | number =>
      rw [Lexeme.tokens]
      cases Text.Numeral.double? text with
      | none => exact (List.append_nil ts).symm ▸ placed
      | some x => exact placed.snoc trivial
  | _ => exact placed.snoc trivial

theorem placed_tokensAfter {ls : List Lexeme} (spelled : ∀ l ∈ ls, l.kind.Spells l.text) :
    Placed (tokensAfter none ls) := by
  induction ls using List.reverseRecOn with
  | nil => exact placed_nil
  | append_singleton front l ih =>
      have earlier : ∀ m ∈ front, m.kind.Spells m.text := fun m inside =>
        spelled m (List.mem_append_left _ inside)
      have placed := (ih earlier).lexeme (known_tokensAfter earlier none) l
      rwa [tokensAfter_append, Option.or_none, tokensAfter, tokensAfter, List.append_nil]

/-! ## Readings -/

theorem placed_ofText (strict : Bool) (text : String) :
    Placed (Reading.ofText strict text).tokens := by
  obtain ⟨ls, spelled, tokens, -⟩ := Reading.tokens_ofText Digits.agree_table strict text
  exact tokens ▸ placed_tokensAfter spelled

/-- A reading that gets past some pieces goes on after the last token they have. -/
theorem Reading.tokens_append {previous : Option Token} {before : List Piece}
    (read : ∀ l, .lexeme l ∈ before → l.isUnread = false)
    (passed : (ofPieces strict previous before).refused = none) (after : List Piece) :
    (ofPieces strict previous (before ++ after)).tokens =
      (ofPieces strict previous before).tokens ++
        (ofPieces strict ((ofPieces strict previous before).tokens.getLast?.or previous)
          after).tokens := by
  induction before generalizing previous with
  | nil => rfl
  | cons p before ih =>
      have later := fun m inside => read m (List.mem_cons_of_mem p inside)
      cases p with
      | lexeme l =>
          have here := read l List.mem_cons_self
          rw [ofPieces_cons previous here] at passed ⊢
          rw [List.cons_append, ofPieces_cons previous here]
          dsimp only at passed ⊢
          rw [ih later passed, List.append_assoc, List.getLast?_append, Option.or_assoc]
      | skipped c =>
          cases strict with
          | true => cases passed
          | false => exact ih later passed

/-- **A plus or a minus where an operand begins is a sign, and no other is.**  In the tokens
of every reading, the product of a sign has the number `-1` in front, where an operand begins;
a plus or a minus that is an operator has the end of an operand in front.  Conversely, at
every operator that a reading gets to and where an operand begins, a minus becomes the number
and the product, and a plus no token at all. -/
theorem signs_in_place (strict : Bool) (text : String) :
    (∀ front symbol behind,
        (Reading.ofText strict text).tokens = front ++ .operator symbol true :: behind →
        symbol = "×" ∧ ∃ earlier, front = earlier ++ [.number (-1.0)] ∧
          OperandBegins earlier.getLast?) ∧
      (∀ front symbol behind,
        (Reading.ofText strict text).tokens = front ++ .operator symbol false :: behind →
        symbol = "+" ∨ symbol ∈ minusSigns →
          ∃ t, front.getLast? = some t ∧ OperandEnds t ∧ ¬ OperandBegins (some t)) ∧
      ∀ before sign after,
        pieces (Text.squeeze text.toList) = before ++ .lexeme ⟨.operator, sign⟩ :: after →
        (Reading.ofPieces strict none before).refused = none →
        OperandBegins (Reading.ofPieces strict none before).tokens.getLast? →
          (String.ofList sign ∈ minusSigns →
            (Reading.ofText strict text).tokens =
              (Reading.ofPieces strict none before).tokens ++
                [.number (-1.0), .signProduct] ++
                (Reading.ofPieces strict (some .signProduct) after).tokens) ∧
          (String.ofList sign = "+" →
            (Reading.ofText strict text).tokens =
              (Reading.ofPieces strict none before).tokens ++
                (Reading.ofPieces strict (Reading.ofPieces strict none before).tokens.getLast?
                  after).tokens) := by
  have placed := placed_ofText strict text
  refine ⟨fun front symbol behind split => placed front _ behind split,
    fun front symbol behind split sign => ?_, fun before sign after split passed begins => ?_⟩
  · obtain ⟨t, last, ends⟩ := placed front _ behind split sign
    exact ⟨t, last, ends, ends.not_begins⟩
  · have prefixed := begins.inPrefixPosition
    have read : ∀ l, .lexeme l ∈ before → l.isUnread = false := fun l inside =>
      isUnread_of_mem_pieces Digits.agree_table l (split ▸ List.mem_append_left _ inside)
    rw [Reading.ofText, split, Reading.tokens_append read passed, Option.or_none,
      Reading.ofPieces_cons _ rfl, Lexeme.tokens]
    dsimp only
    refine ⟨fun minus => ?_, fun plus => ?_⟩
    · rw [if_pos prefixed, if_pos minus, List.append_assoc]
      rfl
    · rw [if_pos prefixed, plus]
      rfl

/-- A lenient reading of `3!-1*-#+x`: the first minus is an operator, the second a sign, and so
is the plus behind it, with a character skipped between the two. -/
theorem signs_in_place_mixed :
    (∃ earlier,
        [.number 3.0, .operator "!" false, .operator "-" false, .number 1.0, .operator "*" false,
          .number (-1.0)] = earlier ++ [.number (-1.0)] ∧ OperandBegins earlier.getLast?) ∧
      (∃ t, [.number 3.0, .operator "!" false].getLast? = some t ∧ OperandEnds t ∧
        ¬ OperandBegins (some t)) ∧
      (Reading.ofText false "3!-1*-#+x").tokens =
        (Reading.ofPieces false none (pieces "3!-1*".toList)).tokens ++
          [.number (-1.0), .signProduct] ++
          (Reading.ofPieces false (some .signProduct) (pieces "#+x".toList)).tokens ∧
      (Reading.ofText false "3!-1*-#+x").tokens =
        (Reading.ofPieces false none (pieces "3!-1*-#".toList)).tokens ++
          (Reading.ofPieces false
            (Reading.ofPieces false none (pieces "3!-1*-#".toList)).tokens.getLast?
            (pieces "x".toList)).tokens := by
  obtain ⟨signs, operators, converse⟩ := signs_in_place false "3!-1*-#+x"
  have tokens : (Reading.ofText false "3!-1*-#+x").tokens =
      [.number 3.0, .operator "!" false, .operator "-" false, .number 1.0, .operator "*" false,
        .number (-1.0)] ++ .signProduct :: [.var "X"] := by
    decide +kernel
  have minus : pieces (Text.squeeze "3!-1*-#+x".toList) =
      pieces "3!-1*".toList ++ .lexeme ⟨.operator, ['-']⟩ :: pieces "#+x".toList := by
    decide +kernel
  have plus : pieces (Text.squeeze "3!-1*-#+x".toList) =
      pieces "3!-1*-#".toList ++ .lexeme ⟨.operator, ['+']⟩ :: pieces "x".toList := by
    decide +kernel
  have factor : (Reading.ofPieces false none (pieces "3!-1*".toList)).tokens.getLast? =
      some (.operator "*" false) := by
    decide +kernel
  have product : (Reading.ofPieces false none (pieces "3!-1*-#".toList)).tokens.getLast? =
      some .signProduct := by
    decide +kernel
  exact ⟨(signs _ _ _ tokens).2, operators _ "-" _ tokens (.inr (by decide)),
    (converse _ _ _ minus (by decide +kernel) (factor ▸ .operator rfl rfl)).1 (by decide),
    (converse _ _ _ plus (by decide +kernel) (product ▸ .sign)).2 rfl⟩

end SciCalc.Syntax
