/-
# SciCalc.Proofs.Syntax.Parenthesized -- what stands in parentheses is read as if alone

Three things could reach over a parenthesis, and none does.

* A lexeme: no spelling goes on with a parenthesis, nor does one begin behind a character that
  is skipped (`Splits.append`).
* The meaning of a sign: behind an opening parenthesis it is that at the beginning
  (`tokensAfter_congr`).
* The stack: a step that succeeds looks at nothing below the innermost parenthesis that was
  open before (`Yard.step_above`).  So the closing parenthesis sends out what the end of the
  input would (`Yard.reads_parenthesized`), also functions that were never called.
-/
import SciCalc.Proofs.Syntax.ParseFault
import SciCalc.Proofs.Syntax.Postfix
import SciCalc.Proofs.Syntax.WrittenText

namespace SciCalc.Syntax

set_option autoImplicit false

/-! ## Pieces side by side -/

section Pieces

variable {text rest : List Char} {ps qs : List Piece}

/-- A text falls into the same pieces whatever follows it, if that begins with a mark. -/
theorem Splits.append (front : Splits text ps) (ended : Ended rest) (behind : Splits rest qs) :
    Splits (text ++ rest) (ps ++ qs) := by
  induction front with
  | nil => exact behind
  | @lexeme l more _ leads _ ih =>
      have nonempty : l.text ++ more ≠ [] :=
        List.append_ne_nil_of_left_ne_nil leads.spelled.ne_nil more
      have whole := leads.append nonempty ended
      rw [List.append_assoc] at whole ⊢
      exact .lexeme whole ih
  | skipped unled _ ih => exact .skipped (unled.append (List.cons_ne_nil _ _) ended) ih

/-- A text that is read has pieces, all of them lexemes if the reading is strict, and the tokens
are theirs. -/
theorem tokenize_eq_ok_iff {strict : Bool} {text : String} {ts : List Token} :
    (tokenize strict text).outcome = .ok ts ↔
      ∃ ps, Splits (Text.squeeze text.toList) ps ∧
        (strict = true → ∃ ls : List Lexeme, ps = ls.map .lexeme) ∧
        ts = tokensAfter none (ps.filterMap Piece.lexeme?) := by
  have lexemes (ls : List Lexeme) : (ls.map Piece.lexeme).filterMap Piece.lexeme? = ls := by
    rw [List.filterMap_map]
    exact List.filterMap_some
  cases strict with
  | false =>
      rw [outcome_tokenize_lenient]
      constructor
      · intro read
        exact ⟨_, splits_pieces _, fun strict => (Bool.noConfusion strict), (Except.ok.inj read).symm⟩
      · rintro ⟨ps, splits, -, rfl⟩
        rw [splits.eq_pieces]
  | true =>
      constructor
      · intro read
        rcases Piece.all_or_first (pieces (Text.squeeze text.toList)) with
          ⟨ls, all⟩ | ⟨front, c, behind, first⟩
        · have splits := splits_pieces (Text.squeeze text.toList)
          rw [all] at splits
          rw [tokenize_of_splits splits] at read
          exact ⟨_, splits, fun _ => ⟨ls, rfl⟩, by rw [lexemes]; exact (Except.ok.inj read).symm⟩
        · rw [tokenize, ofText_strict Digits.agree_table first] at read
          cases read
      · rintro ⟨ps, splits, all, rfl⟩
        obtain ⟨ls, rfl⟩ := all rfl
        rw [tokenize_of_splits splits, lexemes]

/-- What comes before lexemes matters only by the position that it puts them in. -/
theorem tokensAfter_congr {before other : Option Token} (ls : List Lexeme)
    (same : inPrefixPosition before = inPrefixPosition other) :
    tokensAfter before ls = tokensAfter other ls := by
  induction ls generalizing before other with
  | nil => rfl
  | cons l ls ih =>
      have tokens : l.tokens before = l.tokens other := by
        simp only [Lexeme.tokens, same]
      rw [tokensAfter, tokensAfter, tokens]
      congr 1
      refine ih ?_
      cases (l.tokens other).getLast? with
      | none => exact same
      | some t => rfl

/-- Parentheses around a text are pieces of their own. -/
theorem Splits.parenthesized (inside : Splits text ps) (behind : Splits rest qs) :
    Splits ('(' :: text ++ ')' :: rest)
      (.lexeme ⟨.lparen, ['(']⟩ :: ps ++ .lexeme ⟨.rparen, [')']⟩ :: qs) :=
  .mark (c := '(') rfl (inside.append (ended_mark rfl) (.mark (c := ')') rfl behind))

/-- Lexemes in parentheses have the tokens that they have at the beginning. -/
theorem tokensAfter_parenthesized (before : Option Token) (ls : List Lexeme) (behind : List Lexeme) :
    tokensAfter before (⟨.lparen, ['(']⟩ :: ls ++ ⟨.rparen, [')']⟩ :: behind) =
      .lparen :: tokensAfter none ls ++ .rparen :: tokensAfter (some .rparen) behind := by
  have opened : Lexeme.tokens ⟨.lparen, ['(']⟩ before = [.lparen] := rfl
  have start : tokensAfter (some .lparen) ls = tokensAfter none ls := tokensAfter_congr ls rfl
  rw [List.cons_append, tokensAfter, opened, List.getLast?_singleton, Option.some_or,
    tokensAfter_append, start]
  rfl

end Pieces

/-! ## A yard on top of another -/

namespace Yard

variable {y z base : Yard} {t : Token} {ts ordered below : List Token}

/-- Output, stack and groups on top of those of another yard. -/
def above (y base : Yard) : Yard :=
  ⟨y.output ++ base.output, y.held ++ base.held, y.groups ++ base.groups⟩

theorem sendWhile_above {condition : Token → Bool} (floor : base.held = .lparen :: below)
    (stops : condition .lparen = false) :
    (y.above base).sendWhile condition = (y.sendWhile condition).above base := by
  have taken (held : List Token) :
      (held ++ base.held).takeWhile condition = held.takeWhile condition := by
    induction held with
    | nil => simp [floor, stops]
    | cons u held ih => simp only [List.cons_append, List.takeWhile_cons, ih]
  have dropped (held : List Token) :
      (held ++ base.held).dropWhile condition = held.dropWhile condition ++ base.held := by
    induction held with
    | nil => simp [floor, stops]
    | cons u held ih =>
        simp only [List.cons_append, List.dropWhile_cons, ih]
        split <;> rfl
  simp only [sendWhile, above, taken, dropped, List.append_assoc]

theorem comma_above (floor : base.held = .lparen :: below) (stepped : y.comma = .ok z) :
    (y.above base).comma = .ok (z.above base) := by
  rw [comma, sendInner] at stepped ⊢
  rw [sendWhile_above floor rfl]
  generalize y.sendWhile (!·.isLParen) = inner at stepped ⊢
  obtain ⟨output, held, groups⟩ := inner
  cases held with
  | nil => cases stepped
  | cons u held =>
      cases groups with
      | nil => cases stepped
      | cons group groups =>
          cases stepped
          rfl

theorem closeGroup_above {group : Group} (closed : y.closeGroup group = .ok z) :
    (y.above base).closeGroup group = .ok (z.above base) := by
  obtain ⟨output, held, groups⟩ := y
  simp only [closeGroup, above] at closed ⊢
  split at closed
  · split at closed
    · rw [if_pos ‹_›]
      cases closed
      rfl
    · cases closed
  · split at closed
    · cases closed
    · split at closed
      · rw [if_pos ‹_›]
        cases held with
        | nil => cases closed
        | cons t held =>
            cases closed
            rfl
      · cases closed

theorem rparen_above (floor : base.held = .lparen :: below) (stepped : y.rparen = .ok z) :
    (y.above base).rparen = .ok (z.above base) := by
  rw [rparen, sendInner] at stepped ⊢
  rw [sendWhile_above floor rfl]
  generalize y.sendWhile (!·.isLParen) = inner at stepped ⊢
  obtain ⟨output, held, groups⟩ := inner
  cases held with
  | nil => cases stepped
  | cons u held =>
      cases groups with
      | nil => cases stepped
      | cons group groups => exact closeGroup_above stepped

/-- A step that succeeds does the same on top of an open parenthesis. -/
theorem step_above (floor : base.held = .lparen :: below) (stepped : y.step t = .ok z) :
    (y.above base).step t = .ok (z.above base) := by
  cases t with
  | number _ | constant _ | var _ | function _ =>
      cases stepped
      rfl
  | operator symbol unary =>
      rw [step] at stepped ⊢
      cases entry : Token.operationOf? symbol unary with
      | none =>
          simp only [entry] at stepped
          cases stepped
      | some operation =>
          simp only [entry, operator] at stepped ⊢
          rw [sendWhile_above floor rfl]
          split at stepped
          · rw [if_pos ‹_›]
            cases stepped
            rfl
          · rw [if_neg ‹_›]
            cases stepped
            rfl
  | lparen =>
      cases stepped
      have caller : callerOf (y.held ++ base.held) = callerOf y.held := by
        rw [floor]
        cases y.held with
        | nil => rfl
        | cons u held => cases u <;> rfl
      simp only [step, openGroup, above, caller]
      rfl
  | rparen => exact rparen_above floor stepped
  | comma => exact comma_above floor stepped

theorem reads_cons : y.Reads (t :: ts) z ↔ ∃ x, y.step t = .ok x ∧ x.Reads ts z := by
  rw [Reads, List.foldlM_cons]
  exact bind_eq_ok

theorem reads_append {us : List Token} :
    y.Reads (ts ++ us) z ↔ ∃ x, y.Reads ts x ∧ x.Reads us z := by
  rw [Reads, List.foldlM_append]
  exact bind_eq_ok

theorem Sound.of_reads (sound : y.Sound) (known : ∀ t ∈ ts, t.Known) (reads : y.Reads ts z) :
    z.Sound := by
  have orderly := orderly_foldlM sound known
  rwa [show ts.foldlM step y = .ok z from reads] at orderly

theorem Reads.above (floor : base.held = .lparen :: below) (reads : y.Reads ts z) :
    (y.above base).Reads ts (z.above base) := by
  induction ts generalizing y with
  | nil =>
      cases reads
      exact reads_nil _
  | cons t ts ih =>
      obtain ⟨x, stepped, rest⟩ := reads_cons.1 reads
      exact .cons (step_above floor stepped) (ih rest)

/-- At the end of the input no group is open, and what waits goes out. -/
theorem finish_eq_ok (sound : y.Sound) (finished : y.finish = .ok ordered) :
    (∀ t ∈ y.held, t.isLParen = false) ∧ y.groups = [] ∧ ordered = y.output.reverse ++ y.held := by
  rw [finish] at finished
  split at finished
  · cases finished
  · rename_i closed
    have plain : ∀ t ∈ y.held, t.isLParen = false := by
      intro t inside
      cases t with
      | lparen => exact absurd (List.any_eq_true.2 ⟨_, inside, rfl⟩) closed
      | _ => rfl
    refine ⟨plain, ?_, ?_⟩
    · rcases sound.aligned.dropInner with ⟨-, none⟩ | ⟨rest, outer, commas, here, -, -⟩
      · exact none
      · have inside : Token.lparen ∈ y.held :=
          (List.dropWhile_sublist _).subset (here ▸ List.mem_cons_self)
        cases plain _ inside
    · cases finished
      simp

/-- **Tokens in parentheses send out what they send out alone**, wherever no function comes
directly before the opening parenthesis. -/
theorem reads_parenthesized (known : ∀ t ∈ ts, t.Known) (ends : toPostfix ts = .ok ordered)
    (noCaller : callerOf y.held = none) :
    y.Reads (.lparen :: ts ++ [.rparen]) ⟨ordered.reverse ++ y.output, y.held, y.groups⟩ := by
  obtain ⟨z, run, finished⟩ := bind_eq_ok.1 ends
  have sound : z.Sound := sound_start.of_reads known run
  obtain ⟨plain, closed, rfl⟩ := finish_eq_ok sound finished
  have floor : y.openGroup.held = .lparen :: y.held := rfl
  have inner : y.openGroup.Reads ts (z.above y.openGroup) := Reads.above floor run
  have sent : (z.above y.openGroup).sendInner =
      ⟨z.held.reverse ++ z.output ++ y.output, .lparen :: y.held, ⟨none, 0⟩ :: y.groups⟩ := by
    have all : ∀ t ∈ z.held, (!t.isLParen) = true := fun t inside => by simp [plain t inside]
    simp only [sendInner, sendWhile, above, openGroup, closed, noCaller,
      List.takeWhile_append_of_pos all, List.dropWhile_append_of_pos all]
    simp [Token.isLParen]
  have closing : (z.above y.openGroup).step .rparen =
      .ok ⟨(z.output.reverse ++ z.held).reverse ++ y.output, y.held, y.groups⟩ := by
    simp [step, rparen, sent, closeGroup]
  exact .cons rfl (inner.append (.cons closing (reads_nil _)))

end Yard

end SciCalc.Syntax
