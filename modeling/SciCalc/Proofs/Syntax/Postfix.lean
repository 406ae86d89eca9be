/-
# SciCalc.Proofs.Syntax.Postfix -- infix order read back as postfix order

The yard puts the tokens of every expression of the grammar into the postfix order of
its tree (`toPostfix_tokens`).  The work is in the statement for an expression in the
middle of others (`reads_of_fits`): read from a yard whose stack is `Ready` for its
level, it leaves the stack and the groups below as they were, sends its tokens out,
and holds back some operators of its own, its `pending` ones, which are as tight as
its level and come last in its postfix order.

Two facts about how operators bind carry the induction, both stated for all levels at
once: an operator sends out everything pending of its left operand
(`Operation.yieldsTo_leftOperand`), and nothing in its right operand sends the
operator itself (`Operation.yieldsTo_rightOperand`).
-/
import SciCalc.Syntax.Expr
import SciCalc.Syntax.Yard

namespace SciCalc.Syntax

set_option autoImplicit false

/-! ## Levels and precedence -/

namespace Level

/-- The precedence of the operators written at a level. -/
def rank : Level → Nat
  | sum => 1
  | product => 2
  | power => 3
  | primary => 4

/-- The level of the left operands of a level's operators. -/
def leftOperand : Level → Level
  | sum => sum
  | product => product
  | power | primary => primary

/-- The level of the right operands of a level's operators. -/
def rightOperand : Level → Level
  | sum => product
  | product | power => power
  | primary => primary

/-- An operator that can be pending in an expression of a level: it waits for an operand
and binds at least as tightly as the level. -/
def Pending (level : Level) (t : Token) : Prop :=
  ∃ o : Operation, t.operation? = some o ∧ o.postfixed = false ∧ level.rank ≤ o.precedence

theorem Pending.loosen {tight loose : Level} {t : Token} (pending : tight.Pending t)
    (le : loose.rank ≤ tight.rank) : loose.Pending t := by
  obtain ⟨o, known, waits, bound⟩ := pending
  exact ⟨o, known, waits, Nat.le_trans le bound⟩

/-- Nothing is pending in a primary expression. -/
theorem not_pending_primary (t : Token) : ¬ primary.Pending t := by
  rintro ⟨o, -, waits, bound⟩
  cases o <;> revert waits bound <;> decide

end Level

namespace Operation

variable {o other : Operation} {level : Level}

/-- The level at which an operation of two operands is written between them. -/
def level? : Operation → Option Level
  | add | sub => some .sum
  | mul | div | rem => some .product
  | pow => some .power
  | factorial | negation => none

/-- The symbols of a level are those of its operations. -/
theorem symbolLevel?_eq (symbol : String) :
    symbolLevel? symbol = (ofSymbol? symbol).bind level? := by
  rw [symbolLevel?.eq_def]
  split
  case h_10 =>
    by_cases last : symbol = "!"
    · rw [last]
      rfl
    · have unknown : ofSymbol? symbol = none := List.lookup_eq_none_iff.2 (by simp_all [symbols])
      rw [unknown]
      rfl
  all_goals rfl

theorem rank_eq_precedence (written : o.level? = some level) : level.rank = o.precedence := by
  cases o <;> cases level <;> first | rfl | cases written

theorem not_postfixed (written : o.level? = some level) : o.postfixed = false := by
  cases o <;> first | rfl | cases written

theorem rank_le_leftOperand (level : Level) : level.rank ≤ level.leftOperand.rank := by
  cases level <;> decide

theorem rank_le_rightOperand (level : Level) : level.rank ≤ level.rightOperand.rank := by
  cases level <;> decide

/-- An operator leaves the operand between them to what is pending on its left. -/
theorem yieldsTo_leftOperand (written : o.level? = some level)
    (waits : other.postfixed = false) (tight : level.leftOperand.rank ≤ other.precedence) :
    o.yieldsTo other = true := by
  cases o <;> cases written <;> cases other <;> revert waits tight <;> decide

/-- No operator of a right operand leaves the operand between them to the operator. -/
theorem yieldsTo_rightOperand (written : o.level? = some level)
    (waits : other.postfixed = false) (tight : level.rightOperand.rank ≤ other.precedence) :
    other.yieldsTo o = false := by
  cases o <;> cases written <;> cases other <;> revert waits tight <;> decide

/-- No operator of a power leaves the operand between them to a sign on its left. -/
theorem yieldsTo_negation (waits : other.postfixed = false)
    (tight : Level.power.rank ≤ other.precedence) : other.yieldsTo negation = false := by
  cases other <;> revert waits tight <;> decide

end Operation

/-! ## Reading a stretch of tokens -/

namespace Yard

/-- Reading tokens in one state ends in another. -/
def Reads (y : Yard) (ts : List Token) (z : Yard) : Prop := ts.foldlM step y = .ok z

theorem reads_nil (y : Yard) : y.Reads [] y := rfl

theorem Reads.cons {x y z : Yard} {t : Token} {ts : List Token} (first : x.step t = .ok y)
    (rest : y.Reads ts z) : x.Reads (t :: ts) z := by
  rw [Reads, List.foldlM_cons, first]
  exact rest

theorem Reads.append {x y z : Yard} {ts us : List Token} (first : x.Reads ts y)
    (rest : y.Reads us z) : x.Reads (ts ++ us) z := by
  rw [Reads, List.foldlM_append, first]
  exact rest

/-- A stack on which an expression of a level can be read: no operator of the expression
sends out the token on top, and no parenthesis of it takes the top for its function. -/
structure Ready (level : Level) (held : List Token) : Prop where
  kept : ∀ o : Operation, o.postfixed = false → level.rank ≤ o.precedence →
    ∀ t ∈ held.head?, sends o t = false
  noCaller : callerOf held = none

theorem Ready.tighten {loose tight : Level} {held : List Token} (ready : Ready loose held)
    (le : loose.rank ≤ tight.rank) : Ready tight held :=
  ⟨fun o waits bound => ready.kept o waits (Nat.le_trans le bound), ready.noCaller⟩

/-- Nothing has to be cleared away at the beginning of an expression. -/
theorem ready_nil (level : Level) : Ready level [] :=
  ⟨fun _ _ _ _ inside => by simp at inside, rfl⟩

theorem ready_lparen (level : Level) (held : List Token) : Ready level (.lparen :: held) := by
  refine ⟨fun o _ _ t inside => ?_, rfl⟩
  obtain rfl : Token.lparen = t := by simpa using inside
  rfl

/-- Behind an operator stands an expression whose operators do not send it out. -/
theorem ready_operator {level : Level} {held : List Token} {symbol : String} {unary : Bool}
    {o : Operation} (known : Token.operationOf? symbol unary = some o)
    (keeps : ∀ other : Operation, other.postfixed = false → level.rank ≤ other.precedence →
      other.yieldsTo o = false) :
    Ready level (.operator symbol unary :: held) := by
  refine ⟨fun other waits bound t inside => ?_, rfl⟩
  obtain rfl : Token.operator symbol unary = t := by simpa using inside
  simpa [sends, Token.operation?, known] using keeps other waits bound

/-- What reading an expression of a level does: `sent` goes out, `pending` is held back,
and together they are the expression in postfix order. -/
def ReadsAs (level : Level) (y : Yard) (e : Expr) : Prop :=
  ∃ pending sent : List Token,
    y.Reads e.tokens ⟨sent ++ y.output, pending ++ y.held, y.groups⟩ ∧
      (∀ t ∈ pending, level.Pending t) ∧ pending.reverse ++ sent = e.ordered.reverse

theorem ReadsAs.loosen {tight loose : Level} {y : Yard} {e : Expr} (reads : ReadsAs tight y e)
    (le : loose.rank ≤ tight.rank) : ReadsAs loose y e := by
  obtain ⟨pending, sent, run, bound, order⟩ := reads
  exact ⟨pending, sent, run, fun t inside => (bound t inside).loosen le, order⟩

/-- A primary expression has been sent out whole. -/
theorem ReadsAs.primary {y : Yard} {e : Expr} (reads : ReadsAs .primary y e) :
    y.Reads e.tokens ⟨e.ordered.reverse ++ y.output, y.held, y.groups⟩ := by
  obtain ⟨pending, sent, run, bound, order⟩ := reads
  have nothing : pending = [] :=
    List.eq_nil_iff_forall_not_mem.2 fun t inside => Level.not_pending_primary t (bound t inside)
  subst nothing
  rw [← order]
  simpa using run

theorem readsAs_of_reads {level : Level} {y : Yard} {e : Expr}
    (reads : y.Reads e.tokens ⟨e.ordered.reverse ++ y.output, y.held, y.groups⟩) :
    ReadsAs level y e :=
  ⟨[], e.ordered.reverse, reads, by simp, by simp⟩

/-! ## Operators -/

/-- An operator that waits sends out the pending operators it yields to, and stops at a
stack on which it keeps the top. -/
theorem step_operator {symbol : String} {unary : Bool} {o : Operation} {y : Yard}
    {pending held : List Token} (known : Token.operationOf? symbol unary = some o)
    (waits : o.postfixed = false) (stack : y.held = pending ++ held)
    (yields : ∀ t ∈ pending, sends o t = true) (stops : ∀ t ∈ held.head?, sends o t = false) :
    y.step (.operator symbol unary) =
      .ok ⟨pending.reverse ++ y.output, .operator symbol unary :: held, y.groups⟩ := by
  have stopped : held.takeWhile (sends o) = [] ∧ held.dropWhile (sends o) = held := by
    cases held with
    | nil => exact ⟨rfl, rfl⟩
    | cons t rest => simp [stops t (by simp)]
  simp only [step, known, operator, waits, Bool.false_eq_true, if_false, sendWhile, hold, stack,
    List.takeWhile_append_of_pos yields, List.dropWhile_append_of_pos yields, stopped.1, stopped.2,
    List.append_nil]

/-- An operator between two operands that are read as they should be. -/
theorem ReadsAs.binary {level : Level} {y : Yard} {symbol : String} {left right : Expr}
    (written : symbolLevel? symbol = some level) (ready : Ready level y.held)
    (leftReads : ∀ x : Yard, Ready level.leftOperand x.held → ReadsAs level.leftOperand x left)
    (rightReads : ∀ x : Yard, Ready level.rightOperand x.held →
      ReadsAs level.rightOperand x right) :
    ReadsAs level y (.binary symbol left right) := by
  rw [Operation.symbolLevel?_eq] at written
  obtain ⟨o, known, atLevel⟩ := Option.bind_eq_some_iff.1 written
  have waits := Operation.not_postfixed atLevel
  obtain ⟨before, first, leftRun, leftBound, leftOrder⟩ :=
    leftReads y (ready.tighten (Operation.rank_le_leftOperand level))
  let middle : Yard :=
    ⟨before.reverse ++ (first ++ y.output), .operator symbol false :: y.held, y.groups⟩
  have arrival : step ⟨first ++ y.output, before ++ y.held, y.groups⟩ (.operator symbol false) =
      .ok middle := by
    refine step_operator known waits rfl (fun t inside => ?_)
      (ready.kept o waits (Nat.le_of_eq (Operation.rank_eq_precedence atLevel)))
    obtain ⟨other, otherKnown, otherWaits, bound⟩ := leftBound t inside
    simp [sends, otherKnown, Operation.yieldsTo_leftOperand atLevel otherWaits bound]
  obtain ⟨after, second, rightRun, rightBound, rightOrder⟩ :=
    rightReads middle (ready_operator known fun _ => Operation.yieldsTo_rightOperand atLevel)
  refine ⟨after ++ [.operator symbol false], second ++ (before.reverse ++ first), ?_, ?_, ?_⟩
  · have run := leftRun.append (.cons arrival rightRun)
    simpa [middle, Expr.tokens] using run
  · intro t inside
    rcases List.mem_append.1 inside with later | own
    · exact (rightBound t later).loosen (Operation.rank_le_rightOperand level)
    · obtain rfl := List.mem_singleton.1 own
      exact ⟨o, known, waits, (Nat.le_of_eq (Operation.rank_eq_precedence atLevel))⟩
  · calc (after ++ [Token.operator symbol false]).reverse ++ (second ++ (before.reverse ++ first))
        = .operator symbol false :: (after.reverse ++ second) ++ (before.reverse ++ first) := by
          simp
      _ = (Expr.binary symbol left right).ordered.reverse := by
          rw [rightOrder, leftOrder]
          simp [Expr.ordered]

/-- A sign is the number `-1` and a product that is held until its operand is out. -/
theorem ReadsAs.negate {y : Yard} {operand : Expr} (ready : Ready .power y.held)
    (operandReads : ∀ x : Yard, Ready .power x.held → ReadsAs .power x operand) :
    ReadsAs .power y (.negate operand) := by
  have known : Token.operationOf? "×" true = some .negation := rfl
  let middle : Yard := ⟨.number (-1.0) :: y.output, .signProduct :: y.held, y.groups⟩
  have arrival : step (y.emit (.number (-1.0))) .signProduct = .ok middle :=
    step_operator known rfl (List.nil_append _).symm (by simp)
      (ready.kept .negation rfl (by decide))
  obtain ⟨after, second, run, bound, order⟩ :=
    operandReads middle (ready_operator known fun _ => Operation.yieldsTo_negation)
  refine ⟨after ++ [.signProduct], second ++ [.number (-1.0)], ?_, ?_, ?_⟩
  · have whole : y.Reads (.number (-1.0) :: .signProduct :: operand.tokens) _ :=
      .cons rfl (.cons arrival run)
    simpa [middle, Expr.tokens] using whole
  · intro t inside
    rcases List.mem_append.1 inside with later | own
    · exact bound t later
    · obtain rfl := List.mem_singleton.1 own
      exact ⟨.negation, known, rfl, by decide⟩
  · calc (after ++ [Token.signProduct]).reverse ++ (second ++ [Token.number (-1.0)])
        = .signProduct :: (after.reverse ++ second) ++ [Token.number (-1.0)] := by simp
      _ = (Expr.negate operand).ordered.reverse := by
          rw [order]
          simp [Expr.ordered]

/-! ## Parentheses -/

/-- Behind the parenthesis of a group, an inner expression goes out whole when the next
comma or closing parenthesis sends out what is above the opening one. -/
theorem Reads.sendInner {x : Yard} {e : Expr} {held : List Token} (stack : x.held = .lparen :: held)
    (reads : ReadsAs .sum x e) :
    ∃ y : Yard, x.Reads e.tokens y ∧
      y.sendInner = ⟨e.ordered.reverse ++ x.output, x.held, x.groups⟩ := by
  obtain ⟨pending, sent, run, bound, order⟩ := reads
  have above : ∀ t ∈ pending, (!t.isLParen) = true := by
    intro t inside
    obtain ⟨o, known, -, -⟩ := bound t inside
    cases t with
    | lparen => cases known
    | _ => rfl
  refine ⟨_, run, ?_⟩
  simp only [Yard.sendInner, sendWhile, stack, List.takeWhile_append_of_pos above,
    List.dropWhile_append_of_pos above]
  rw [← order]
  simp [Token.isLParen]

/-- A group of its own, with one expression inside. -/
theorem ReadsAs.group {level : Level} {y : Yard} {inner : Expr} (ready : Ready level y.held)
    (innerReads : ∀ x : Yard, Ready .sum x.held → ReadsAs .sum x inner) :
    ReadsAs level y (.group inner) := by
  let opened : Yard := ⟨y.output, .lparen :: y.held, ⟨none, 0⟩ :: y.groups⟩
  have opening : y.step .lparen = .ok opened := by
    simp [step, openGroup, ready.noCaller, opened]
  obtain ⟨z, run, sent⟩ := Reads.sendInner rfl (innerReads opened (ready_lparen _ _))
  have closing : z.step .rparen = .ok ⟨inner.ordered.reverse ++ y.output, y.held, y.groups⟩ := by
    simp [step, rparen, sent, closeGroup, opened]
  exact readsAs_of_reads (.cons opening (run.append (.cons closing (reads_nil _))))

/-- A call: the function is held below its parenthesis and goes out behind its argument. -/
theorem ReadsAs.call {level : Level} {y : Yard} {name : String} {f : Fn} {argument : Expr}
    (known : Fn.ofName? name = some f) (takesOne : f.arity = 1)
    (argumentReads : ∀ x : Yard, Ready .sum x.held → ReadsAs .sum x argument) :
    ReadsAs level y (.call name argument) := by
  let opened : Yard := ⟨y.output, .lparen :: .function name :: y.held, ⟨some name, 0⟩ :: y.groups⟩
  obtain ⟨z, run, sent⟩ := Reads.sendInner rfl (argumentReads opened (ready_lparen _ _))
  have closing : z.step .rparen =
      .ok ⟨.function name :: (argument.ordered.reverse ++ y.output), y.held, y.groups⟩ := by
    simp [step, rparen, sent, closeGroup, opened, known, takesOne]
  have whole : y.Reads (Expr.call name argument).tokens _ :=
    .cons rfl (.cons rfl (run.append (.cons closing (reads_nil _))))
  exact readsAs_of_reads (by simpa [Expr.ordered] using whole)

/-- A call with two arguments, between which the comma is counted. -/
theorem ReadsAs.callPair {level : Level} {y : Yard} {name : String} {f : Fn}
    {first second : Expr} (known : Fn.ofName? name = some f) (takesTwo : f.arity = 2)
    (firstReads : ∀ x : Yard, Ready .sum x.held → ReadsAs .sum x first)
    (secondReads : ∀ x : Yard, Ready .sum x.held → ReadsAs .sum x second) :
    ReadsAs level y (.callPair name first second) := by
  let opened : Yard := ⟨y.output, .lparen :: .function name :: y.held, ⟨some name, 0⟩ :: y.groups⟩
  obtain ⟨z, firstRun, firstSent⟩ := Reads.sendInner rfl (firstReads opened (ready_lparen _ _))
  let between : Yard :=
    ⟨first.ordered.reverse ++ y.output, opened.held, ⟨some name, 1⟩ :: y.groups⟩
  have comma : z.step .comma = .ok between := by
    simp [step, Yard.comma, firstSent, opened, between]
  obtain ⟨w, secondRun, secondSent⟩ :=
    Reads.sendInner rfl (secondReads between (ready_lparen _ _))
  have closing : w.step .rparen =
      .ok ⟨.function name :: (second.ordered.reverse ++ between.output), y.held, y.groups⟩ := by
    simp [step, rparen, secondSent, closeGroup, opened, between, known, takesTwo]
  have whole : y.Reads (Expr.callPair name first second).tokens _ :=
    .cons rfl (.cons rfl
      ((firstRun.append (.cons comma secondRun)).append (.cons closing (reads_nil _))))
  exact readsAs_of_reads (by simpa [Expr.ordered, between] using whole)

/-! ## Whole expressions -/

/-- **Reading an expression between others.**  By induction on its derivation. -/
theorem reads_of_fits {level : Level} {e : Expr} (fits : Expr.Fits level e) :
    ∀ y : Yard, Ready level y.held → ReadsAs level y e := by
  induction fits with
  | sum written _ _ leftReads rightReads =>
      exact fun y ready => .binary written ready leftReads rightReads
  | product written _ _ leftReads rightReads =>
      exact fun y ready => .binary written ready leftReads rightReads
  | power written _ _ leftReads rightReads =>
      exact fun y ready => .binary written ready leftReads rightReads
  | ofProduct _ ih | ofPower _ ih | ofPrimary _ ih =>
      exact fun y ready => (ih y (ready.tighten (by decide))).loosen (by decide)
  | negate _ ih => exact fun y ready => .negate ready ih
  | @factorial operand _ ih =>
      intro y ready
      let complete : Yard := ⟨operand.ordered.reverse ++ y.output, y.held, y.groups⟩
      have arrival : complete.step (.operator factorialSymbol false) =
          .ok (complete.emit (.operator factorialSymbol false)) := rfl
      have whole := (ih y ready).primary.append (.cons arrival (reads_nil _))
      exact readsAs_of_reads (by
        simpa [Expr.tokens, Expr.ordered, emit, complete] using whole)
  | number | constant | var => exact fun y _ => readsAs_of_reads rfl
  | group _ ih => exact fun y ready => .group ready ih
  | call known takesOne _ ih => exact fun y _ => .call known takesOne ih
  | callPair known takesTwo _ _ firstReads secondReads =>
      exact fun y _ => .callPair known takesTwo firstReads secondReads

/-- An expression leaves nothing open, and what it leaves pending is the rest of its postfix
order. -/
theorem ends_of_fits {e : Expr} (fits : Expr.Fits .sum e) :
    ∃ y, e.tokens.foldlM step start = .ok y ∧ y.finish = .ok e.ordered := by
  obtain ⟨pending, sent, run, bound, order⟩ := reads_of_fits fits start (ready_nil _)
  have closed : pending.any Token.isParen = false := by
    rw [List.any_eq_false]
    intro t inside
    obtain ⟨o, known, -, -⟩ := bound t inside
    cases t with
    | lparen | rparen => cases known
    | _ => simp [Token.isParen]
  refine ⟨⟨sent, pending, []⟩, by simpa [Reads, start] using run, ?_⟩
  rw [finish, closed, order, List.reverse_reverse]
  rfl

end Yard

/-- **Every expression of the grammar is read as its tree says**: its tokens in infix
order are put into the postfix order of the tree. -/
theorem toPostfix_tokens {e : Expr} (fits : Expr.Fits .sum e) :
    toPostfix e.tokens = .ok e.ordered := by
  obtain ⟨y, run, ended⟩ := Yard.ends_of_fits fits
  rw [toPostfix, run]
  exact ended

/-- `2^-2*3−nCr(-X!^2,(sin(π)))`: a sign behind a power, a sign in front of one, and a
group inside a call. -/
def Expr.mixed : Expr :=
  .binary "−"
    (.binary "*" (.binary "^" (.number 2.0) (.negate (.number 2.0))) (.number 3.0))
    (.callPair "nCr" (.negate (.binary "^" (.factorial (.var "X")) (.number 2.0)))
      (.group (.call "sin" (.constant "π"))))

theorem Expr.fits_mixed : Fits .sum mixed := by
  have first : Fits .product (.binary "*" (.binary "^" (.number 2.0) (.negate (.number 2.0)))
      (.number 3.0)) :=
    .product rfl (.ofPower (.power rfl (.number 2.0) (.negate (.ofPrimary (.number 2.0)))))
      (.ofPrimary (.number 3.0))
  have argument : Fits .sum (.negate (.binary "^" (.factorial (.var "X")) (.number 2.0))) :=
    .ofProduct (.ofPower (.negate
      (.power rfl (.factorial (.var "X")) (.ofPrimary (.number 2.0)))))
  have call : Fits .primary (.call "sin" (.constant "π")) :=
    .call rfl rfl (.ofProduct (.ofPower (.ofPrimary (.constant rfl))))
  have group : Fits .sum (.group (.call "sin" (.constant "π"))) :=
    .ofProduct (.ofPower (.ofPrimary (.group (.ofProduct (.ofPower (.ofPrimary call))))))
  exact .sum rfl (.ofProduct first) (.ofPower (.ofPrimary (.callPair rfl rfl argument group)))

theorem toPostfix_mixed : Expr.Fits .sum Expr.mixed ∧
    toPostfix Expr.mixed.tokens =
      .ok [.number 2.0, .number (-1.0), .number 2.0, .signProduct, .operator "^" false,
        .number 3.0, .operator "*" false, .number (-1.0), .var "X", .operator "!" false,
        .number 2.0, .operator "^" false, .signProduct, .constant "π", .function "sin",
        .function "nCr", .operator "−" false] :=
  ⟨Expr.fits_mixed, toPostfix_tokens Expr.fits_mixed⟩

end SciCalc.Syntax
