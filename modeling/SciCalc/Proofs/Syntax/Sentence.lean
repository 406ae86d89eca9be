/-
# SciCalc.Proofs.Syntax.Sentence -- which tokens are an expression of the grammar

Tokens that the yard puts into postfix order are those of an expression of the grammar
exactly when every token stands in place (`derives_iff_inPlace`).

The grammar is read from left to right.  At each point the tokens so far either open an
operand, so that every expression behind them makes one of the whole (`Opens`), or are
complete; inside parentheses this holds of the tokens since the innermost one, around
which another operand is open (`Stands`).  What stands in place may add is decided by the
token before it (`Stage`), and each token takes one stage to the next (`Stage.step`).

An operator binds its operands by precedence wherever it stands, so what is behind it
need not be its own operand.  It is enough to look at the tightest ones: an operator and a
power behind it can be added to every sum (`Derives.binary`), and what is open for powers
is open for sums (`opens_of_power`).
-/
import SciCalc.Proofs.Syntax.Grouping
import SciCalc.Proofs.Syntax.Postfix

namespace SciCalc.Syntax

set_option autoImplicit false

variable {ts us front suffix : List Token} {level : Level} {symbol : String}

/-- Some expression of the level has these tokens. -/
def Derives (level : Level) (ts : List Token) : Prop := ∃ e : Expr, e.Fits level ∧ e.tokens = ts

namespace Derives

theorem ofProduct (product : Derives .product ts) : Derives .sum ts := by
  obtain ⟨e, fits, tokens⟩ := product
  exact ⟨e, .ofProduct fits, tokens⟩

theorem ofPower (power : Derives .power ts) : Derives .product ts := by
  obtain ⟨e, fits, tokens⟩ := power
  exact ⟨e, .ofPower fits, tokens⟩

theorem ofPrimary (primary : Derives .primary ts) : Derives .power ts := by
  obtain ⟨e, fits, tokens⟩ := primary
  exact ⟨e, .ofPrimary fits, tokens⟩

theorem negate (power : Derives .power ts) :
    Derives .power (.number (-1.0) :: .signProduct :: ts) := by
  obtain ⟨e, fits, rfl⟩ := power
  exact ⟨_, .negate fits, rfl⟩

/-! ## What can be added behind an expression

The last power of a sum is its tightest part on the right, and the last primary expression
that of a power. -/

theorem power_append (adds : ∀ ts, Derives .primary ts → Derives .power (ts ++ suffix)) :
    ∀ {e : Expr}, e.Fits .power → Derives .power (e.tokens ++ suffix)
  | _, .power written left right => by
      obtain ⟨e, fits, tokens⟩ := power_append adds right
      exact ⟨_, .power written left fits, by simp [Expr.tokens, tokens]⟩
  | _, .negate operand => (power_append adds operand).negate
  | _, .ofPrimary fits => adds _ ⟨_, fits, rfl⟩

theorem product_append (adds : ∀ ts, Derives .power ts → Derives .power (ts ++ suffix))
    (product : Derives .product ts) : Derives .product (ts ++ suffix) := by
  obtain ⟨e, fits, rfl⟩ := product
  cases fits with
  | product written left right =>
      obtain ⟨r, fits, tokens⟩ := adds _ ⟨_, right, rfl⟩
      exact ⟨_, .product written left fits, by simp [Expr.tokens, tokens]⟩
  | ofPower fits => exact (adds _ ⟨_, fits, rfl⟩).ofPower

theorem sum_append (adds : ∀ ts, Derives .product ts → Derives .product (ts ++ suffix))
    (sum : Derives .sum ts) : Derives .sum (ts ++ suffix) := by
  obtain ⟨e, fits, rfl⟩ := sum
  cases fits with
  | sum written left right =>
      obtain ⟨r, fits, tokens⟩ := adds _ ⟨_, right, rfl⟩
      exact ⟨_, .sum written left fits, by simp [Expr.tokens, tokens]⟩
  | ofProduct fits => exact (adds _ ⟨_, fits, rfl⟩).ofProduct

/-- What makes a power of a primary expression can stand behind any sum. -/
theorem sum_append_of_primary (adds : ∀ ts, Derives .primary ts → Derives .power (ts ++ suffix)) :
    Derives .sum ts → Derives .sum (ts ++ suffix) :=
  sum_append fun _ => product_append fun _ ⟨_, fits, tokens⟩ => tokens ▸ power_append adds fits

theorem factorial (sum : Derives .sum ts) :
    Derives .sum (ts ++ [.operator factorialSymbol false]) :=
  sum_append_of_primary (fun _ ⟨_, fits, tokens⟩ =>
    ⟨_, .ofPrimary (.factorial fits), by rw [Expr.tokens, tokens]⟩) sum

/-- An operator and a power can stand behind any sum. -/
theorem binary (written : symbolLevel? symbol = some level) (left : Derives .sum ts)
    (right : Derives .power us) : Derives .sum (ts ++ .operator symbol false :: us) := by
  obtain ⟨r, fits, rfl⟩ := right
  cases level with
  | sum =>
      obtain ⟨l, leftFits, rfl⟩ := left
      exact ⟨_, .sum written leftFits (.ofPower fits), rfl⟩
  | product =>
      refine sum_append ?_ left
      rintro _ ⟨l, leftFits, rfl⟩
      exact ⟨_, .product written leftFits fits, rfl⟩
  | power =>
      refine sum_append_of_primary ?_ left
      rintro _ ⟨l, leftFits, rfl⟩
      exact ⟨_, .power written leftFits fits, rfl⟩
  | primary =>
      rw [Operation.symbolLevel?_eq, Option.bind_eq_some_iff] at written
      obtain ⟨o, -, own⟩ := written
      cases o <;> cases own

end Derives

/-! ## What can be added in front of an expression -/

/-- Tokens after which an operand is missing: with any expression behind them they are one. -/
def Opens (front : List Token) : Prop := ∀ ts, Derives .sum ts → Derives .sum (front ++ ts)

theorem product_prepend (adds : ∀ ts, Derives .power ts → Derives .sum (front ++ ts)) :
    ∀ {e : Expr}, e.Fits .product → Derives .sum (front ++ e.tokens)
  | _, .product written left right => by
      have whole := (product_prepend adds left).binary written ⟨_, right, rfl⟩
      rwa [List.append_assoc] at whole
  | _, .ofPower fits => adds _ ⟨_, fits, rfl⟩

theorem sum_prepend (adds : ∀ ts, Derives .power ts → Derives .sum (front ++ ts)) :
    ∀ {e : Expr}, e.Fits .sum → Derives .sum (front ++ e.tokens)
  | _, .sum written left right => by
      obtain ⟨l, fits, tokens⟩ := sum_prepend adds left
      exact ⟨_, .sum written fits right, by simp [Expr.tokens, tokens]⟩
  | _, .ofProduct fits => product_prepend adds fits

/-- What is open for powers is open for sums: the operators behind the first power take what
is in front of them. -/
theorem opens_of_power (adds : ∀ ts, Derives .power ts → Derives .sum (front ++ ts)) :
    Opens front := by
  rintro _ ⟨e, fits, rfl⟩
  exact sum_prepend adds fits

theorem opens_nil : Opens [] := fun _ => id

theorem Opens.primary (opens : Opens front) (primary : Derives .primary ts) :
    Derives .sum (front ++ ts) :=
  opens ts primary.ofPrimary.ofPower.ofProduct

theorem opens_operator (written : symbolLevel? symbol = some level) (complete : Derives .sum ts) :
    Opens (ts ++ [.operator symbol false]) :=
  opens_of_power fun us power => by
    rw [List.append_assoc]
    exact complete.binary written power

theorem Opens.sign (opens : Opens front) : Opens (front ++ [.number (-1.0), .signProduct]) :=
  opens_of_power fun us power => by
    rw [List.append_assoc]
    exact opens _ power.negate.ofPower.ofProduct

/-! ## Open groups -/

/-- The beginning of an open group: its function, its parenthesis, and every argument that a
comma has ended. -/
inductive Begins : Group → List Token → Prop
  | start (caller : Option String) : Begins ⟨caller, 0⟩ (callerTokens caller ++ [.lparen])
  | argument {caller : Option String} {commas : Nat} {head ts : List Token}
      (opening : Begins ⟨caller, commas⟩ head) (complete : Derives .sum ts) :
      Begins ⟨caller, commas + 1⟩ (head ++ ts ++ [.comma])

/-- A group that closes without a fault is a primary expression. -/
theorem Begins.close {group : Group} {head : List Token} (opening : Begins group head)
    (fits : group.fault? = none) (complete : Derives .sum ts) :
    Derives .primary (head ++ ts ++ [.rparen]) := by
  obtain ⟨last, lastFits, rfl⟩ := complete
  obtain ⟨caller, commas⟩ := group
  cases caller with
  | none =>
      cases opening with
      | start => exact ⟨_, .group lastFits, rfl⟩
      | argument _ _ => simp [Group.fault?] at fits
  | some name =>
      obtain ⟨f, entry, count⟩ : ∃ f, Fn.ofName? name = some f ∧ commas + 1 = f.arity := by
        simp only [Group.fault?] at fits
        split at fits
        · cases fits
        · rename_i f entry
          split at fits
          · exact ⟨f, entry, ‹_›⟩
          · cases fits
      cases opening with
      | start => exact ⟨_, .call entry count.symm lastFits, by simp [Expr.tokens, callerTokens]⟩
      | argument opening first =>
          obtain ⟨e, firstFits, rfl⟩ := first
          have two : f.arity = 2 := by
            have := f.arity_eq_one_or_two
            omega
          cases opening with
          | start =>
              exact ⟨_, .callPair entry two firstFits lastFits,
                by simp [Expr.tokens, callerTokens]⟩
          | argument _ _ => omega

/-- The tokens read so far: inside each open group its beginning and what follows it, around
the group an operand that is missing, and innermost what is said of it. -/
def Stands : (List Token → Prop) → List Group → List Token → Prop
  | P, [], ts => P ts
  | P, group :: outer, ts =>
      ∃ around head own, ts = around ++ head ++ own ∧ Stands Opens outer around ∧
        Begins group head ∧ P own

variable {P Q : List Token → Prop} {groups : List Group} {group : Group}

theorem Stands.add (adds : ∀ own, P own → Q (own ++ suffix)) (stands : Stands P groups ts) :
    Stands Q groups (ts ++ suffix) := by
  cases groups with
  | nil => exact adds ts stands
  | cons group outer =>
      obtain ⟨around, head, own, rfl, outside, opening, inner⟩ := stands
      exact ⟨around, head, own ++ suffix, by simp, outside, opening, adds own inner⟩

theorem Stands.enter (stands : Stands Opens groups ts) (caller : Option String) :
    Stands Opens (⟨caller, 0⟩ :: groups) (ts ++ callerTokens caller ++ [.lparen]) :=
  ⟨ts, _, [], by simp, stands, .start caller, opens_nil⟩

theorem Stands.comma (stands : Stands (Derives .sum) (group :: groups) ts) :
    Stands Opens ({ group with commas := group.commas + 1 } :: groups) (ts ++ [.comma]) := by
  obtain ⟨around, head, own, rfl, outside, opening, complete⟩ := stands
  exact ⟨around, head ++ own ++ [.comma], [], by simp, outside, opening.argument complete, opens_nil⟩

theorem Stands.close (stands : Stands (Derives .sum) (group :: groups) ts)
    (fits : group.fault? = none) : Stands (Derives .sum) groups (ts ++ [.rparen]) := by
  obtain ⟨around, head, own, rfl, outside, opening, complete⟩ := stands
  have closed := outside.add fun _ opens => opens.primary (opening.close fits complete)
  simpa using closed

/-! ## Stages of reading -/

/-- The tables know what the token names, constants included. -/
def Token.Named : Token → Prop
  | constant name => (constant? name).isSome = true
  | t => t.Known

theorem Token.Named.known {t : Token} (named : t.Named) : t.Known := by
  cases t <;> first | exact named | trivial

/-- What the tokens read so far are, as the last of them tells.  A name waits for its
parenthesis, and a number may turn out to be that of a sign. -/
def Stage : Option Token → List Group → List Token → Prop
  | some (.function name), groups, ts =>
      ∃ front, ts = front ++ [.function name] ∧ Stands Opens groups front
  | some (.number value), groups, ts =>
      ∃ front, ts = front ++ [.number value] ∧ Stands Opens groups front
  | previous, groups, ts => Stands (bif completes previous then Derives .sum else Opens) groups ts

theorem stage_start : Stage none [] [] := opens_nil

theorem stage_operator (symbol : String) (unary : Bool) (groups : List Group) (ts : List Token) :
    Stage (some (.operator symbol unary)) groups ts ↔
      Stands (bif completes (some (.operator symbol unary)) then Derives .sum else Opens) groups
        ts :=
  Iff.rfl

variable {previous : Option Token} {after : List Group} {t : Token}

theorem functionOf_eq_none (prefixed : inPrefixPosition previous = true) :
    functionOf previous = none := by
  rcases previous with _ | t
  · rfl
  · cases t <;> first | rfl | cases prefixed

theorem completes_eq_false (prefixed : inPrefixPosition previous = true) :
    completes previous = false := by
  rcases previous with _ | t
  · rfl
  · cases t with
    | operator symbol unary =>
        simp only [inPrefixPosition, completes] at prefixed ⊢
        split at prefixed <;> simp_all
    | lparen | comma => rfl
    | _ => cases prefixed

theorem Stage.opens (stage : Stage previous groups ts)
    (prefixed : inPrefixPosition previous = true) : Stands Opens groups ts := by
  have operand := completes_eq_false prefixed
  rcases previous with _ | t
  · exact stage
  · cases t with
    | lparen | comma => exact stage
    | operator symbol unary =>
        rw [stage_operator, operand] at stage
        exact stage
    | _ => cases prefixed

theorem Stage.complete (stage : Stage previous groups ts) (ends : completes previous = true) :
    Stands (Derives .sum) groups ts := by
  rcases previous with _ | t
  · cases ends
  · cases t with
    | number value =>
        obtain ⟨front, rfl, stands⟩ := stage
        exact stands.add fun _ opens => opens.primary ⟨_, .number value, rfl⟩
    | constant _ | var _ | rparen => exact stage
    | operator symbol unary =>
        rw [stage_operator, ends] at stage
        exact stage
    | _ => cases ends

/-- A symbol that means something is the factorial's or stands between operands. -/
theorem symbol_cases (known : (Operation.ofSymbol? symbol).isSome = true) :
    symbol = factorialSymbol ∨ ∃ level, symbolLevel? symbol = some level := by
  by_cases last : symbol = factorialSymbol
  · exact .inl last
  · refine .inr ?_
    rw [symbolLevel?.eq_def]
    split
    case h_10 =>
      have unknown : Operation.ofSymbol? symbol = none :=
        List.lookup_eq_none_iff.2 (by simp_all [Operation.symbols, factorialSymbol])
      rw [unknown] at known
      cases known
    all_goals exact ⟨_, rfl⟩

theorem inPrefixPosition_of_written (written : symbolLevel? symbol = some level) :
    inPrefixPosition (some (.operator symbol false)) = true := by
  rw [Operation.symbolLevel?_eq, Option.bind_eq_some_iff] at written
  obtain ⟨o, entry, own⟩ := written
  have meant : Token.operationOf? symbol false = some o := entry
  simp [inPrefixPosition, meant, Operation.not_postfixed own]

/-- An operator between operands leaves an operand missing, the factorial a complete one. -/
theorem Stage.operator (stage : Stage previous groups ts)
    (known : (Operation.ofSymbol? symbol).isSome = true) (ends : completes previous = true) :
    Stage (some (.operator symbol false)) groups (ts ++ [.operator symbol false]) := by
  have stands := stage.complete ends
  rw [stage_operator]
  rcases symbol_cases known with rfl | ⟨level, written⟩
  · exact stands.add fun _ complete => complete.factorial
  · rw [completes_eq_false (inPrefixPosition_of_written written)]
    exact stands.add fun _ complete => opens_operator written complete

/-- The product of a sign stands behind the sign's number, in front of which an operand is
missing and still is. -/
theorem Stage.sign (stage : Stage previous groups ts)
    (place : (Token.operator symbol true).follows previous = true) :
    Stage (some (.operator symbol true)) groups (ts ++ [.operator symbol true]) := by
  simp only [Token.follows, Bool.and_eq_true, beq_iff_eq] at place
  obtain ⟨rfl, rfl⟩ := place
  obtain ⟨front, rfl, stands⟩ := stage
  rw [List.append_assoc]
  exact stands.add fun _ opens => opens.sign

/-- A parenthesis opens a group where an operand is missing, or the call of the name before. -/
theorem Stage.lparen (stage : Stage previous groups ts)
    (place : Token.lparen.follows previous = true) :
    Stage (some .lparen) (⟨functionOf previous, 0⟩ :: groups) (ts ++ [.lparen]) := by
  rcases Bool.or_eq_true_iff.1 place with prefixed | called
  · have stands := (stage.opens prefixed).enter none
    rw [callerTokens, List.append_nil] at stands
    rw [functionOf_eq_none prefixed]
    exact stands
  · obtain ⟨name, rfl⟩ : ∃ name, previous = some (.function name) := by
      rcases previous with _ | t
      · cases called
      · cases t <;> first | exact ⟨_, rfl⟩ | cases called
    obtain ⟨front, rfl, stands⟩ := stage
    exact stands.enter (some name)

/-- A token in place takes one stage to the next. -/
theorem Stage.step (stage : Stage previous groups ts) (named : t.Named)
    (place : t.follows previous = true) (scanned : regroup groups previous t = .ok after) :
    Stage (some t) after (ts ++ [t]) := by
  cases t with
  | number value | function name =>
      cases scanned
      exact ⟨ts, rfl, stage.opens place⟩
  | constant name =>
      cases scanned
      exact (stage.opens place).add fun _ opens => opens.primary ⟨_, .constant named, rfl⟩
  | var name =>
      cases scanned
      exact (stage.opens place).add fun _ opens => opens.primary ⟨_, .var name, rfl⟩
  | operator symbol unary =>
      cases scanned
      cases unary with
      | true => exact stage.sign place
      | false => exact stage.operator named place
  | lparen =>
      cases scanned
      exact stage.lparen place
  | comma =>
      cases groups with
      | nil => cases scanned
      | cons group outer =>
          cases scanned
          exact (stage.complete place).comma
  | rparen =>
      cases groups with
      | nil => cases scanned
      | cons group outer =>
          rw [regroup] at scanned
          cases fits : group.fault? with
          | some fault =>
              rw [fits] at scanned
              cases scanned
          | none =>
              rw [fits] at scanned
              cases scanned
              exact (stage.complete place).close fits

/-- What stands in place behind a stage, its groups all closed without a fault, makes an
expression of the whole. -/
theorem Stage.derives (stage : Stage previous groups ts) (named : ∀ t ∈ us, t.Named)
    (place : inPlace previous us = true) (fits : groupingFault? groups previous us = none) :
    Derives .sum (ts ++ us) := by
  induction us generalizing previous groups ts with
  | nil =>
      cases groups with
      | nil =>
          rw [List.append_nil]
          exact stage.complete place
      | cons group outer => cases fits
  | cons t us ih =>
      obtain ⟨here, further⟩ := Bool.and_eq_true_iff.1 place
      rw [groupingFault?_cons] at fits
      cases scanned : regroup groups previous t with
      | error fault =>
          rw [scanned] at fits
          cases fits
      | ok after =>
          rw [scanned] at fits
          have next := stage.step (named t List.mem_cons_self) here scanned
          have whole := ih next (fun u inside => named u (List.mem_cons_of_mem t inside)) further
            fits
          rwa [List.append_assoc] at whole

/-! ## Expressions stand in place -/

theorem inPlace_cons (here : t.follows previous = true) (further : inPlace (some t) ts = true) :
    inPlace previous (t :: ts) = true :=
  Bool.and_eq_true_iff.2 ⟨here, further⟩

/-- An expression stands in place where an operand is missing, before anything that may stand
behind a complete one. -/
theorem inPlace_append {e : Expr} (fits : e.Fits level) {rest : List Token}
    (prefixed : inPrefixPosition previous = true)
    (behind : ∀ t, completes (some t) = true → inPlace (some t) rest = true) :
    inPlace previous (e.tokens ++ rest) = true := by
  -- Behind a closing parenthesis stands what stands behind any complete operand.
  have closed (more : List Token)
      (behind : ∀ t, completes (some t) = true → inPlace (some t) more = true) (t : Token)
      (ends : completes (some t) = true) : inPlace (some t) (.rparen :: more) = true :=
    inPlace_cons ends (behind .rparen rfl)
  induction fits generalizing previous rest with
  | ofProduct _ ih | ofPower _ ih | ofPrimary _ ih => exact ih prefixed behind
  | number _ | constant _ | var _ => exact inPlace_cons prefixed (behind _ rfl)
  | sum written _ _ leftIH rightIH | product written _ _ leftIH rightIH
  | power written _ _ leftIH rightIH =>
      rw [Expr.tokens, List.append_assoc]
      exact leftIH prefixed fun t ends =>
        inPlace_cons ends (rightIH (inPrefixPosition_of_written written) behind)
  | negate _ ih =>
      exact inPlace_cons prefixed (inPlace_cons (by simp [Token.follows, Token.signProduct])
        (ih rfl behind))
  | factorial _ ih =>
      rw [Expr.tokens, List.append_assoc]
      exact ih prefixed fun t ends => inPlace_cons ends (behind _ rfl)
  | group _ ih =>
      rw [Expr.tokens, List.append_assoc]
      exact inPlace_cons (by simp [Token.follows, prefixed]) (ih rfl (closed rest behind))
  | call _ _ _ ih =>
      rw [Expr.tokens, List.append_assoc]
      exact inPlace_cons prefixed (inPlace_cons rfl (ih rfl (closed rest behind)))
  | callPair _ _ _ _ firstIH secondIH =>
      rw [Expr.tokens]
      simp only [List.append_assoc, List.cons_append]
      exact inPlace_cons prefixed (inPlace_cons rfl (firstIH rfl fun t ends =>
        inPlace_cons ends (secondIH rfl (closed rest behind))))

theorem Derives.inPlace (sentence : Derives .sum ts) : inPlace none ts = true := by
  obtain ⟨e, fits, rfl⟩ := sentence
  rw [← List.append_nil e.tokens]
  exact inPlace_append fits rfl fun _ ends => ends

/-- Only a parenthesis stands in place behind a name. -/
theorem head?_of_inPlace {name : String} (place : inPlace (some (.function name)) ts = true) :
    ts.head? = some .lparen := by
  cases ts with
  | nil => cases place
  | cons t ts =>
      have here := (Bool.and_eq_true_iff.1 place).1
      cases t with
      | lparen => rfl
      | operator symbol unary =>
          cases unary with
          | true => simp [Token.follows] at here
          | false => cases here
      | _ => cases here

/-- Where tokens stand in place, a name has its parenthesis behind it. -/
theorem callsOpen_of_inPlace (place : Syntax.inPlace previous ts = true) : callsOpen ts = true := by
  induction ts generalizing previous with
  | nil => rfl
  | cons t ts ih =>
      obtain ⟨-, further⟩ := Bool.and_eq_true_iff.1 place
      cases t with
      | function name => simp [callsOpen, head?_of_inPlace further, ih further]
      | _ => exact ih further

/-- **Tokens that have a postfix order are an expression exactly when they stand in place.** -/
theorem derives_iff_inPlace (named : ∀ t ∈ ts, t.Named) (ordered : toPostfix ts = .ok us) :
    Derives .sum ts ↔ inPlace none ts = true := by
  refine ⟨Derives.inPlace, fun place => ?_⟩
  have grouped := toPostfix_grouping (fun t inside => (named t inside).known)
    (callsOpen_of_inPlace place)
  cases scanned : groupingFault? [] none ts with
  | some fault =>
      rw [scanned, ordered] at grouped
      cases grouped
  | none => exact stage_start.derives named place scanned

/-! ## The tokens of a text -/

theorem constant?_isSome_of_listed {name : List Char}
    (member : name ∈ LexemeKind.listed .constant) :
    (constant? (String.ofList name)).isSome = true := by
  have all : (LexemeKind.listed .constant).all
      (fun name => (constant? (String.ofList name)).isSome) = true := by
    decide +kernel
  exact List.all_eq_true.1 all name member

/-- A constant is the token of a lexeme of its own. -/
theorem Lexeme.of_constant_mem_tokens {l : Lexeme} {name : String}
    (inside : .constant name ∈ l.tokens previous) :
    l.kind = .constant ∧ name = String.ofList l.text := by
  obtain ⟨kind, text⟩ := l
  cases kind with
  | constant =>
      cases List.mem_singleton.1 inside
      exact ⟨rfl, rfl⟩
  | operator =>
      simp only [Lexeme.tokens] at inside
      split at inside
      · split at inside
        · simp [Token.signProduct] at inside
        · split at inside <;> simp at inside
      · simp at inside
  | number =>
      obtain ⟨x, -, same⟩ := List.mem_map.1 inside
      cases same
  | _ => cases List.mem_singleton.1 inside

/-- The tables have the names of the tokens of well-spelled lexemes. -/
theorem named_tokensAfter {ls : List Lexeme} (spelled : ∀ l ∈ ls, l.kind.Spells l.text) :
    ∀ t ∈ tokensAfter previous ls, t.Named := by
  intro t inside
  have known := known_tokensAfter spelled previous t inside
  cases t with
  | constant name =>
      obtain ⟨l, among, before, own⟩ := mem_tokensAfter inside
      obtain ⟨kind, rfl⟩ := l.of_constant_mem_tokens own
      have constant := spelled l among
      rw [kind] at constant
      exact constant?_isSome_of_listed
        ((LexemeKind.spells_iff_listed (by decide) (by decide)).1 constant)
  | _ => exact known

end SciCalc.Syntax
