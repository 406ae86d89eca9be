/-
# SciCalc.Proofs.Syntax.Conservation -- the yard reorders tokens and loses none

Known tokens in any order whatever, malformed or not, are either refused for their
parentheses, commas or numbers of arguments, or put out again: every token that is no
parenthesis and no comma once, and the operands and postfixed operators in their order
(`toPostfix_conserves`).

A token goes to the output at once or waits on the stack, and what waits is sent out
later (`Conserves`).  What a step can do is said once (`Moves`); it relies on the stack and
the groups standing side by side (`Yard.Sound`).

That a closing parenthesis finds the function of its own opening one is a matter of
history, because the groups know functions by name only.  Nothing below an open
parenthesis is touched: as long as it is open, the stack and the groups below it are those
from when it was opened (`Restores`).
-/
import Mathlib.Data.List.Induction
import Mathlib.Data.List.TakeWhile
import SciCalc.Proofs.Syntax.ParseFault

namespace SciCalc.Syntax

set_option autoImplicit false

/-- Parentheses and commas, which have no place in postfix order. -/
def Token.isGrouping : Token → Bool
  | lparen | rparen | comma => true
  | _ => false

/-- Operands and postfixed operators, which never wait on the stack. -/
def Token.immediate : Token → Bool
  | number _ | constant _ | var _ => true
  | operator symbol unary =>
      match operationOf? symbol unary with
      | some operation => operation.postfixed
      | none => false
  | _ => false

/-- Tokens whose parentheses belong together. -/
inductive Balanced : List Token → Prop
  | nil : Balanced []
  | plain {ts : List Token} {t : Token} (before : Balanced ts) (noParen : t.isParen = false) :
      Balanced (ts ++ [t])
  | group {ts us : List Token} (before : Balanced ts) (inner : Balanced us) :
      Balanced (ts ++ .lparen :: us ++ [.rparen])

namespace Yard

variable {front ts : List Token} {t : Token} {y z : Yard}

/-- The state after some tokens, all of which came through. -/
def Reaches (front : List Token) (y : Yard) : Prop := front.foldlM step start = .ok y

theorem reaches_snoc : Reaches (front ++ [t]) z ↔ ∃ y, Reaches front y ∧ y.step t = .ok z := by
  simp only [Reaches, List.foldlM_append, List.foldlM_cons, List.foldlM_nil, bind_pure]
  exact bind_eq_ok

/-! ## What a step does -/

/-- What a token can do to a yard. -/
inductive Moves (y : Yard) : Token → Yard → Prop
  | emit {t : Token} (immediate : t.immediate = true) : Moves y t (y.emit t)
  | function {name : String} : Moves y (.function name) (y.hold (.function name))
  | operator {symbol : String} {unary : Bool} {operation : Operation}
      (waits : (Token.operator symbol unary).immediate = false) :
      Moves y (.operator symbol unary)
        ((y.sendWhile (sends operation)).hold (.operator symbol unary))
  | opened : Moves y .lparen y.openGroup
  | comma {caller : Option String} {commas : Nat} {below : List Token} {outer : List Group}
      (held : y.sendInner.held = .lparen :: below) (groups : y.groups = ⟨caller, commas⟩ :: outer) :
      Moves y .comma ⟨y.sendInner.output, .lparen :: below, ⟨caller, commas + 1⟩ :: outer⟩
  | group {below : List Token} {outer : List Group}
      (held : y.sendInner.held = .lparen :: below) (groups : y.groups = ⟨none, 0⟩ :: outer) :
      Moves y .rparen ⟨y.sendInner.output, below, outer⟩
  | call {name : String} {commas : Nat} {below : List Token} {outer : List Group}
      (held : y.sendInner.held = .lparen :: .function name :: below)
      (groups : y.groups = ⟨some name, commas⟩ :: outer) :
      Moves y .rparen ⟨.function name :: y.sendInner.output, below, outer⟩

theorem moves_comma (sound : y.Sound) (stepped : y.comma = .ok z) : Moves y .comma z := by
  rw [comma] at stepped
  rcases sound.sendInner with nothing | ⟨below, outer, commas, held, groups, -, -⟩
  · simp only [nothing] at stepped
    cases stepped
  · simp only [held, groups] at stepped
    cases stepped
    exact .comma held groups

theorem moves_rparen (sound : y.Sound) (stepped : y.rparen = .ok z) : Moves y .rparen z := by
  rw [rparen] at stepped
  rcases sound.sendInner with nothing | ⟨below, outer, commas, held, groups, -, -⟩
  · simp only [nothing] at stepped
    cases stepped
  · simp only [held, groups, closeGroup] at stepped
    cases called : callerOf below with
    | none =>
        simp only [called] at stepped
        split at stepped
        · rename_i undivided
          cases stepped
          exact .group held (called ▸ undivided ▸ groups)
        · cases stepped
    | some name =>
        obtain ⟨rest, rfl⟩ := eq_function_of_callerOf called
        simp only [called] at stepped
        split at stepped
        · cases stepped
        · split at stepped
          · cases stepped
            exact .call held groups
          · cases stepped

theorem moves_of_step (sound : y.Sound) (stepped : y.step t = .ok z) : Moves y t z := by
  cases t with
  | number _ | constant _ | var _ =>
      cases stepped
      exact .emit rfl
  | function name =>
      cases stepped
      exact .function
  | operator symbol unary =>
      rw [step] at stepped
      cases entry : Token.operationOf? symbol unary with
      | none =>
          simp only [entry] at stepped
          cases stepped
      | some operation =>
          have immediate : (Token.operator symbol unary).immediate = operation.postfixed := by
            simp only [Token.immediate, entry]
          simp only [entry, operator] at stepped
          split at stepped
          · cases stepped
            exact .emit (immediate.trans ‹_›)
          · cases stepped
            exact .operator (immediate.trans (Bool.eq_false_iff.2 ‹_›))
  | lparen =>
      cases stepped
      exact .opened
  | rparen => exact moves_rparen sound stepped
  | comma => exact moves_comma sound stepped

/-! ## What is below an open parenthesis -/

/-- The innermost open parenthesis stands on the stack and the groups from when it was opened,
and everything behind it belongs together. -/
def Restores (front : List Token) (y : Yard) : Prop :=
  ∃ before inner opened commas, front = before ++ .lparen :: inner ∧ Balanced inner ∧
    Reaches before opened ∧ y.sendInner.held = .lparen :: opened.held ∧
    y.sendInner.groups = ⟨callerOf opened.held, commas⟩ :: opened.groups

/-- How the stack and the groups came about: no parenthesis is open, or the innermost one
stands on those that some of the tokens led to, which came about in the same way. -/
inductive History : List Token → Yard → Prop
  | outside {front : List Token} {y : Yard} (balanced : Balanced front)
      (held : y.sendInner.held = []) (groups : y.groups = []) : History front y
  | inside {before inner : List Token} {opened y : Yard} {commas : Nat}
      (earlier : History before opened) (reached : Reaches before opened)
      (balanced : Balanced inner) (held : y.sendInner.held = .lparen :: opened.held)
      (groups : y.groups = ⟨callerOf opened.held, commas⟩ :: opened.groups) :
      History (before ++ .lparen :: inner) y

theorem history_start : History [] start := .outside .nil rfl rfl

theorem History.restores (history : History front y) :
    y.sendInner.held = [] ∨ Restores front y := by
  cases history with
  | outside _ held _ => exact .inl held
  | inside _ reached balanced held groups =>
      exact .inr ⟨_, _, _, _, rfl, balanced, reached, held, groups⟩

/-- A token that leaves what is below the parenthesis and the groups as they are, but for
commas. -/
theorem History.plain (history : History front y) (noParen : t.isParen = false)
    (held : z.sendInner.held = y.sendInner.held) (groups : z.groups = y.groups) :
    History (front ++ [t]) z := by
  cases history with
  | outside balanced nothing none =>
      exact .outside (balanced.plain noParen) (held.trans nothing) (groups.trans none)
  | inside earlier reached balanced below group =>
      rw [List.append_assoc, List.cons_append]
      exact .inside earlier reached (balanced.plain noParen) (held.trans below)
        (groups.trans group)

/-- A group that closes is behind the parenthesis around it, or behind none. -/
theorem History.close {inner : List Token} (history : History front y) (balanced : Balanced inner)
    (held : z.sendInner.held = y.sendInner.held) (groups : z.groups = y.groups) :
    History (front ++ .lparen :: inner ++ [.rparen]) z := by
  cases history with
  | outside before nothing none =>
      exact .outside (before.group balanced) (held.trans nothing) (groups.trans none)
  | inside earlier reached before below group =>
      have closed := before.group balanced
      simp only [List.append_assoc, List.cons_append] at closed ⊢
      exact .inside earlier reached closed (held.trans below) (groups.trans group)

/-- What an operator sends out is above the innermost parenthesis. -/
theorem dropInner_sends (operation : Operation) (held : List Token) :
    (held.dropWhile (sends operation)).dropWhile (!·.isLParen) = held.dropWhile (!·.isLParen) := by
  induction held with
  | nil => rfl
  | cons u held ih =>
      cases sent : sends operation u with
      | false => rw [List.dropWhile_cons_of_neg (by simp [sent])]
      | true =>
          have noParen : u.isLParen = false := by
            cases u with
            | lparen => cases sent
            | _ => rfl
          rw [List.dropWhile_cons_of_pos sent, ih, List.dropWhile_cons_of_pos (by simp [noParen])]

/-- The parenthesis that a comma or a closing one finds, and what is below it. -/
theorem History.opening {caller : Option String} {commas : Nat} {below : List Token}
    {outer : List Group} (history : History front y) (held : y.sendInner.held = .lparen :: below)
    (groups : y.groups = ⟨caller, commas⟩ :: outer) :
    ∃ before inner opened, front = before ++ .lparen :: inner ∧ Balanced inner ∧
      History before opened ∧ Reaches before opened ∧ below = opened.held ∧
      caller = callerOf opened.held ∧ outer = opened.groups := by
  cases history with
  | outside _ nothing _ =>
      rw [nothing] at held
      cases held
  | inside earlier reached balanced found group =>
      rw [held, List.cons.injEq] at found
      rw [groups, List.cons.injEq, Group.mk.injEq] at group
      exact ⟨_, _, _, rfl, balanced, earlier, reached, found.2, group.1.1, group.2⟩

theorem History.step (history : History front y) (reached : Reaches front y)
    (moved : Moves y t z) : History (front ++ [t]) z := by
  cases moved with
  | emit immediate =>
      have noParen : t.isParen = false := by
        cases t with
        | lparen | rparen => cases immediate
        | _ => rfl
      exact history.plain noParen rfl rfl
  | function => exact history.plain rfl rfl rfl
  | operator waits => exact history.plain rfl (dropInner_sends _ y.held) rfl
  | opened => exact .inside history reached .nil rfl rfl
  | comma held groups =>
      obtain ⟨before, inner, opened, rfl, balanced, earlier, reached, rfl, rfl, rfl⟩ :=
        history.opening held groups
      rw [List.append_assoc, List.cons_append]
      exact .inside earlier reached (balanced.plain rfl) rfl rfl
  | group held groups =>
      obtain ⟨before, inner, opened, rfl, balanced, earlier, reached, rfl, -, rfl⟩ :=
        history.opening held groups
      exact earlier.close balanced rfl rfl
  | call held groups =>
      obtain ⟨before, inner, opened, rfl, balanced, earlier, reached, below, -, rfl⟩ :=
        history.opening held groups
      refine earlier.close balanced ?_ rfl
      -- The function that is taken off the stack lay on top of it.
      simp only [sendInner, sendWhile, ← below]
      rfl

/-! ## What has come out and what waits -/

/-- The output and the stack hold the tokens so far; operands and postfixed operators are in
the output, in their order.  The output has the latest token first. -/
structure Conserves (front output held : List Token) : Prop where
  tokens : (output ++ held.filter (!·.isGrouping)).Perm (front.filter (!·.isGrouping))
  order : output.filter Token.immediate = (front.filter Token.immediate).reverse
  waiting : ∀ t ∈ held, t.immediate = false ∧ (t.isGrouping = true → t = .lparen)

variable {output held : List Token}

theorem conserves_start : Conserves [] [] [] := ⟨.nil, rfl, fun _ inside => by cases inside⟩

theorem not_isGrouping_of_immediate (immediate : t.immediate = true) : t.isGrouping = false := by
  cases t with
  | lparen | rparen | comma => cases immediate
  | _ => rfl

theorem Conserves.emit (conserves : Conserves front output held) (immediate : t.immediate = true) :
    Conserves (front ++ [t]) (t :: output) held := by
  have plain := not_isGrouping_of_immediate immediate
  refine ⟨?_, ?_, conserves.waiting⟩
  · have added := (conserves.tokens.cons t).trans (List.perm_append_singleton t _).symm
    simpa [plain] using added
  · simp [immediate, conserves.order]

theorem Conserves.hold (conserves : Conserves front output held) (waits : t.immediate = false)
    (grouping : t.isGrouping = true → t = .lparen) :
    Conserves (front ++ [t]) output (t :: held) := by
  refine ⟨?_, ?_, ?_⟩
  · cases plain : t.isGrouping with
    | true => simpa [plain] using conserves.tokens
    | false =>
        have added := List.perm_middle.trans
          ((conserves.tokens.cons t).trans (List.perm_append_singleton t _).symm)
        simpa [plain] using added
  · simp [waits, conserves.order]
  · intro u inside
    rcases List.mem_cons.1 inside with rfl | before
    · exact ⟨waits, grouping⟩
    · exact conserves.waiting u before

/-- A comma or a closing parenthesis is kept nowhere. -/
theorem Conserves.skip (conserves : Conserves front output held) (grouping : t.isGrouping = true) :
    Conserves (front ++ [t]) output held := by
  have waits : t.immediate = false := by
    cases t with
    | lparen | rparen | comma => rfl
    | _ => cases grouping
  refine ⟨?_, ?_, conserves.waiting⟩
  · simpa [grouping] using conserves.tokens
  · simp [waits, conserves.order]

theorem Conserves.sendWhile {condition : Token → Bool} (conserves : Conserves front output held)
    (stops : condition .lparen = false) :
    Conserves front ((held.takeWhile condition).reverse ++ output) (held.dropWhile condition) := by
  have sent : ∀ t ∈ held.takeWhile condition, t.immediate = false ∧ t.isGrouping = false := by
    intro t inside
    have waiting := conserves.waiting t ((List.takeWhile_sublist _).subset inside)
    refine ⟨waiting.1, ?_⟩
    cases grouping : t.isGrouping with
    | false => rfl
    | true =>
        have passed := List.mem_takeWhile_imp inside
        rw [waiting.2 grouping, stops] at passed
        cases passed
  have split : held.takeWhile condition ++ held.dropWhile condition = held :=
    List.takeWhile_append_dropWhile
  refine ⟨?_, ?_, ?_⟩
  · have kept : (held.takeWhile condition).filter (!·.isGrouping) = held.takeWhile condition :=
      List.filter_eq_self.2 fun t inside => by simp [(sent t inside).2]
    have whole : held.filter (!·.isGrouping) =
        held.takeWhile condition ++ (held.dropWhile condition).filter (!·.isGrouping) := by
      rw [← kept, ← List.filter_append, split]
    refine List.Perm.trans ?_ conserves.tokens
    rw [whole, List.append_assoc]
    exact (List.perm_append_comm_assoc _ _ _).trans
      (((List.reverse_perm _).append_right _).append_left _)
  · have none : (held.takeWhile condition).reverse.filter Token.immediate = [] :=
      List.filter_eq_nil_iff.2 fun t inside => by
        simp [(sent t (List.mem_reverse.1 inside)).1]
    rw [List.filter_append, none, List.nil_append, conserves.order]
  · intro t inside
    exact conserves.waiting t ((List.dropWhile_sublist _).subset inside)

theorem Conserves.drop {below : List Token} (conserves : Conserves front output (.lparen :: below)) :
    Conserves front output below :=
  ⟨conserves.tokens, conserves.order,
    fun t inside => conserves.waiting t (List.mem_cons_of_mem _ inside)⟩

/-- The token on top of the stack is sent out. -/
theorem Conserves.pop {below : List Token} (conserves : Conserves front output (t :: below))
    (plain : t.isGrouping = false) : Conserves front (t :: output) below := by
  refine ⟨?_, ?_, fun u inside => conserves.waiting u (List.mem_cons_of_mem t inside)⟩
  · have tokens := conserves.tokens
    simp only [List.filter_cons, plain, Bool.not_false, if_true] at tokens
    exact List.perm_middle.symm.trans tokens
  · have waits := (conserves.waiting t List.mem_cons_self).1
    simp only [List.filter_cons, waits, Bool.false_eq_true, if_false]
    exact conserves.order

theorem Conserves.step (conserves : Conserves front y.output y.held) (moved : Moves y t z) :
    Conserves (front ++ [t]) z.output z.held := by
  have inner : Conserves front y.sendInner.output y.sendInner.held := conserves.sendWhile rfl
  cases moved with
  | emit immediate => exact conserves.emit immediate
  | function => exact conserves.hold rfl fun grouping => by cases grouping
  | operator waits =>
      exact (conserves.sendWhile rfl).hold waits fun grouping => by cases grouping
  | opened => exact conserves.hold rfl fun _ => rfl
  | comma held groups =>
      rw [held] at inner
      exact inner.skip rfl
  | group held groups =>
      rw [held] at inner
      exact inner.drop.skip rfl
  | call held groups =>
      rw [held] at inner
      exact (inner.drop.pop rfl).skip rfl

/-! ## A run -/

/-- What is true of a yard that tokens have led to. -/
theorem Reaches.kept (reached : Reaches front y) (known : ∀ t ∈ front, t.Known) :
    y.Sound ∧ History front y ∧ Conserves front y.output y.held := by
  induction front using List.reverseRecOn generalizing y with
  | nil =>
      cases reached
      exact ⟨sound_start, history_start, conserves_start⟩
  | append_singleton front t ih =>
      obtain ⟨x, earlier, stepped⟩ := reaches_snoc.1 reached
      obtain ⟨sound, history, conserves⟩ :=
        ih earlier fun u inside => known u (List.mem_append_left _ inside)
      have moved := moves_of_step sound stepped
      have next := sound.of_step (known t (List.mem_append_right _ List.mem_cons_self)) stepped
      exact ⟨next, history.step earlier moved, conserves.step moved⟩

/-- At the end no parenthesis is on the stack, and what waits is sent out. -/
theorem Conserves.finish {ordered : List Token} (conserves : Conserves front y.output y.held)
    (finished : y.finish = .ok ordered) :
    ordered.Perm (front.filter (!·.isGrouping)) ∧
      ordered.filter Token.immediate = front.filter Token.immediate := by
  rw [Yard.finish] at finished
  split at finished
  · cases finished
  · rename_i closed
    have plain : y.held.filter (!·.isGrouping) = y.held := by
      refine List.filter_eq_self.2 fun t inside => ?_
      cases grouping : t.isGrouping with
      | false => rfl
      | true =>
          have lparen := (conserves.waiting t inside).2 grouping
          exact absurd (List.any_eq_true.2 ⟨t, inside, by rw [lparen]; rfl⟩) closed
    have waiting : y.held.filter Token.immediate = [] :=
      List.filter_eq_nil_iff.2 fun t inside => by simp [(conserves.waiting t inside).1]
    have tokens := conserves.tokens
    rw [plain] at tokens
    cases finished
    constructor
    · simp only [List.reverse_append, List.reverse_reverse]
      exact ((List.reverse_perm _).append_right _).trans tokens
    · simp [waiting, conserves.order]

end Yard

/-- **Known tokens in any order are put into postfix order or refused, and none is lost.**

They are refused for their parentheses and commas or for a number of arguments, never because
a stack is empty.  Where a closing parenthesis comes, the stack and the groups below its
opening one are those from when it was opened: what lies below it is the very function that
the group knows.  What comes out are the tokens other than parentheses and commas, and the
operands and postfixed operators among them keep their order. -/
theorem toPostfix_conserves {ts : List Token} (known : ∀ t ∈ ts, t.Known) :
    (∀ fault, toPostfix ts = .error fault →
      fault ≠ .emptyStack ∧ (fault.kind = .malformed ∨ fault.kind = .arity)) ∧
    (∀ front y, front ++ [.rparen] <+: ts → Yard.Reaches front y →
      y.sendInner.held = [] ∨ Yard.Restores front y) ∧
    (∀ ordered, toPostfix ts = .ok ordered →
      ordered.Perm (ts.filter (!·.isGrouping)) ∧
        ordered.filter Token.immediate = ts.filter Token.immediate) := by
  refine ⟨?_, ?_, ?_⟩
  · intro fault failed
    have parsing := ofParsing_of_toPostfix known failed
    refine ⟨?_, parsing⟩
    rintro rfl
    rcases parsing with malformed | arity
    · cases malformed
    · cases arity
  · intro front y closing reached
    have before : ∀ t ∈ front, t.Known := fun t inside =>
      known t (closing.subset (List.mem_append_left _ inside))
    exact (reached.kept before).2.1.restores
  · intro ordered succeeded
    obtain ⟨y, reached, finished⟩ := bind_eq_ok.1 succeeded
    have reached : Yard.Reaches ts y := reached
    exact (reached.kept known).2.2.finish finished

/-- A factorial without an operand of its own, an operator behind both of its operands and a
name without parentheses. -/
theorem toPostfix_conserves_malformed :
    let ts : List Token := [.function "sin", .lparen, .function "nCr", .lparen, .var "A", .comma,
      .operator "!" false, .rparen, .operator "+" false, .rparen, .function "cos", .constant "pi"]
    let ordered : List Token := [.var "A", .operator "!" false, .function "nCr",
      .operator "+" false, .function "sin", .constant "pi", .function "cos"]
    (∀ t ∈ ts, t.Known) ∧ toPostfix ts = .ok ordered ∧
      ordered.Perm (ts.filter (!·.isGrouping)) ∧
      ordered.filter Token.immediate = [.var "A", .operator "!" false, .constant "pi"] ∧
      ∃ y, Yard.Reaches (ts.take 7) y ∧ Yard.Restores (ts.take 7) y := by
  intro ts ordered
  have known : ∀ t ∈ ts, t.Known := by
    intro t inside
    simp only [ts, List.mem_cons, List.not_mem_nil, or_false] at inside
    rcases inside with rfl | rfl | rfl | rfl | rfl | rfl | rfl | rfl | rfl | rfl | rfl | rfl
    all_goals trivial
  obtain ⟨-, restores, conserves⟩ := toPostfix_conserves known
  have converted : toPostfix ts = .ok ordered := by rfl
  obtain ⟨tokens, order⟩ := conserves ordered converted
  let inner : Yard := ⟨[.operator "!" false, .var "A"],
    [.lparen, .function "nCr", .lparen, .function "sin"], [⟨some "nCr", 1⟩, ⟨some "sin", 0⟩]⟩
  have reached : Yard.Reaches (ts.take 7) inner := by rfl
  have closing : ts.take 7 ++ [.rparen] <+: ts := ⟨ts.drop 8, rfl⟩
  refine ⟨known, converted, tokens, order, inner, reached, ?_⟩
  exact (restores _ _ closing reached).resolve_left fun nothing => by cases nothing

end SciCalc.Syntax
