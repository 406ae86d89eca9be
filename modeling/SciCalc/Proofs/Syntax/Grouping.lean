/-
# SciCalc.Proofs.Syntax.Grouping -- the yard finds the faults of grouping

Whether tokens can be put into postfix order depends on their parentheses and commas
alone, once the operators are known and every function's name has its parenthesis
directly behind it: the yard fails where the scan of the grouping does, with the same
fault, and otherwise succeeds (`toPostfix_grouping`).

The yard has no scan of its own.  It looks at what happens to lie on its stack, where
operators come and go.  What carries the comparison is the shape of the stack
(`Yard.Tidy`): operators, and parentheses that each lie directly on the function they
belong to.  A name that was just read lies on top of such a stack (`Yard.Follows`).
-/
import SciCalc.Proofs.Syntax.ParseFault
import SciCalc.Syntax.Place

namespace SciCalc.Syntax

set_option autoImplicit false

variable {y : Yard} {t : Token} {ts held : List Token} {groups : List Group}
  {previous : Option Token}

/-! ## The scan, token by token -/

/-- The open groups after a token, or the fault it makes. -/
def regroup (groups : List Group) (previous : Option Token) : Token → Except Fault (List Group)
  | .lparen => .ok (⟨functionOf previous, 0⟩ :: groups)
  | .comma =>
      match groups with
      | [] => .error .commaOutsideParens
      | group :: outer => .ok ({ group with commas := group.commas + 1 } :: outer)
  | .rparen =>
      match groups with
      | [] => .error .mismatchedParens
      | group :: outer =>
          match group.fault? with
          | some fault => .error fault
          | none => .ok outer
  | _ => .ok groups

theorem groupingFault?_cons (groups : List Group) (previous : Option Token) (t : Token)
    (ts : List Token) :
    groupingFault? groups previous (t :: ts) =
      match regroup groups previous t with
      | .error fault => some fault
      | .ok after => groupingFault? after (some t) ts := by
  cases t with
  | rparen =>
      cases groups with
      | nil => rfl
      | cons group outer =>
          rw [groupingFault?, regroup]
          cases group.fault? <;> rfl
  | lparen | comma | number _ | constant _ | var _ | function _ | operator _ _ =>
      cases groups <;> rfl

/-- The name in front of a parenthesis, if there is one. -/
def callerTokens : Option String → List Token
  | some name => [.function name]
  | none => []

namespace Yard

/-! ## The shape of the stack -/

/-- A stack of operators and open parentheses, each parenthesis on the function that its group
knows. -/
inductive Tidy : List Token → List Group → Prop
  | nil : Tidy [] []
  | waiting {symbol : String} {unary : Bool} {held : List Token} {groups : List Group}
      (below : Tidy held groups) : Tidy (.operator symbol unary :: held) groups
  | opened {caller : Option String} {commas : Nat} {held : List Token} {groups : List Group}
      (below : Tidy held groups) :
      Tidy (.lparen :: (callerTokens caller ++ held)) (⟨caller, commas⟩ :: groups)

/-- After a function the stack is tidy below its name, otherwise it is tidy. -/
def Follows (y : Yard) (previous : Option Token) : Prop :=
  ∃ below, y.held = callerTokens (functionOf previous) ++ below ∧ Tidy below y.groups

theorem follows_start : start.Follows none := ⟨[], rfl, .nil⟩

theorem Follows.tidy (follows : y.Follows previous) (plain : functionOf previous = none) :
    Tidy y.held y.groups := by
  obtain ⟨below, held, tidy⟩ := follows
  rw [plain] at held
  rwa [held]

/-- No function lies on top of a tidy stack. -/
theorem Tidy.callerOf (tidy : Tidy held groups) (caller : Option String) :
    callerOf (callerTokens caller ++ held) = caller := by
  cases caller with
  | some name => rfl
  | none => cases tidy <;> rfl

theorem Tidy.sends (tidy : Tidy held groups) (operation : Operation) :
    Tidy (held.dropWhile (sends operation)) groups := by
  induction tidy with
  | nil => exact .nil
  | waiting below ih =>
      rw [List.dropWhile_cons]
      split
      · exact ih
      · exact .waiting below
  | opened below _ =>
      rw [List.dropWhile_cons_of_neg (by simp [Yard.sends, Token.operation?])]
      exact .opened below

/-- Below the operators on top is the innermost parenthesis with its function, if one is open. -/
theorem Tidy.dropInner (tidy : Tidy held groups) :
    held.dropWhile (!·.isLParen) = [] ∧ groups = [] ∨
      ∃ caller commas below outer,
        held.dropWhile (!·.isLParen) = .lparen :: (callerTokens caller ++ below) ∧
          groups = ⟨caller, commas⟩ :: outer ∧ Tidy below outer := by
  induction tidy with
  | nil => exact .inl ⟨rfl, rfl⟩
  | waiting _ ih => exact ih
  | @opened caller commas below outer tidy _ =>
      exact .inr ⟨caller, commas, below, outer, rfl, rfl, tidy⟩

/-- The end finds an open parenthesis where a group is open. -/
theorem Tidy.any_isParen (tidy : Tidy held groups) :
    held.any Token.isParen = !groups.isEmpty := by
  induction tidy with
  | nil => rfl
  | waiting _ ih => exact ih
  | opened _ _ => rfl

/-! ## One token -/

/-- A yard does what the scan does. -/
def Matches (t : Token) (scanned : Except Fault (List Group)) (outcome : Except Fault Yard) : Prop :=
  match scanned with
  | .error fault => outcome = .error fault
  | .ok after => ∃ z, outcome = .ok z ∧ z.groups = after ∧ z.Follows (some t)

theorem matches_comma (tidy : Tidy y.held y.groups) :
    Matches .comma (regroup y.groups previous .comma) y.comma := by
  rw [comma]
  rcases tidy.dropInner with ⟨nothing, none⟩ | ⟨caller, commas, below, outer, here, group, tidy⟩
  · rw [none]
    simp only [sendInner, sendWhile, nothing]
    rfl
  · rw [group]
    simp only [sendInner, sendWhile, here, group]
    exact ⟨_, rfl, rfl, _, rfl, .opened tidy⟩

/-- A group that closes sends its function out, and the scan knows the same faults. -/
theorem matches_closeGroup {output below : List Token} {outer : List Group}
    (tidy : Tidy below outer) (caller : Option String) (commas : Nat) :
    Matches .rparen (regroup (⟨caller, commas⟩ :: outer) previous .rparen)
      (closeGroup ⟨output, callerTokens caller ++ below, outer⟩ ⟨caller, commas⟩) := by
  rw [regroup, Group.fault?, closeGroup]
  cases caller with
  | none =>
      by_cases fits : commas = 0
      · simp only [if_pos fits]
        exact ⟨_, rfl, rfl, below, rfl, tidy⟩
      · simp only [if_neg fits]
        rfl
  | some name =>
      cases entry : Fn.ofName? name with
      | none =>
          simp only [entry]
          rfl
      | some f =>
          simp only [entry]
          by_cases fits : commas + 1 = f.arity
          · simp only [if_pos fits]
            exact ⟨_, rfl, rfl, below, rfl, tidy⟩
          · simp only [if_neg fits]
            rfl

theorem matches_rparen (tidy : Tidy y.held y.groups) :
    Matches .rparen (regroup y.groups previous .rparen) y.rparen := by
  rw [rparen]
  rcases tidy.dropInner with ⟨nothing, none⟩ | ⟨caller, commas, below, outer, here, group, tidy⟩
  · rw [none]
    simp only [sendInner, sendWhile, nothing]
    rfl
  · rw [group]
    simp only [sendInner, sendWhile, here, group]
    exact matches_closeGroup tidy caller commas

theorem matches_step (follows : y.Follows previous) (known : t.Known)
    (opens : (functionOf previous).isSome → t = .lparen) :
    Matches t (regroup y.groups previous t) (y.step t) := by
  have tidy : t ≠ .lparen → Tidy y.held y.groups := fun other =>
    follows.tidy (Option.not_isSome_iff_eq_none.1 (other ∘ opens))
  cases t with
  | number _ | constant _ | var _ => exact ⟨_, rfl, rfl, _, rfl, tidy (by simp)⟩
  | function name => exact ⟨_, rfl, rfl, _, rfl, tidy (by simp)⟩
  | operator symbol unary =>
      obtain ⟨operation, entry⟩ := Option.isSome_iff_exists.1 known
      simp only [step, entry, operator]
      split
      · exact ⟨_, rfl, rfl, _, rfl, tidy (by simp)⟩
      · exact ⟨_, rfl, rfl, _, rfl, .waiting ((tidy (by simp)).sends operation)⟩
  | lparen =>
      obtain ⟨below, held, inner⟩ := follows
      refine ⟨_, rfl, ?_, _, rfl, ?_⟩
      · simp only [openGroup, held, inner.callerOf]
      · simp only [openGroup, held, inner.callerOf]
        exact .opened inner
  | rparen => exact matches_rparen (tidy (by simp))
  | comma => exact matches_comma (tidy (by simp))

/-! ## A run -/

/-- An outcome is the fault that a scan found, or there is neither. -/
def Agrees (scanned : Option Fault) (outcome : Except Fault (List Token)) : Prop :=
  match scanned with
  | some fault => outcome = .error fault
  | none => ∃ ordered, outcome = .ok ordered

theorem agrees_finish (follows : y.Follows previous) (plain : functionOf previous = none) :
    Agrees (groupingFault? y.groups previous []) y.finish := by
  have nested := (follows.tidy plain).any_isParen
  rw [finish]
  cases groups : y.groups with
  | nil =>
      rw [groups] at nested
      exact ⟨_, if_neg (by simp [nested])⟩
  | cons group outer =>
      rw [groups] at nested
      exact if_pos nested

theorem agrees_foldlM (follows : y.Follows previous) (known : ∀ t ∈ ts, t.Known)
    (calls : callsOpen ts = true)
    (opens : (functionOf previous).isSome → ts.head? = some .lparen) :
    Agrees (groupingFault? y.groups previous ts) (ts.foldlM step y >>= finish) := by
  induction ts generalizing y previous with
  | nil =>
      refine agrees_finish follows (Option.not_isSome_iff_eq_none.1 fun named => ?_)
      cases opens named
  | cons t ts ih =>
      have first := matches_step follows (known t List.mem_cons_self)
        fun named => Option.some.inj (opens named)
      rw [groupingFault?_cons, List.foldlM_cons]
      cases scanned : regroup y.groups previous t with
      | error fault =>
          rw [scanned] at first
          rw [show y.step t = .error fault from first]
          rfl
      | ok after =>
          rw [scanned] at first
          obtain ⟨z, stepped, groups, behind⟩ := first
          have further : callsOpen ts = true ∧
              ((functionOf (some t)).isSome → ts.head? = some .lparen) := by
            cases t <;> simp_all [callsOpen, functionOf]
          rw [stepped]
          show Agrees (groupingFault? after (some t) ts) (ts.foldlM step z >>= finish)
          rw [← groups]
          exact ih behind (fun u inside => known u (List.mem_cons_of_mem t inside)) further.1
            further.2

end Yard

/-- **The yard fails exactly for a fault of grouping, with that fault.** -/
theorem toPostfix_grouping (known : ∀ t ∈ ts, t.Known) (calls : callsOpen ts = true) :
    Yard.Agrees (groupingFault? [] none ts) (toPostfix ts) :=
  Yard.agrees_foldlM Yard.follows_start known calls fun named => by cases named

end SciCalc.Syntax
