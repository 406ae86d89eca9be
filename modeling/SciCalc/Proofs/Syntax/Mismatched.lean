/-
# SciCalc.Proofs.Syntax.Mismatched -- when parentheses are mismatched

Tokens that are put into postfix order have parentheses that belong together
(`balanced_of_toPostfix`), and tokens with such parentheses are refused for other reasons
only: for their commas or for a number of arguments (`toPostfix_ne_mismatched`).

The yard does not look at pairs.  It has one open group for every parenthesis that has opened
and not closed (`Yard.Reaches.depth`), finds a closing one mismatched where there is none, and
the end where there is one.  Parentheses that belong together never lead to either, because
nowhere do more close than open, and as many in the end (`Balanced.paired`).
-/
import SciCalc.Proofs.Syntax.Conservation
import SciCalc.Proofs.Syntax.Parenthesized

namespace SciCalc.Syntax

set_option autoImplicit false

variable {ts us front ordered : List Token} {t : Token}

/-! ## Counting -/

theorem count_of_isParen (noParen : t.isParen = false) :
    [t].count .lparen = 0 ∧ [t].count .rparen = 0 := by
  cases t with
  | lparen | rparen => cases noParen
  | _ => exact ⟨rfl, rfl⟩

/-- Nowhere do more parentheses close than have opened, and in the end as many. -/
structure Paired (ts : List Token) : Prop where
  ahead : ∀ front, front <+: ts → front.count .rparen ≤ front.count .lparen
  equal : ts.count .rparen = ts.count .lparen

theorem paired_nil : Paired [] where
  ahead front leads := by
    rw [List.prefix_nil.1 leads]
    exact Nat.le_refl _
  equal := rfl

theorem Paired.plain (paired : Paired ts) (noParen : t.isParen = false) : Paired (ts ++ [t]) := by
  obtain ⟨opens, closes⟩ := count_of_isParen noParen
  have equal : (ts ++ [t]).count .rparen = (ts ++ [t]).count .lparen := by
    simp only [List.count_append, opens, closes, paired.equal]
  refine ⟨fun front leads => ?_, equal⟩
  rcases List.prefix_concat_iff.1 leads with rfl | before
  · exact Nat.le_of_eq equal
  · exact paired.ahead front before

theorem Paired.group (before : Paired ts) (inner : Paired us) :
    Paired (ts ++ .lparen :: us ++ [.rparen]) := by
  have equal : List.count .rparen (ts ++ .lparen :: us ++ [Token.rparen]) =
      List.count .lparen (ts ++ .lparen :: us ++ [Token.rparen]) := by
    simp [before.equal, inner.equal]
  refine ⟨fun front leads => ?_, equal⟩
  rcases List.prefix_concat_iff.1 leads with rfl | within
  · exact Nat.le_of_eq equal
  · rcases List.prefix_or_prefix_of_prefix within (List.prefix_append ts _) with
      outside | ⟨rest, rfl⟩
    · exact before.ahead front outside
    · rcases List.prefix_cons_iff.1 ((List.prefix_append_right_inj ts).1 within) with
        rfl | ⟨inside, rfl, leading⟩
      · simp [before.equal]
      · have fewer := inner.ahead inside leading
        simp [before.equal]
        omega

theorem Balanced.paired (balanced : Balanced ts) : Paired ts := by
  induction balanced with
  | nil => exact paired_nil
  | plain _ noParen ih => exact ih.plain noParen
  | group _ _ before inner => exact before.group inner

namespace Yard

variable {y : Yard}

/-- There is an open group for every parenthesis that has opened and not closed. -/
theorem Reaches.depth (reached : Reaches front y) (known : ∀ t ∈ front, t.Known) :
    front.count .lparen = front.count .rparen + y.groups.length := by
  induction front using List.reverseRecOn generalizing y with
  | nil =>
      cases reached
      rfl
  | append_singleton front t ih =>
      obtain ⟨x, earlier, stepped⟩ := reaches_snoc.1 reached
      have before : ∀ u ∈ front, u.Known := fun u inside => known u (List.mem_append_left _ inside)
      rw [List.count_append, List.count_append, ih earlier before]
      cases moves_of_step (earlier.kept before).1 stepped with
      | emit immediate =>
          have noParen : t.isParen = false := by
            cases t with
            | lparen | rparen => cases immediate
            | _ => rfl
          obtain ⟨opens, closes⟩ := count_of_isParen noParen
          rw [opens, closes]
          rfl
      | function | operator _ => rfl
      | opened => exact Nat.add_assoc _ _ _
      | comma _ groups =>
          rw [groups]
          rfl
      | group _ groups | call _ groups =>
          rw [groups]
          simp
          omega

/-! ## What is found mismatched -/

/-- A step finds parentheses mismatched only where one closes and no group is open. -/
theorem closed_of_mismatched (sound : y.Sound) (failed : y.step t = .error .mismatchedParens) :
    t = .rparen ∧ y.groups = [] := by
  cases t with
  | number _ | constant _ | var _ | function _ | lparen => cases failed
  | operator symbol unary =>
      rw [step] at failed
      split at failed <;> cases failed
  | comma =>
      simp only [step, comma] at failed
      split at failed <;> cases failed
  | rparen =>
      refine ⟨rfl, ?_⟩
      rcases sound.aligned.dropInner with ⟨-, none⟩ | ⟨below, outer, commas, held, groups, -⟩
      · exact none
      · simp only [step, rparen, sendInner, sendWhile, held, groups, closeGroup] at failed
        cases called : callerOf below with
        | none =>
            simp only [called] at failed
            split at failed <;> cases failed
        | some name =>
            obtain ⟨rest, rfl⟩ := eq_function_of_callerOf called
            simp only [called] at failed
            split at failed
            · cases failed
            · split at failed <;> cases failed

/-- With no group open, nothing is left on the stack that the end could object to. -/
theorem Reaches.finish (reached : Reaches front y) (known : ∀ t ∈ front, t.Known)
    (closed : y.groups = []) : ∃ ordered, y.finish = .ok ordered := by
  obtain ⟨sound, -, conserves⟩ := reached.kept known
  have plain : ∀ t ∈ y.held, t.isParen = false := by
    intro t inside
    cases grouping : t.isGrouping with
    | false =>
        cases t with
        | lparen | rparen => cases grouping
        | _ => rfl
    | true =>
        -- It is an opening parenthesis, and those have a group.
        rw [(conserves.waiting t inside).2 grouping] at inside
        rcases sound.aligned.dropInner with ⟨nothing, -⟩ | ⟨below, outer, commas, -, groups, -⟩
        · have passed := List.dropWhile_eq_nil_iff.1 nothing .lparen inside
          cases passed
        · rw [closed] at groups
          cases groups
  refine ⟨_, if_neg fun paren => ?_⟩
  obtain ⟨t, inside, own⟩ := List.any_eq_true.1 paren
  rw [plain t inside] at own
  cases own

theorem History.balanced (history : History front y) (closed : y.groups = []) :
    Balanced front := by
  cases history with
  | outside balanced _ _ => exact balanced
  | inside _ _ _ _ groups =>
      rw [groups] at closed
      cases closed

end Yard

/-- Tokens that are put into postfix order have parentheses that belong together. -/
theorem balanced_of_toPostfix (known : ∀ t ∈ ts, t.Known) (ends : toPostfix ts = .ok ordered) :
    Balanced ts := by
  obtain ⟨y, reached, finished⟩ := bind_eq_ok.1 ends
  have reached : Yard.Reaches ts y := reached
  obtain ⟨sound, history, -⟩ := reached.kept known
  exact history.balanced (Yard.finish_eq_ok sound finished).2.1

/-- **Parentheses that belong together are never found mismatched**, whatever else stands
between them. -/
theorem toPostfix_ne_mismatched (known : ∀ t ∈ ts, t.Known) (balanced : Balanced ts) :
    toPostfix ts ≠ .error .mismatchedParens := by
  intro failed
  have paired := balanced.paired
  rcases bind_eq_error.1 failed with stuck | ⟨y, reached, unfinished⟩
  · obtain ⟨front, t, behind, y, rfl, reached, fails⟩ := exists_failing_of_foldlM stuck
    have reached : Yard.Reaches front y := reached
    have before : ∀ u ∈ front, u.Known := fun u inside => known u (List.mem_append_left _ inside)
    obtain ⟨rfl, closed⟩ := Yard.closed_of_mismatched (reached.kept before).1 fails
    have depth := reached.depth before
    have fewer := paired.ahead (front ++ [.rparen]) ⟨behind, by simp⟩
    have opens : [Token.rparen].count .lparen = 0 := rfl
    have closes : [Token.rparen].count .rparen = 1 := rfl
    rw [List.count_append, List.count_append, depth, closed, List.length_nil, opens, closes]
      at fewer
    omega
  · have reached : Yard.Reaches ts y := reached
    have depth := reached.depth known
    have equal := paired.equal
    have closed : y.groups = [] := List.length_eq_zero_iff.1 (by omega)
    obtain ⟨ordered, finished⟩ := reached.finish known closed
    rw [finished] at unfinished
    cases unfinished

end SciCalc.Syntax
