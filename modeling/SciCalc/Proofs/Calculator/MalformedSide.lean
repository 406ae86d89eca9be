/-
# SciCalc.Proofs.Calculator.MalformedSide -- an equation with a malformed side

The sides of an equation are put in parentheses as text, and the whole is parsed once.  So a
fault of one side can be undone by what is put around it and by the other side.  Which can:

* A character that begins no lexeme begins none between parentheses (`sides_of_tokenize`).
* A call with a wrong number of arguments, and a comma in parentheses that no function
  opened, are the same fault above an open parenthesis (`Yard.rparen_above_error`).
* A comma outside of all parentheses is inside the pair put around the side.  That pair has
  no function, so it cannot be closed any more (`Yard.Misparted`), and neither can the text end.
* Mismatched parentheses: a closing one too many takes the parenthesis put in front of its
  side, an opening one too many that put behind, and the other side may make up for it.

The last is the only way, and then the parentheses of the whole belong together
(`mismatched_of_difference`).  It does happen: `x)-(1=2` is solved as `(x)-(1)-(2)`, though
`x)-(1` is no expression (`solve_across_sides`).
-/
import SciCalc.Proofs.Calculator.EquationSides
import SciCalc.Proofs.Syntax.Mismatched
import SciCalc.Proofs.TaskFault

namespace SciCalc

set_option autoImplicit false

open SciCalc.Syntax

namespace Syntax

namespace Yard

variable {y z base : Yard} {t : Token} {ts rest below : List Token} {outer : List Group}
  {commas : Nat} {fault : Fault}

/-! ## Parentheses that cannot be closed -/

/-- There is a comma in parentheses that no function opened. -/
def Misparted (y : Yard) : Prop := ∃ commas, ⟨none, commas + 1⟩ ∈ y.groups

theorem Misparted.step (misparted : y.Misparted) (moved : Moves y t z) : z.Misparted := by
  obtain ⟨commas, inside⟩ := misparted
  cases moved with
  | emit _ | function | operator _ => exact ⟨commas, inside⟩
  | opened => exact ⟨commas, List.mem_cons_of_mem _ inside⟩
  | comma held groups =>
      rw [groups] at inside
      rcases List.mem_cons.1 inside with innermost | further
      · cases innermost
        exact ⟨commas + 1, List.mem_cons_self⟩
      · exact ⟨commas, List.mem_cons_of_mem _ further⟩
  | group held groups | call held groups =>
      -- What closes is another group: one without a comma, or that of a function.
      rw [groups] at inside
      rcases List.mem_cons.1 inside with innermost | further
      · cases innermost
      · exact ⟨commas, further⟩

theorem Misparted.reads (misparted : y.Misparted) (sound : y.Sound) (known : ∀ t ∈ ts, t.Known)
    (reads : y.Reads ts z) : z.Misparted := by
  induction ts generalizing y with
  | nil =>
      cases reads
      exact misparted
  | cons t ts ih =>
      obtain ⟨x, stepped, further⟩ := reads_cons.1 reads
      exact ih (misparted.step (moves_of_step sound stepped))
        (sound.of_step (known t List.mem_cons_self) stepped)
        (fun u inside => known u (List.mem_cons_of_mem t inside)) further

theorem Misparted.groups_ne_nil (misparted : y.Misparted) : y.groups ≠ [] := by
  obtain ⟨commas, inside⟩ := misparted
  exact List.ne_nil_of_mem inside

/-! ## A step that fails above an open parenthesis -/

theorem comma_above_error (sound : y.Sound) (floor : base.held = .lparen :: below)
    (uncalled : base.groups = ⟨none, commas⟩ :: outer) (failed : y.comma = .error fault) :
    ∃ z, (y.above base).comma = .ok z ∧ z.Misparted := by
  rcases sound.aligned.dropInner with ⟨nothing, none⟩ | ⟨inner, more, count, held, groups, -⟩
  · refine ⟨⟨y.sendInner.output ++ base.output, base.held, ⟨.none, commas + 1⟩ :: outer⟩, ?_,
      commas, List.mem_cons_self⟩
    rw [comma, sendInner, sendWhile_above floor rfl]
    simp only [sendWhile, above, nothing, none, floor, uncalled, List.nil_append]
    rfl
  · simp only [comma, sendInner, sendWhile, held, groups] at failed
    cases failed

theorem closeGroup_above_error (base : Yard) {output held : List Token} {groups : List Group}
    (failed : closeGroup ⟨output, held, groups⟩ ⟨callerOf held, commas⟩ = .error fault) :
    (above ⟨output, held, groups⟩ base).closeGroup ⟨callerOf held, commas⟩ = .error fault := by
  simp only [closeGroup] at failed ⊢
  cases called : callerOf held with
  | none =>
      simp only [called] at failed ⊢
      split at failed
      · cases failed
      · rw [if_neg ‹_›]
        exact failed
  | some name =>
      -- The function is on the stack, so there is something to take off it.
      obtain ⟨held, rfl⟩ := eq_function_of_callerOf called
      simp only [called] at failed ⊢
      cases entry : Fn.ofName? name with
      | none =>
          simp only [entry] at failed
          exact failed
      | some f =>
          simp only [entry] at failed ⊢
          split at failed
          · cases failed
          · rw [if_neg ‹_›]
            exact failed

theorem rparen_above_error (sound : y.Sound) (floor : base.held = .lparen :: below)
    (failed : y.rparen = .error fault) :
    fault = .mismatchedParens ∨ (y.above base).rparen = .error fault := by
  rcases sound.sendInner with nothing | ⟨inner, more, count, held, groups, -, -⟩
  · simp only [rparen, nothing] at failed
    cases failed
    exact .inl rfl
  · refine .inr ?_
    simp only [rparen, held, groups] at failed
    have closing := closeGroup_above_error base failed
    rw [rparen, sendInner, sendWhile_above floor rfl, ← sendInner]
    simp only [above, held, groups, List.cons_append] at closing ⊢
    exact closing

/-- A step that fails, fails above an open parenthesis too, unless the fault is that
parentheses are mismatched, or the parenthesis gets a comma that it cannot have. -/
theorem step_above_error (sound : y.Sound) (known : t.Known)
    (floor : base.held = .lparen :: below) (uncalled : base.groups = ⟨none, commas⟩ :: outer)
    (failed : y.step t = .error fault) :
    fault = .mismatchedParens ∨ (y.above base).step t = .error fault ∨
      ∃ z, (y.above base).step t = .ok z ∧ z.Misparted := by
  cases t with
  | number _ | constant _ | var _ | function _ | lparen => cases failed
  | operator symbol unary =>
      obtain ⟨o, entry⟩ := Option.isSome_iff_exists.1 known
      simp only [step, entry] at failed
      cases failed
  | comma => exact .inr (.inr (comma_above_error sound floor uncalled failed))
  | rparen => exact (rparen_above_error sound floor failed).imp_right .inl

/-- A token that fails alone, but comes through above an open parenthesis with all groups closed
in the end, has found parentheses mismatched. -/
theorem mismatched_of_step (sound : y.Sound) (above : (y.above base).Sound) (known : t.Known)
    (restKnown : ∀ t ∈ rest, t.Known) (floor : base.held = .lparen :: below)
    (uncalled : base.groups = ⟨none, commas⟩ :: outer) (failed : y.step t = .error fault)
    (reads : (y.above base).Reads (t :: rest) z) (closed : z.groups = []) :
    fault = .mismatchedParens := by
  obtain ⟨next, stepped, last⟩ := reads_cons.1 reads
  rcases step_above_error sound known floor uncalled failed with
    mismatched | failing | ⟨parted, parting, misparted⟩
  · exact mismatched
  · rw [stepped] at failing
    cases failing
  · cases Except.ok.inj (stepped.symm.trans parting)
    have ended := misparted.reads (above.of_step known stepped) restKnown last
    exact absurd closed ended.groups_ne_nil

/-- Tokens that cannot be put into postfix order alone, but come through behind a parenthesis
that no function opens, with all groups closed in the end, have mismatched parentheses. -/
theorem mismatched_of_reads (known : ∀ t ∈ ts, t.Known) (restKnown : ∀ t ∈ rest, t.Known)
    (sound : y.Sound) (noCaller : callerOf y.held = none)
    (reads : y.Reads (.lparen :: ts ++ rest) z) (closed : z.groups = [])
    (failed : toPostfix ts = .error fault) : fault = .mismatchedParens := by
  rcases bind_eq_error.1 failed with stuck | ⟨x, -, unfinished⟩
  · obtain ⟨front, t, behind, x, rfl, reached, fails⟩ := exists_failing_of_foldlM stuck
    have frontKnown : ∀ u ∈ front, u.Known := fun u inside =>
      known u (List.mem_append_left _ inside)
    have lastKnown : ∀ u ∈ behind ++ rest, u.Known := by
      intro u inside
      rcases List.mem_append.1 inside with own | other
      · exact known u (List.mem_append_right _ (List.mem_cons_of_mem t own))
      · exact restKnown u other
    have opened : y.openGroup.Sound := sound.of_step (t := .lparen) trivial rfl
    have floor : y.openGroup.held = .lparen :: y.held := rfl
    have uncalled : y.openGroup.groups = ⟨none, 0⟩ :: y.groups := by rw [openGroup, noCaller]
    -- Behind the parenthesis the tokens come through up to the same place, and beyond it.
    have above : y.openGroup.Reads front (x.above y.openGroup) := Reads.above floor reached
    rw [List.cons_append, List.append_assoc, List.cons_append] at reads
    obtain ⟨first, opening, inner⟩ := reads_cons.1 reads
    cases opening
    obtain ⟨here, again, further⟩ := reads_append.1 inner
    cases Except.ok.inj (above.symm.trans again)
    exact mismatched_of_step (sound_start.of_reads frontKnown reached)
      (opened.of_reads frontKnown above) (known t (List.mem_append_right _ List.mem_cons_self))
      lastKnown floor uncalled fails further closed
  · rw [finish] at unfinished
    split at unfinished <;> cases unfinished
    rfl

end Yard

/-! ## The difference of two sides -/

variable {ts us : List Token}

/-- Where the difference can be put into postfix order, all of its parentheses belong
together, and a side that cannot alone has mismatched ones. -/
theorem mismatched_of_difference {ordered : List Token}
    (known : ∀ t ∈ differenceTokens ts us, t.Known)
    (ends : toPostfix (differenceTokens ts us) = .ok ordered) :
    Balanced (differenceTokens ts us) ∧
      ∀ side fault, side = ts ∨ side = us → toPostfix side = .error fault →
        fault = .mismatchedParens := by
  have leftKnown : ∀ t ∈ ts, t.Known := fun t inside =>
    known t (by simp [differenceTokens, inside])
  have rightKnown : ∀ t ∈ us, t.Known := fun t inside =>
    known t (by simp [differenceTokens, inside])
  obtain ⟨z, run, finished⟩ := bind_eq_ok.1 ends
  have reached : Yard.Reaches (differenceTokens ts us) z := run
  have closed := (Yard.finish_eq_ok (reached.kept known).1 finished).2.1
  refine ⟨balanced_of_toPostfix known ends, ?_⟩
  have whole : Yard.start.Reads (differenceTokens ts us) z := run
  rw [differenceTokens] at known whole
  rintro side fault (rfl | rfl) failed
  · exact Yard.mismatched_of_reads leftKnown
      (fun t inside => known t (List.mem_append_right _ inside)) Yard.sound_start rfl whole closed
      failed
  · rw [List.append_cons, ← List.cons_append] at known whole
    obtain ⟨x, leftRun, further⟩ := Yard.reads_append.1 whole
    obtain ⟨y, stepped, rightRun⟩ := Yard.reads_cons.1 further
    have leftSound := Yard.sound_start.of_reads
      (fun t inside => known t (List.mem_append_left _ inside)) leftRun
    have minusSound := leftSound.of_step (t := .operator "-" false) rfl stepped
    -- The minus lies on top of the stack.
    cases stepped
    have closing : ∀ t ∈ [Token.rparen], t.Known := fun t inside =>
      List.mem_singleton.1 inside ▸ trivial
    exact Yard.mismatched_of_reads rightKnown closing minusSound rfl rightRun closed failed

/-- A side that cannot be parsed keeps the difference from being parsed, unless its parentheses
are mismatched and those of the difference belong together. -/
theorem parse_difference_fails {strict : Bool} {left right side : String} {cause : Fault}
    (chosen : side = left ∨ side = right) (rejected : (parse strict side).outcome = .error cause)
    (apart : cause = .mismatchedParens → ∀ ts us, (tokenize strict left).outcome = .ok ts →
      (tokenize strict right).outcome = .ok us → ¬ Balanced (differenceTokens ts us)) :
    ∃ fault, (parse strict ("(" ++ left ++ ")-(" ++ right ++ ")")).outcome = .error fault := by
  cases parsed : (parse strict ("(" ++ left ++ ")-(" ++ right ++ ")")).outcome with
  | error fault => exact ⟨fault, rfl⟩
  | ok ordered =>
      obtain ⟨whole, read, known, ends⟩ := known_of_parse Digits.agree_table parsed
      obtain ⟨ts, us, leftRead, rightRead, rfl⟩ := sides_of_tokenize read
      obtain ⟨balanced, mismatched⟩ := mismatched_of_difference known ends
      have own : cause = .mismatchedParens := by
        rw [outcome_parse] at rejected
        rcases chosen with rfl | rfl
        · rw [leftRead] at rejected
          exact mismatched ts cause (.inl rfl) rejected
        · rw [rightRead] at rejected
          exact mismatched us cause (.inr rfl) rejected
      exact absurd balanced (apart own ts us leftRead rightRead)

/-- Parentheses that belong together across the sides are not found mismatched, whatever those
of the sides are. -/
theorem parse_difference_ne_mismatched {strict : Bool} {left right : String}
    (leftRead : (tokenize strict left).outcome = .ok ts)
    (rightRead : (tokenize strict right).outcome = .ok us)
    (balanced : Balanced (differenceTokens ts us)) :
    (parse strict ("(" ++ left ++ ")-(" ++ right ++ ")")).outcome ≠
      .error .mismatchedParens := by
  have read := tokenize_difference leftRead rightRead
  rw [outcome_parse, read]
  exact toPostfix_ne_mismatched (known_of_tokenize Digits.agree_table read) balanced

end Syntax

/-! ## Solving -/

/-- Solving an expression that cannot be parsed is refused as solving is. -/
theorem solve_of_unparsed {s : Subject} {cause : Fault} (o : Solve.Options)
    (unparsed : (parse s.strict s.expression).outcome = .error cause) :
    ∃ fault, (solve s o).outcome = .error fault ∧ fault.kind = .solving := by
  cases known : Root.Method.ofName? o.method with
  | none => exact ⟨.unknownMethod o.method, by rw [solve, known]; rfl, rfl⟩
  | some method =>
      have sampled := (outcome_sampler_of_unparsed .solving unparsed).2
      refine ⟨_, ?_, kind_wrapped .solving ("Cannot parse " ++ Text.quoted s.expression) cause⟩
      rw [solve, known, Report.outcome_bind_ok _ _ method rfl]
      exact Report.outcome_bind_error _ _ _ sampled

namespace Calculator

/-- **An equation with a malformed side is not solved**, unless the side's parentheses are
mismatched and, with the other side and what is put around both, belong together.  The text of
the equation cannot be parsed then, and no calculator that reads it in the same way solves
it. -/
theorem solve_malformed_side {strict : Bool} {left right side : String} {cause : Fault}
    (leftSide : equalsSign ∉ left.toList) (rightSide : equalsSign ∉ right.toList)
    (chosen : side = left ∨ side = right) (rejected : (parse strict side).outcome = .error cause)
    (apart : cause = .mismatchedParens → ∀ ts us, (tokenize strict left).outcome = .ok ts →
      (tokenize strict right).outcome = .ok us → ¬ Balanced (differenceTokens ts us)) :
    (∃ text fault, equation (left ++ "=" ++ right) = .ok text ∧
        (parse strict text).outcome = .error fault) ∧
      ∀ (c : Calculator) (argument : String) (guess : Option Float) (options : Solve.Options),
        c.strict = strict → ∃ fault,
          (c.solve (left ++ "=" ++ right) argument guess options).outcome = .error fault ∧
            fault.kind = .solving := by
  have text := equation_sides leftSide rightSide
  obtain ⟨fault, unparsed⟩ := parse_difference_fails chosen rejected apart
  refine ⟨⟨_, fault, text, unparsed⟩, ?_⟩
  rintro c argument guess options rfl
  have subject : (parse (c.subject ("(" ++ left ++ ")-(" ++ right ++ ")")
      (bindingName argument)).strict ("(" ++ left ++ ")-(" ++ right ++ ")")).outcome =
        .error fault := unparsed
  obtain ⟨refusal, refused, kind⟩ := solve_of_unparsed
    { options with guess := guess.getD (c.defaultGuess argument) } subject
  refine ⟨refusal, ?_, kind⟩
  rw [solve, text, Report.outcome_bind_ok _ _ _ rfl]
  exact Report.outcome_bind_error _ _ _ refused

/-- A parenthesis that the left side opens takes the one put behind it, and nothing on the right
makes up for it. -/
theorem solve_malformed_side_unclosed :
    (parse true "(x").outcome = .error .mismatchedParens ∧
      (∃ text fault, equation ("(x" ++ "=" ++ "y") = .ok text ∧
        (parse true text).outcome = .error fault) ∧
      ∃ fault, ((Calculator.new .degrees true).solve ("(x" ++ "=" ++ "y") "X" none {}).outcome =
        .error fault ∧ fault.kind = .solving := by
  have leftSide : equalsSign ∉ "(x".toList := by decide +kernel
  have rightSide : equalsSign ∉ "y".toList := by decide +kernel
  have rejected : (parse true "(x").outcome = .error .mismatchedParens := by decide +kernel
  have apart (ts us : List Token) (leftRead : (tokenize true "(x").outcome = .ok ts)
      (rightRead : (tokenize true "y").outcome = .ok us) :
      ¬ Balanced (differenceTokens ts us) := by
    have leftTokens : (tokenize true "(x").outcome = .ok [.lparen, .var "X"] := by decide +kernel
    have rightTokens : (tokenize true "y").outcome = .ok [.var "Y"] := by decide +kernel
    cases leftTokens.symm.trans leftRead
    cases rightTokens.symm.trans rightRead
    exact fun balanced => absurd balanced.paired.equal (by decide +kernel)
  obtain ⟨unparsed, unsolved⟩ :=
    solve_malformed_side leftSide rightSide (.inl rfl) rejected fun _ => apart
  exact ⟨rejected, unparsed, unsolved (.new .degrees true) "X" none {} rfl⟩

/-- A closing parenthesis too many on the left is matched by the one in front of its side, and
the opening one too many behind it by that at the end: the side alone is refused, and the
equation is solved as if its parentheses stood elsewhere. -/
theorem solve_across_sides :
    equalsSign ∉ "x)-(1".toList ∧ equalsSign ∉ "2".toList ∧
      (parse true "x)-(1").outcome = .error .mismatchedParens ∧
      equation ("x)-(1" ++ "=" ++ "2") = .ok "(x)-(1)-(2)" ∧
      (parse true "(x)-(1)-(2)").outcome = .ok [.var "X", .number 1.0, .operator "-" false,
        .number 2.0, .operator "-" false] ∧
      ((Calculator.new .degrees true).solve "x)-(1=2" "X" none {}).outcome.map (·.1) =
        .ok 3.0 := by
  decide +kernel

end Calculator

end SciCalc
