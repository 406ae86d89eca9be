/-
# SciCalc.Proofs.Syntax.ParseFault -- how putting an expression into postfix order fails

An expression fails for a character that begins no lexeme, for its parentheses and commas,
or for the number of a function's arguments, and for nothing else (`ofParsing_of_parse`): no
table is asked for a name it does not have, and no stack is popped while empty.  Its numbers
are read, if what is taken for a digit can be read as one (`Digits.Agree`).

Names are found because lexemes are spelled as the tables have them (`Lexeme.known_tokens`).
For the stack the invariant is that open parentheses and groups stand side by side
(`Yard.Aligned`): there is a group for every parenthesis on the stack, and it knows the
function that lies directly below.  Each step keeps it, because operators and functions come
and go above the innermost parenthesis only.
-/
import SciCalc.Proofs.Outcome
import SciCalc.Proofs.Syntax.Splitting
import SciCalc.Syntax.Yard

set_option autoImplicit false

namespace SciCalc

/-- A fault of characters, of parentheses and commas, or of the number of arguments. -/
def Fault.OfParsing (fault : Fault) : Prop := fault.kind = .malformed ∨ fault.kind = .arity

end SciCalc

namespace SciCalc.Syntax

/-- The tables know what the token names. -/
def Token.Known : Token → Prop
  | operator symbol unary => (operationOf? symbol unary).isSome = true
  | function name => (Fn.ofName? name).isSome = true
  | _ => True

namespace Yard

/-- The parentheses on a stack and the open groups, innermost first: each group knows the
function directly below its parenthesis. -/
inductive Aligned : List Token → List Group → Prop
  | nil : Aligned [] []
  | held {t : Token} {held : List Token} {groups : List Group} (noParen : t.isLParen = false)
      (below : Aligned held groups) : Aligned (t :: held) groups
  | opened {held : List Token} {groups : List Group} {commas : Nat}
      (below : Aligned held groups) :
      Aligned (.lparen :: held) (⟨callerOf held, commas⟩ :: groups)

/-- What is true of a yard between two tokens. -/
structure Sound (y : Yard) : Prop where
  aligned : Aligned y.held y.groups
  known : ∀ t ∈ y.held, t.Known

theorem sound_start : start.Sound := ⟨.nil, fun _ inside => by cases inside⟩

variable {y z : Yard} {held : List Token} {groups : List Group}

theorem Aligned.dropWhile (aligned : Aligned held groups) {condition : Token → Bool}
    (stops : condition .lparen = false) : Aligned (held.dropWhile condition) groups := by
  induction aligned with
  | nil => exact .nil
  | @held t _ _ noParen below ih =>
      rw [List.dropWhile_cons]
      split
      · exact ih
      · exact .held noParen below
  | opened below _ =>
      rw [List.dropWhile_cons_of_neg (by simp [stops])]
      exact .opened below

theorem Sound.sendWhile (sound : y.Sound) {condition : Token → Bool}
    (stops : condition .lparen = false) : (y.sendWhile condition).Sound :=
  ⟨sound.aligned.dropWhile stops, fun t inside =>
    sound.known t ((List.dropWhile_sublist _).subset inside)⟩

theorem Sound.emit (sound : y.Sound) (t : Token) : (y.emit t).Sound :=
  ⟨sound.aligned, sound.known⟩

theorem Sound.hold (sound : y.Sound) {t : Token} (known : t.Known) (noParen : t.isLParen = false) :
    (y.hold t).Sound := by
  refine ⟨.held noParen sound.aligned, fun u inside => ?_⟩
  rcases List.mem_cons.1 inside with rfl | before
  · exact known
  · exact sound.known u before

/-- Below everything that stands above it is the innermost parenthesis, with its group. -/
theorem Aligned.dropInner (aligned : Aligned held groups) :
    held.dropWhile (!·.isLParen) = [] ∧ groups = [] ∨
      ∃ below outer commas, held.dropWhile (!·.isLParen) = .lparen :: below ∧
        groups = ⟨callerOf below, commas⟩ :: outer ∧ Aligned below outer := by
  induction aligned with
  | nil => exact .inl ⟨rfl, rfl⟩
  | held noParen _ ih =>
      rw [List.dropWhile_cons_of_pos (by simp [noParen])]
      exact ih
  | @opened below outer commas aligned _ => exact .inr ⟨below, outer, commas, rfl, rfl, aligned⟩

/-- What a comma or a closing parenthesis finds. -/
theorem Sound.sendInner (sound : y.Sound) :
    y.sendInner.held = [] ∨
      ∃ below outer commas, y.sendInner.held = .lparen :: below ∧
        y.sendInner.groups = ⟨callerOf below, commas⟩ :: outer ∧ Aligned below outer ∧
        ∀ t ∈ below, t.Known := by
  rcases sound.aligned.dropInner with ⟨nothing, -⟩ | ⟨below, outer, commas, here, group, aligned⟩
  · exact .inl nothing
  · refine .inr ⟨below, outer, commas, here, group, aligned, fun t inside => ?_⟩
    have inner : t ∈ y.held.dropWhile (!·.isLParen) := here ▸ List.mem_cons_of_mem _ inside
    exact sound.known t ((List.dropWhile_sublist _).subset inner)

/-- What a step comes to: a sound yard again, or a fault of parsing. -/
def Orderly (outcome : Except Fault Yard) : Prop :=
  match outcome with
  | .ok z => z.Sound
  | .error fault => fault.OfParsing

theorem orderly_comma (sound : y.Sound) : Orderly y.comma := by
  rw [comma]
  rcases sound.sendInner with nothing | ⟨below, outer, commas, here, group, aligned, known⟩
  · simp only [nothing]
    exact .inl rfl
  · simp only [here, group]
    refine ⟨?_, fun t inside => ?_⟩
    · exact .opened aligned
    · rcases List.mem_cons.1 inside with rfl | before
      · trivial
      · exact known t before

theorem eq_function_of_callerOf {name : String} (called : callerOf held = some name) :
    ∃ below, held = .function name :: below := by
  unfold callerOf at called
  split at called
  · cases called
    exact ⟨_, rfl⟩
  · cases called

/-- A group that closes has its function on top of the stack. -/
theorem orderly_closeGroup {output : List Token} {below : List Token} {outer : List Group}
    {commas : Nat} (aligned : Aligned below outer) (known : ∀ t ∈ below, t.Known) :
    Orderly (closeGroup ⟨output, below, outer⟩ ⟨callerOf below, commas⟩) := by
  rw [closeGroup]
  cases called : callerOf below with
  | none =>
      dsimp only
      split
      · exact ⟨aligned, known⟩
      · exact .inl rfl
  | some name =>
      obtain ⟨rest, rfl⟩ := eq_function_of_callerOf called
      obtain ⟨f, entry⟩ := Option.isSome_iff_exists.1 (known _ List.mem_cons_self)
      simp only [entry]
      split
      · cases aligned with
        | held _ further => exact ⟨further, fun t inside => known t (List.mem_cons_of_mem _ inside)⟩
      · exact .inr rfl

theorem orderly_rparen (sound : y.Sound) : Orderly y.rparen := by
  rw [rparen]
  rcases sound.sendInner with nothing | ⟨below, outer, commas, here, group, aligned, known⟩
  · simp only [nothing]
    exact .inl rfl
  · simp only [here, group]
    exact orderly_closeGroup aligned known

theorem orderly_step (sound : y.Sound) {t : Token} (known : t.Known) : Orderly (y.step t) := by
  cases t with
  | number _ | constant _ | var _ => exact sound.emit _
  | function name => exact sound.hold known rfl
  | operator symbol unary =>
      obtain ⟨o, entry⟩ := Option.isSome_iff_exists.1 known
      simp only [step, entry, operator]
      split
      · exact sound.emit _
      · exact (sound.sendWhile rfl).hold known rfl
  | lparen =>
      refine ⟨.opened sound.aligned, fun t inside => ?_⟩
      rcases List.mem_cons.1 inside with rfl | before
      · trivial
      · exact sound.known t before
  | rparen => exact orderly_rparen sound
  | comma => exact orderly_comma sound

theorem Sound.of_step (sound : y.Sound) {t : Token} (known : t.Known)
    (stepped : y.step t = .ok z) : z.Sound := by
  have orderly := orderly_step sound known
  rwa [stepped] at orderly

theorem orderly_foldlM {ts : List Token} (sound : y.Sound) (known : ∀ t ∈ ts, t.Known) :
    Orderly (ts.foldlM step y) := by
  induction ts generalizing y with
  | nil => exact sound
  | cons t ts ih =>
      have first := orderly_step sound (known t List.mem_cons_self)
      rw [List.foldlM_cons]
      cases result : y.step t with
      | error fault =>
          rw [result] at first
          exact first
      | ok z =>
          rw [result] at first
          exact ih first fun u inside => known u (List.mem_cons_of_mem t inside)

end Yard

/-- Known tokens fail for their order only. -/
theorem ofParsing_of_toPostfix {ts : List Token} (known : ∀ t ∈ ts, t.Known) {fault : Fault}
    (failed : toPostfix ts = .error fault) : fault.OfParsing := by
  have run := Yard.orderly_foldlM Yard.sound_start known
  rw [toPostfix, bind_eq_error] at failed
  rcases failed with reading | ⟨y, -, finishing⟩
  · rw [reading] at run
    exact run
  · rw [Yard.finish] at finishing
    split at finishing <;> cases finishing
    exact .inl rfl

/-! ## The tokens of a text -/

theorem operationOf?_isSome_of_listed {name : List Char}
    (member : name ∈ LexemeKind.listed .operator) :
    (Token.operationOf? (String.ofList name) false).isSome = true := by
  have all : (LexemeKind.listed .operator).all
      (fun name => (Token.operationOf? (String.ofList name) false).isSome) = true := by
    decide +kernel
  exact List.all_eq_true.1 all name member

theorem ofName?_isSome_of_listed {name : List Char}
    (member : name ∈ LexemeKind.listed .function) :
    (Fn.ofName? (String.ofList name)).isSome = true := by
  have all : (LexemeKind.listed .function).all
      (fun name => (Fn.ofName? (String.ofList name)).isSome) = true := by
    decide +kernel
  exact List.all_eq_true.1 all name member

section Digits

variable [Digits]

/-- The tables know the tokens of well-spelled lexemes. -/
theorem Lexeme.known_tokens {l : Lexeme} (spelled : l.kind.Spells l.text)
    (previous : Option Token) : ∀ t ∈ l.tokens previous, t.Known := by
  intro t inside
  obtain ⟨kind, text⟩ := l
  cases kind with
  | function =>
      cases List.mem_singleton.1 inside
      exact ofName?_isSome_of_listed
        ((LexemeKind.spells_iff_listed (by decide) (by decide)).1 spelled)
  | operator =>
      have entry := operationOf?_isSome_of_listed
        ((LexemeKind.spells_iff_listed (by decide) (by decide)).1 spelled)
      simp only [Lexeme.tokens] at inside
      split at inside
      · split at inside
        · rcases List.mem_cons.1 inside with rfl | product
          · trivial
          · cases List.mem_singleton.1 product
            rfl
        · split at inside
          · cases inside
          · cases List.mem_singleton.1 inside
            exact entry
      · cases List.mem_singleton.1 inside
        exact entry
  | number =>
      obtain ⟨x, -, rfl⟩ := List.mem_map.1 inside
      trivial
  | constant | lparen | rparen | comma | var =>
      cases List.mem_singleton.1 inside
      trivial

theorem known_tokensAfter {ls : List Lexeme} (spelled : ∀ l ∈ ls, l.kind.Spells l.text)
    (previous : Option Token) : ∀ t ∈ tokensAfter previous ls, t.Known := by
  intro t inside
  obtain ⟨l, among, before, own⟩ := mem_tokensAfter inside
  exact l.known_tokens (spelled l among) before t own

/-- The outcome of parsing a text is that of putting its tokens into postfix order. -/
theorem outcome_parse (strict : Bool) (text : String) :
    (parse strict text).outcome = (tokenize strict text).outcome >>= toPostfix := by
  rw [parse, Report.outcome_bind]
  congr
  funext ts
  cases toPostfix ts <;> rfl

/-- The tokens of a text that is read are those of well-spelled lexemes. -/
theorem lexemes_of_tokenize (agree : Digits.Agree) {strict : Bool} {text : String} {ts : List Token}
    (read : (tokenize strict text).outcome = .ok ts) :
    ∃ ls : List Lexeme, (∀ l ∈ ls, l.kind.Spells l.text) ∧ ts = tokensAfter none ls := by
  rcases outcome_tokenize agree strict text with ⟨rest, refused⟩ | ⟨ls, spelled, tokens⟩
  · rw [refused] at read
    cases read
  · exact ⟨ls, spelled, Except.ok.inj (read.symm.trans tokens)⟩

theorem known_of_tokenize (agree : Digits.Agree) {strict : Bool} {text : String} {ts : List Token}
    (read : (tokenize strict text).outcome = .ok ts) : ∀ t ∈ ts, t.Known := by
  obtain ⟨ls, spelled, rfl⟩ := lexemes_of_tokenize agree read
  exact known_tokensAfter spelled none

/-- A text that can be parsed has known tokens, which are put into postfix order. -/
theorem known_of_parse (agree : Digits.Agree) {strict : Bool} {text : String} {ordered : List Token}
    (parses : (parse strict text).outcome = .ok ordered) :
    ∃ ts, (tokenize strict text).outcome = .ok ts ∧ (∀ t ∈ ts, t.Known) ∧
      toPostfix ts = .ok ordered := by
  rw [outcome_parse] at parses
  obtain ⟨ts, read, ends⟩ := bind_eq_ok.1 parses
  exact ⟨ts, read, known_of_tokenize agree read, ends⟩

/-- **An expression fails to parse for its characters, for its parentheses and commas, or for
a number of arguments.** -/
theorem ofParsing_of_parse (agree : Digits.Agree) {strict : Bool} {text : String} {fault : Fault}
    (failed : (parse strict text).outcome = .error fault) : fault.OfParsing := by
  rw [outcome_parse] at failed
  rcases outcome_tokenize agree strict text with ⟨rest, refused⟩ | ⟨ls, spelled, read⟩
  · rw [refused] at failed
    cases failed
    exact .inl rfl
  · rw [read] at failed
    exact ofParsing_of_toPostfix (known_tokensAfter spelled none) failed

end Digits

end SciCalc.Syntax
