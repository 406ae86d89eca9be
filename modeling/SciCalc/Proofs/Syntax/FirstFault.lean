/-
# SciCalc.Proofs.Syntax.FirstFault -- the first fault of grouping, by its place

Which tokens cannot be put into postfix order, and what is said about them, is told here
by the place of the fault.  At each place, before a token or at the end, some groups are
open (`openGroups`): for each open parenthesis the function directly before it, if there
is one, and the commas so far directly inside.  What stands at the place can be a fault in
five ways (`Misgrouped`), which the open groups and the token alone decide.

The yard fails exactly when there is a fault at some place, with the kind and the message
of the first one (`toPostfix_fails_iff`).  The open groups are counted without regard to
faults: behind the first one nobody asks what they are.
-/
import Mathlib.Data.Nat.Find
import SciCalc.Proofs.Syntax.Grouping

namespace SciCalc.Syntax

set_option autoImplicit false

variable {ts : List Token} {groups : List Group} {previous next : Option Token}

/-! ## Places -/

/-- The open groups after a token, whether or not it fits. -/
def countGroup (groups : List Group) (previous : Option Token) : Token → List Group
  | .lparen => ⟨functionOf previous, 0⟩ :: groups
  | .comma =>
      match groups with
      | [] => []
      | group :: outer => { group with commas := group.commas + 1 } :: outer
  | .rparen => groups.tail
  | _ => groups

/-- The open groups after further tokens, given those before and the token before. -/
def countGroups : List Group → Option Token → List Token → List Group
  | groups, _, [] => groups
  | groups, previous, t :: ts => countGroups (countGroup groups previous t) (some t) ts

/-- The groups that tokens leave open, innermost first. -/
def openGroups (ts : List Token) : List Group := countGroups [] none ts

/-- A fault of grouping: the open groups, the token that comes next, if there is one, and the
kind and the message of the fault. -/
inductive Misgrouped : List Group → Option Token → Kind → String → Prop
  /-- A comma inside nothing. -/
  | comma : Misgrouped [] (some .comma) .malformed "Comma outside of parentheses"
  /-- A closing parenthesis inside nothing. -/
  | closing : Misgrouped [] (some .rparen) .malformed "Mismatched parentheses"
  /-- The end of a group that is no call and holds a comma. -/
  | group {commas : Nat} {outer : List Group} (divided : 0 < commas) :
      Misgrouped (⟨none, commas⟩ :: outer) (some .rparen) .malformed
        "Comma outside of a function call"
  /-- The end of a call with too few or too many arguments. -/
  | call {name : String} {f : Fn} {commas : Nat} {outer : List Group}
      (entry : Fn.ofName? name = some f) (differ : commas + 1 ≠ f.arity) :
      Misgrouped (⟨some name, commas⟩ :: outer) (some .rparen) .arity
        (name ++ " takes " ++ toString f.arity ++ " argument(s), got " ++ toString (commas + 1))
  /-- The end of the tokens inside a group. -/
  | unclosed {group : Group} {outer : List Group} :
      Misgrouped (group :: outer) none .malformed "Mismatched parentheses"

/-- A fault at a place: before the token with that number, or at the end. -/
def MisgroupedAt (ts : List Token) (place : Nat) (kind : Kind) (message : String) : Prop :=
  Misgrouped (openGroups (ts.take place)) ts[place]? kind message

/-! ## The scan finds the first -/

/-- The fault at a place with given open groups. -/
def faultAt : List Group → Option Token → Option Fault
  | _ :: _, none => some .mismatchedParens
  | [], some .comma => some .commaOutsideParens
  | [], some .rparen => some .mismatchedParens
  | group :: _, some .rparen => group.fault?
  | _, _ => none

theorem regroup_eq (groups : List Group) (previous : Option Token) (t : Token) :
    regroup groups previous t =
      match faultAt groups (some t) with
      | some fault => .error fault
      | none => .ok (countGroup groups previous t) := by
  cases t with
  | rparen =>
      cases groups with
      | nil => rfl
      | cons group outer =>
          simp only [regroup, faultAt]
          cases group.fault? <;> rfl
  | comma | lparen | number _ | constant _ | var _ | function _ | operator _ _ =>
      cases groups <;> rfl

/-- The scan finds the fault at the first place where there is one. -/
theorem groupingFault?_eq_some_iff {fault : Fault} :
    groupingFault? groups previous ts = some fault ↔
      ∃ i ≤ ts.length, faultAt (countGroups groups previous (ts.take i)) ts[i]? = some fault ∧
        ∀ j < i, faultAt (countGroups groups previous (ts.take j)) ts[j]? = none := by
  induction ts generalizing groups previous with
  | nil =>
      have scan : groupingFault? groups previous [] = faultAt groups none := by
        cases groups <;> rfl
      rw [scan]
      constructor
      · intro found
        exact ⟨0, Nat.le_refl 0, found, fun j before => absurd before (Nat.not_lt_zero j)⟩
      · rintro ⟨i, short, found, -⟩
        obtain rfl : i = 0 := Nat.le_zero.1 short
        exact found
  | cons t ts ih =>
      rw [groupingFault?_cons, regroup_eq]
      cases here : faultAt groups (some t) with
      | some cause =>
          constructor
          · intro found
            exact ⟨0, Nat.zero_le _, here.trans found,
              fun j before => absurd before (Nat.not_lt_zero j)⟩
          · rintro ⟨i, -, found, first⟩
            cases i with
            | zero => exact here.symm.trans found
            | succ i =>
                have fits : faultAt groups (some t) = none := first 0 (Nat.succ_pos i)
                rw [here] at fits
                cases fits
      | none =>
          show groupingFault? (countGroup groups previous t) (some t) ts = some fault ↔ _
          rw [ih]
          constructor
          · rintro ⟨i, short, found, first⟩
            refine ⟨i + 1, Nat.succ_le_succ short, found, fun j before => ?_⟩
            cases j with
            | zero => exact here
            | succ j => exact first j (Nat.lt_of_succ_lt_succ before)
          · rintro ⟨i, short, found, first⟩
            cases i with
            | zero =>
                have faulty : faultAt groups (some t) = some fault := found
                rw [here] at faulty
                cases faulty
            | succ i =>
                exact ⟨i, Nat.le_of_succ_le_succ short, found,
                  fun j before => first (j + 1) (Nat.succ_lt_succ before)⟩

/-! ## What is said about it -/

/-- Every open call is one of a known function. -/
def CallersKnown (groups : List Group) : Prop :=
  ∀ group ∈ groups, ∀ name ∈ group.caller, (Fn.ofName? name).isSome = true

theorem CallersKnown.countGroup (callers : CallersKnown groups)
    (known : ∀ t ∈ previous, t.Known) (t : Token) :
    CallersKnown (countGroup groups previous t) := by
  cases t with
  | lparen =>
      intro group inside name called
      rcases List.mem_cons.1 inside with rfl | outer
      · cases previous with
        | none => cases called
        | some u =>
            cases u with
            | function other =>
                cases called
                exact known _ rfl
            | _ => cases called
      · exact callers group outer name called
  | comma =>
      cases groups with
      | nil => exact callers
      | cons group outer =>
          intro other inside name called
          rcases List.mem_cons.1 inside with rfl | further
          · exact callers group List.mem_cons_self name called
          · exact callers other (List.mem_cons_of_mem _ further) name called
  | rparen => exact fun group inside => callers group (List.mem_of_mem_tail inside)
  | number _ | constant _ | var _ | function _ | operator _ _ => exact callers

theorem CallersKnown.countGroups (callers : CallersKnown groups)
    (known : ∀ t ∈ previous, t.Known) (each : ∀ t ∈ ts, t.Known) :
    CallersKnown (countGroups groups previous ts) := by
  induction ts generalizing groups previous with
  | nil => exact callers
  | cons t ts ih =>
      refine ih (callers.countGroup known t) ?_ fun u inside => each u (List.mem_cons_of_mem t inside)
      intro u same
      cases same
      exact each t List.mem_cons_self

theorem callersKnown_openGroups (known : ∀ t ∈ ts, t.Known) (i : Nat) :
    CallersKnown (openGroups (ts.take i)) :=
  CallersKnown.countGroups (fun _ inside => by cases inside) (fun _ none => by cases none)
    fun t inside => known t (List.mem_of_mem_take inside)

/-- The five ways are all there are, each with its kind and message. -/
theorem misgrouped_iff (callers : CallersKnown groups) {kind : Kind} {message : String} :
    Misgrouped groups next kind message ↔
      ∃ fault, faultAt groups next = some fault ∧ fault.kind = kind ∧ fault.message = message := by
  constructor
  · intro fault
    cases fault with
    | comma => exact ⟨_, rfl, rfl, rfl⟩
    | closing => exact ⟨_, rfl, rfl, rfl⟩
    | group divided =>
        refine ⟨.commaOutsideCall, ?_, rfl, rfl⟩
        rw [faultAt, Group.fault?, if_neg (Nat.ne_of_gt divided)]
    | @call name f commas outer entry differ =>
        refine ⟨.wrongArguments name f.arity (commas + 1), ?_, rfl, rfl⟩
        simp only [faultAt, Group.fault?, entry, if_neg differ]
    | unclosed => exact ⟨_, rfl, rfl, rfl⟩
  · rintro ⟨fault, found, rfl, rfl⟩
    unfold faultAt at found
    split at found
    · cases found
      exact .unclosed
    · cases found
      exact .comma
    · cases found
      exact .closing
    · rename_i group outer
      obtain ⟨caller, commas⟩ := group
      cases caller with
      | none =>
          simp only [Group.fault?] at found
          split at found
          · cases found
          · cases found
            exact .group (Nat.pos_of_ne_zero ‹_›)
      | some name =>
          obtain ⟨f, entry⟩ :=
            Option.isSome_iff_exists.1 (callers _ List.mem_cons_self name rfl)
          simp only [Group.fault?, entry] at found
          split at found
          · cases found
          · cases found
            exact .call entry ‹_›
    · cases found

theorem misgroupedAt_iff (known : ∀ t ∈ ts, t.Known) {place : Nat} {kind : Kind}
    {message : String} :
    MisgroupedAt ts place kind message ↔
      ∃ fault, faultAt (openGroups (ts.take place)) ts[place]? = some fault ∧
        fault.kind = kind ∧ fault.message = message :=
  misgrouped_iff (callersKnown_openGroups known place)

theorem not_misgroupedAt_iff (known : ∀ t ∈ ts, t.Known) {place : Nat} :
    (∀ kind message, ¬ MisgroupedAt ts place kind message) ↔
      faultAt (openGroups (ts.take place)) ts[place]? = none := by
  constructor
  · intro fits
    cases found : faultAt (openGroups (ts.take place)) ts[place]? with
    | none => rfl
    | some fault =>
        exact absurd ((misgroupedAt_iff known).2 ⟨fault, found, rfl, rfl⟩)
          (fits fault.kind fault.message)
  · intro nothing kind message misgrouped
    obtain ⟨fault, found, -, -⟩ := (misgroupedAt_iff known).1 misgrouped
    rw [nothing] at found
    cases found

theorem toPostfix_eq_error_iff (known : ∀ t ∈ ts, t.Known) (calls : callsOpen ts = true)
    {fault : Fault} :
    toPostfix ts = .error fault ↔ groupingFault? [] none ts = some fault := by
  have agrees := toPostfix_grouping known calls
  cases scanned : groupingFault? [] none ts with
  | some cause =>
      rw [scanned] at agrees
      rw [show toPostfix ts = .error cause from agrees, Except.error.injEq, Option.some.injEq]
  | none =>
      rw [scanned] at agrees
      obtain ⟨ordered, success⟩ := agrees
      rw [success]
      constructor <;> intro same <;> cases same

/-- The yard tells of the fault at the first place that has one. -/
theorem toPostfix_tells_iff (known : ∀ t ∈ ts, t.Known) (calls : callsOpen ts = true)
    {kind : Kind} {message : String} :
    (∃ fault, toPostfix ts = .error fault ∧ fault.kind = kind ∧ fault.message = message) ↔
      ∃ place ≤ ts.length, MisgroupedAt ts place kind message ∧
        ∀ before < place, ∀ kind message, ¬ MisgroupedAt ts before kind message := by
  constructor
  · rintro ⟨fault, failed, told⟩
    rw [toPostfix_eq_error_iff known calls, groupingFault?_eq_some_iff] at failed
    obtain ⟨place, short, found, fits⟩ := failed
    exact ⟨place, short, (misgroupedAt_iff known).2 ⟨fault, found, told⟩,
      fun before earlier => (not_misgroupedAt_iff known).2 (fits before earlier)⟩
  · rintro ⟨place, short, misgrouped, fits⟩
    obtain ⟨fault, found, told⟩ := (misgroupedAt_iff known).1 misgrouped
    refine ⟨fault, ?_, told⟩
    rw [toPostfix_eq_error_iff known calls, groupingFault?_eq_some_iff]
    exact ⟨place, short, found,
      fun before earlier => (not_misgroupedAt_iff known).1 (fits before earlier)⟩

/-- Where there is a fault, there is a first one. -/
theorem exists_first_misgrouped {place : Nat} {kind : Kind} {message : String}
    (misgrouped : MisgroupedAt ts place kind message) :
    ∃ first ≤ place, ∃ kind message, MisgroupedAt ts first kind message ∧
      ∀ before < first, ∀ kind message, ¬ MisgroupedAt ts before kind message := by
  classical
  have somewhere : ∃ place, ∃ kind message, MisgroupedAt ts place kind message :=
    ⟨place, kind, message, misgrouped⟩
  have least : Nat.find somewhere ≤ place := Nat.find_min' somewhere ⟨kind, message, misgrouped⟩
  obtain ⟨firstKind, firstMessage, there⟩ := Nat.find_spec somewhere
  refine ⟨Nat.find somewhere, least, firstKind, firstMessage, there, ?_⟩
  intro before earlier kind message misgroupedBefore
  exact Nat.find_min somewhere earlier ⟨kind, message, misgroupedBefore⟩

/-- **The yard fails exactly for a fault of grouping, and tells of the first one in the order
of the tokens.** -/
theorem toPostfix_fails_iff (known : ∀ t ∈ ts, t.Known) (calls : callsOpen ts = true) :
    (∀ kind message,
      (∃ fault, toPostfix ts = .error fault ∧ fault.kind = kind ∧ fault.message = message) ↔
        ∃ place ≤ ts.length, MisgroupedAt ts place kind message ∧
          ∀ before < place, ∀ kind message, ¬ MisgroupedAt ts before kind message) ∧
    ((∃ fault, toPostfix ts = .error fault) ↔
      ∃ place ≤ ts.length, ∃ kind message, MisgroupedAt ts place kind message) := by
  refine ⟨fun kind message => toPostfix_tells_iff known calls, ?_⟩
  constructor
  · rintro ⟨fault, failed⟩
    obtain ⟨place, short, misgrouped, -⟩ :=
      (toPostfix_tells_iff known calls).1 ⟨fault, failed, rfl, rfl⟩
    exact ⟨place, short, _, _, misgrouped⟩
  · rintro ⟨place, short, kind, message, misgrouped⟩
    obtain ⟨first, least, firstKind, firstMessage, there, fits⟩ :=
      exists_first_misgrouped misgrouped
    obtain ⟨fault, failed, -⟩ := (toPostfix_tells_iff known calls).2
      ⟨first, Nat.le_trans least short, there, fits⟩
    exact ⟨fault, failed⟩

/-- A comma in a group that is no call, inside a call that does not get its arguments right
either, in front of a comma inside nothing: the first to close is told of. -/
theorem toPostfix_fails_iff_nested :
    let ts : List Token := [.function "nCr", .lparen, .lparen, .var "A", .comma, .var "B", .rparen,
      .rparen, .comma]
    (∀ t ∈ ts, t.Known) ∧ callsOpen ts = true ∧
      (∃ fault, toPostfix ts = .error fault ∧ fault.kind = .malformed ∧
        fault.message = "Comma outside of a function call") ∧
      MisgroupedAt ts 7 .arity "nCr takes 2 argument(s), got 1" ∧
      MisgroupedAt ts 8 .malformed "Comma outside of parentheses" ∧
      ∃ place ≤ ts.length, MisgroupedAt ts place .malformed "Comma outside of a function call" ∧
        ∀ before < place, ∀ kind message, ¬ MisgroupedAt ts before kind message := by
  intro ts
  have known : ∀ t ∈ ts, t.Known := by
    intro t inside
    simp only [ts, List.mem_cons, List.not_mem_nil, or_false] at inside
    rcases inside with rfl | rfl | rfl | rfl | rfl | rfl | rfl | rfl | rfl
    all_goals trivial
  have calls : callsOpen ts = true := by decide
  have failed : toPostfix ts = .error .commaOutsideCall := by rfl
  exact ⟨known, calls, ⟨_, failed, rfl, rfl⟩, .call (f := .selections) rfl (by decide), .comma,
    ((toPostfix_fails_iff known calls).1 _ _).1 ⟨_, failed, rfl, rfl⟩⟩

end SciCalc.Syntax
