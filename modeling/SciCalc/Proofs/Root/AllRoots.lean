/-
# SciCalc.Proofs.Root.AllRoots -- what a search for all roots of a range reports

The search goes through the parts of the range in order.  What it finds in a part depends on that
part alone (`rootOn`): a part without a root does not change what is found in the next one, whether
its ends have no value, do not enclose a root, or Brent's method fails between them
(`outcome_scan`).  Only a value that is not to be passed over ends the search (`Stopped`), because
Brent's method itself never divides by zero.

A root is joined to those before it if it is far from all of them, so any two that are reported are
far from each other, and one that is not reported is close to one that is (`foldl_joinRoot`).
Sorting changes the order only (`sorted_perm`, `sorted_ascending`).
-/
import SciCalc.Proofs.Root.Divisors
import SciCalc.Proofs.Root.SampleCause

namespace SciCalc.Root

set_option autoImplicit false

open SciCalc.Number

/-! ## Ascending lists -/

section Sorting

variable {α : Type} [Scalar α]

theorem insertSorted_perm (x : α) (ys : List α) : (insertSorted x ys).Perm (x :: ys) := by
  induction ys with
  | nil => exact .refl _
  | cons y ys ih =>
      rw [insertSorted]
      split
      · exact .refl _
      · exact (ih.cons y).trans (.swap x y ys)

theorem sorted_perm (xs : List α) : (sorted xs).Perm xs := by
  have inserted (ys : List α) : (xs.foldl (fun ys x => insertSorted x ys) ys).Perm (xs ++ ys) := by
    induction xs generalizing ys with
    | nil => exact .refl _
    | cons x xs ih =>
        exact ((ih _).trans ((insertSorted_perm x ys).append_left xs)).trans List.perm_middle
  simpa [sorted] using inserted []

end Sorting

theorem insertSorted_ascending {x : Float} {ys : List Float} (number : x.isNaN = false)
    (numbers : ∀ y ∈ ys, y.isNaN = false) (ascending : ys.Pairwise (· ≤ ·)) :
    (insertSorted x ys).Pairwise (· ≤ ·) := by
  induction ys with
  | nil => exact List.pairwise_singleton _ _
  | cons y ys ih =>
      obtain ⟨least, rest⟩ := List.pairwise_cons.1 ascending
      rw [insertSorted]
      split
      · rename_i below
        refine List.pairwise_cons.2 ⟨fun z inside => ?_, ascending⟩
        obtain rfl | later := List.mem_cons.1 inside
        · exact Number.le_of_lt below
        · exact Number.le_trans (Number.le_of_lt below) (least z later)
      · rename_i notBelow
        have numberY := numbers y (List.mem_cons_self ..)
        refine List.pairwise_cons.2 ⟨fun z inside => ?_,
          ih (fun z later => numbers z (List.mem_cons_of_mem y later)) rest⟩
        obtain rfl | later := List.mem_cons.1 ((insertSorted_perm x ys).mem_iff.1 inside)
        · exact le_of_not_lt number numberY notBelow
        · exact least z later

/-- Numbers are sorted into ascending order. -/
theorem sorted_ascending {xs : List Float} (numbers : ∀ x ∈ xs, x.isNaN = false) :
    (sorted xs).Pairwise (· ≤ ·) := by
  have inserted (ys : List Float) (numbersBefore : ∀ y ∈ ys, y.isNaN = false)
      (ascending : ys.Pairwise (· ≤ ·)) :
      (xs.foldl (fun ys x => insertSorted x ys) ys).Pairwise (· ≤ ·) := by
    induction xs generalizing ys with
    | nil => exact ascending
    | cons x xs ih =>
        have number := numbers x (List.mem_cons_self ..)
        refine ih (fun z later => numbers z (List.mem_cons_of_mem x later)) _ (fun z inside => ?_)
          (insertSorted_ascending number numbersBefore ascending)
        obtain rfl | before := List.mem_cons.1 ((insertSorted_perm x ys).mem_iff.1 inside)
        · exact number
        · exact numbersBefore z before
  exact inserted [] (fun _ inside => absurd inside List.not_mem_nil) .nil

/-! ## Separated lists -/

/-- Two numbers that count as different roots. -/
def Separate (tolerance x y : Float) : Prop := tolerance * 10.0 < (x - y).abs

theorem Separate.symm {tolerance x y : Float} (apart : Separate tolerance x y) :
    Separate tolerance y x := by
  rwa [Separate, distance_comm]

theorem joinRoot_cases (tolerance : Float) (roots : List Float) (root : Float) :
    (joinRoot tolerance roots root = roots ++ [root] ∧
      ∀ other ∈ roots, Separate tolerance root other) ∨
    joinRoot tolerance roots root = roots ∧ ∃ other ∈ roots, ¬ Separate tolerance root other := by
  have far_iff (other : Float) :
      decide (tolerance * 10.0 < Scalar.abs (root - other)) = true ↔
        Separate tolerance root other :=
    decide_eq_true_iff
  rw [joinRoot]
  split
  · rename_i far
    exact .inl ⟨rfl, fun other inside => (far_iff other).1 (List.all_eq_true.1 far other inside)⟩
  · rename_i close
    obtain ⟨other, inside, near⟩ := List.all_eq_false.1 (Bool.eq_false_iff.2 close)
    exact .inr ⟨rfl, other, inside, mt (far_iff other).2 near⟩

/-- Joining roots one after another keeps what was there, adds some of the roots, keeps all apart,
and leaves out only what is close to one that is in. -/
theorem foldl_joinRoot (tolerance : Float) (found : List Float) {roots : List Float}
    (apart : roots.Pairwise (Separate tolerance)) :
    let joined := found.foldl (joinRoot tolerance) roots
    joined.Pairwise (Separate tolerance) ∧ roots ⊆ joined ∧
      (∀ root ∈ joined, root ∈ roots ∨ root ∈ found) ∧
      ∀ root ∈ found, root ∈ joined ∨ ∃ other ∈ joined, ¬ Separate tolerance root other := by
  induction found generalizing roots with
  | nil =>
      exact ⟨apart, fun _ inside => inside, fun _ inside => .inl inside,
        fun _ none => absurd none List.not_mem_nil⟩
  | cons root found ih =>
      obtain ⟨joined, far⟩ | ⟨joined, other, inside, close⟩ := joinRoot_cases tolerance roots root
      · have apartNext : (roots ++ [root]).Pairwise (Separate tolerance) := by
          refine List.pairwise_append.2 ⟨apart, List.pairwise_singleton _ _, ?_⟩
          intro other before last new
          obtain rfl := List.mem_singleton.1 new
          exact (far other before).symm
        obtain ⟨apartAll, kept, origin, covered⟩ := ih apartNext
        simp only [List.foldl_cons, joined]
        refine ⟨apartAll, fun _ before => kept (List.mem_append_left _ before), ?_, ?_⟩
        · intro last inside
          grind
        · intro last inside
          obtain rfl | later := List.mem_cons.1 inside
          · exact .inl (kept (List.mem_append_right _ (List.mem_singleton.2 rfl)))
          · exact covered last later
      · obtain ⟨apartAll, kept, origin, covered⟩ := ih apart
        simp only [List.foldl_cons, joined]
        refine ⟨apartAll, kept, fun last inside => (origin last inside).imp_right (.tail _), ?_⟩
        intro last new
        obtain rfl | later := List.mem_cons.1 new
        · exact .inr ⟨other, kept inside, close⟩
        · exact covered last later

/-- Finite numbers that are not separate are within ten tolerances. -/
theorem within_of_not_separate {tolerance x y : Float} (nonnegative : 0.0 ≤ tolerance)
    (finite : x.isFinite = true) (finiteOther : y.isFinite = true)
    (close : ¬ Separate tolerance x y) : (x - y).abs ≤ tolerance * 10.0 := by
  have number : tolerance.isNaN = false := (le_iff_rank.1 nonnegative).2.1
  refine le_of_not_lt (isNaN_mul_eq_false number rfl) ?_ close
  rw [isNaN_abs]
  exact isNaN_sub_eq_false finite finiteOther

/-- What is reported of the roots that are found. -/
theorem sorted_joined (tolerance : Float) (found : List Float) :
    let reported := sorted (found.foldl (joinRoot tolerance) [])
    reported.Pairwise (Separate tolerance) ∧ (∀ root ∈ reported, root ∈ found) ∧
      ((∀ root ∈ found, root.isFinite = true) →
        reported.Pairwise (· ≤ ·) ∧
        (0.0 ≤ tolerance → ∀ root ∈ found,
          root ∈ reported ∨ ∃ other ∈ reported, (root - other).abs ≤ tolerance * 10.0)) := by
  have permuted := sorted_perm (found.foldl (joinRoot tolerance) [])
  obtain ⟨apart, -, origin, covered⟩ := foldl_joinRoot tolerance found .nil
  have fromFound : ∀ root ∈ found.foldl (joinRoot tolerance) [], root ∈ found :=
    fun root inside => (origin root inside).resolve_left List.not_mem_nil
  refine ⟨apart.perm permuted.symm Separate.symm,
    fun root inside => fromFound root (permuted.mem_iff.1 inside), fun finite => ⟨?_, ?_⟩⟩
  · exact sorted_ascending fun root inside => isNaN_of_isFinite (finite root (fromFound root inside))
  · intro nonnegative root inside
    obtain kept | ⟨other, kept, close⟩ := covered root inside
    · exact .inl (permuted.mem_iff.2 kept)
    · exact .inr ⟨other, permuted.mem_iff.2 kept, within_of_not_separate nonnegative
        (finite root inside) (finite other (fromFound other kept)) close⟩

/-! ## One part of the range -/

section Stops

variable {α ε β γ : Type}

/-- A search has ended with a cause that is not to be passed over. -/
def Stopped (f : α → Except ε α) (skips : ε → Bool) (outcome : Except (Failure α ε) β) : Prop :=
  ∃ x cause, f x = .error cause ∧ skips cause = false ∧ outcome = .error (.sample cause)

theorem Stopped.bind {f : α → Except ε α} {skips : ε → Bool} {first : Except (Failure α ε) β}
    (stopped : Stopped f skips first) (next : β → Except (Failure α ε) γ) :
    Stopped f skips (first >>= next) := by
  obtain ⟨x, cause, fails, kept, rfl⟩ := stopped
  exact ⟨x, cause, fails, kept, rfl⟩

theorem outcome_valueAt (f : α → Except ε α) (skips : ε → Bool) (x : α) :
    (valueAt f skips x).outcome = .ok (f x).toOption ∨
      Stopped f skips (valueAt f skips x).outcome := by
  rw [valueAt]
  cases value : f x with
  | ok y => exact .inl rfl
  | error cause =>
      dsimp only
      split
      · exact .inl rfl
      · rename_i kept
        exact .inr ⟨x, cause, value, Bool.eq_false_iff.2 kept, rfl⟩

/-- Of what a method meets on its way, only causes are not passed over. -/
theorem cause_of_kept {failure : Failure α ε} {skips : ε → Bool} (underway : failure.underway = true)
    (kept : failure.passedOver skips = false) :
    ∃ cause, failure = .sample cause ∧ skips cause = false := by
  cases failure with
  | sample cause => exact ⟨cause, rfl, kept⟩
  | trouble cause =>
      cases cause with
      | zeroDivisor | parts _ => cases underway
      | _ => cases kept

end Stops

section Parts

variable {α ε : Type} [Scalar α]

/-- The ends of the parts of a range; the first is the beginning itself. -/
def gridEnd (a step : α) : Nat → α
  | 0 => a
  | i + 1 => gridPoint a step (i + 1)

/-- Brent's method finds a root between two points at which the function has values that enclose
one. -/
def FindsOn (f : α → Except ε α) (tolerance : α) (limit : Int) (x₀ x₁ root : α) : Prop :=
  ∃ y₀ y₁ ending, f x₀ = .ok y₀ ∧ f x₁ = .ok y₁ ∧ encloses y₀ y₁ = true ∧
    brent f x₀ x₁ tolerance limit = .ok ending ∧ ending.root = root

/-- Brent's method finds a root on the part of a range with a given number. -/
def FindsIn (f : α → Except ε α) (a step tolerance : α) (limit : Int) (part : Nat) (root : α) :
    Prop :=
  FindsOn f tolerance limit (gridEnd a step part) (gridEnd a step (part + 1)) root

/-- The root that Brent's method finds between two points, if it finds one. -/
def rootOn (f : α → Except ε α) (tolerance : α) (limit : Int) (x₀ x₁ : α) : Option α :=
  match f x₀, f x₁ with
  | .ok y₀, .ok y₁ =>
      if encloses y₀ y₁ then (brent f x₀ x₁ tolerance limit).toOption.map Ending.root else none
  | _, _ => none

theorem rootOn_eq_some {f : α → Except ε α} {tolerance : α} {limit : Int} {x₀ x₁ root : α} :
    rootOn f tolerance limit x₀ x₁ = some root ↔ FindsOn f tolerance limit x₀ x₁ root := by
  constructor
  · intro found
    rw [rootOn] at found
    split at found
    · rename_i y₀ y₁ left right
      split at found
      · rename_i enclosed
        cases run : brent f x₀ x₁ tolerance limit with
        | error failure =>
            rw [run] at found
            cases found
        | ok ending =>
            rw [run] at found
            exact ⟨y₀, y₁, ending, left, right, enclosed, run, Option.some.inj found⟩
      · cases found
    · cases found
  · rintro ⟨y₀, y₁, ending, left, right, enclosed, run, rfl⟩
    rw [rootOn, left, right]
    simp only [enclosed, run, if_true]
    rfl

theorem cause_of_brent {f : α → Except ε α} {a b tolerance : α} {limit : Int} {cause : ε}
    (failed : brent f a b tolerance limit = .error (.sample cause)) :
    ∃ x, f x = .error cause := by
  have same := brent_retold Subtype.val (traced f) a b tolerance limit
  rw [retold_traced] at same
  exact cause_of_traced same failed

end Parts

section Search

variable {ε : Type} (f : Float → Except ε Float) (skips : ε → Bool) (tolerance : Float)
  (limit : Int)

/-- Every failure of Brent's method is passed over, except that of a value that is not. -/
theorem outcome_rootBetween (x₀ x₁ : Float) :
    (rootBetween f skips tolerance limit x₀ (f x₀).toOption x₁ (f x₁).toOption).outcome =
        .ok (rootOn f tolerance limit x₀ x₁) ∨
      Stopped f skips
        (rootBetween f skips tolerance limit x₀ (f x₀).toOption x₁ (f x₁).toOption).outcome := by
  rw [rootOn]
  cases left : f x₀ with
  | error cause => exact .inl rfl
  | ok y₀ =>
      cases right : f x₁ with
      | error cause => exact .inl rfl
      | ok y₁ =>
          simp only [Except.toOption, rootBetween]
          split
          · rename_i enclosed
            rw [Report.outcome_attempt_bind]
            cases run : brent f x₀ x₁ tolerance limit with
            | ok ending => exact .inl rfl
            | error failure =>
                have underway := brent_regular left right enclosed failure run
                cases kept : failure.passedOver skips with
                | true =>
                    simp only [conclude, Report.fail, kept]
                    exact .inl rfl
                | false =>
                    obtain ⟨cause, rfl, unskipped⟩ := cause_of_kept underway kept
                    obtain ⟨x, fails⟩ := cause_of_brent run
                    refine .inr ⟨x, cause, fails, unskipped, ?_⟩
                    simp only [conclude, Report.fail, kept]
                    rfl
          · exact .inl rfl

/-- The roots that are found on some parts of a range, in the order of the parts. -/
def rootsIn (a step : Float) (first count : Nat) : List Float :=
  (List.range' first count).filterMap fun part =>
    rootOn f tolerance limit (gridEnd a step part) (gridEnd a step (part + 1))

theorem mem_rootsIn {a step : Float} {count : Nat} {root : Float} :
    root ∈ rootsIn f tolerance limit a step 0 count ↔
      ∃ part < count, FindsIn f a step tolerance limit part root := by
  simp only [rootsIn, ← List.range_eq_range', List.mem_filterMap, List.mem_range, rootOn_eq_some,
    FindsIn]

/-- **What is found depends on the parts alone**: a part without a root leaves the next one as it
is. -/
theorem outcome_scan (a step : Float) (first count : Nat) (roots : List Float) :
    let scanned := scan f skips a step tolerance limit ((List.range' first count).map (· + 1))
      (gridEnd a step first) (f (gridEnd a step first)).toOption roots
    scanned.outcome = .ok ((rootsIn f tolerance limit a step first count).foldl
        (joinRoot tolerance) roots) ∨
      Stopped f skips scanned.outcome := by
  induction count generalizing first roots with
  | zero => exact .inl rfl
  | succ count ih =>
      have next : gridPoint a step (first + 1) = gridEnd a step (first + 1) := rfl
      simp only [rootsIn, List.range'_succ, List.map_cons, List.filterMap_cons, scan,
        Report.outcome_bind, next]
      obtain value | stopped := outcome_valueAt f skips (gridEnd a step (first + 1))
      · rw [value]
        obtain ended | stopped := outcome_rootBetween f skips tolerance limit
          (gridEnd a step first) (gridEnd a step (first + 1))
        · simp only [bind, Except.bind, ended]
          cases rootOn f tolerance limit (gridEnd a step first) (gridEnd a step (first + 1)) with
          | none => exact ih (first + 1) roots
          | some root => exact ih (first + 1) (joinRoot tolerance roots root)
        · exact .inr (stopped.bind _)
      · exact .inr (stopped.bind _)

/-- How a search ends: the range cannot be divided, all parts have been searched, or a value is
not passed over. -/
theorem outcome_findAll (a b : Float) (divisions : Int) :
    (∃ cause, partWidth a b divisions = .error cause ∧
      (findAll f skips a b divisions tolerance limit).outcome =
        .error (.trouble (.parts cause))) ∨
    ∃ step, partWidth a b divisions = .ok step ∧
      ((findAll f skips a b divisions tolerance limit).outcome =
          .ok (sorted ((rootsIn f tolerance limit a step 0 divisions.toNat).foldl
            (joinRoot tolerance) [])) ∨
        Stopped f skips (findAll f skips a b divisions tolerance limit).outcome) := by
  cases divided : partWidth a b divisions with
  | error cause =>
      refine .inl ⟨cause, rfl, ?_⟩
      rw [findAll, divided]
      rfl
  | ok step =>
      have searched : (findAll f skips a b divisions tolerance limit).outcome =
          (valueAt f skips a).outcome >>= fun first =>
            (scan f skips a step tolerance limit ((List.range divisions.toNat).map (· + 1)) a first
              []).outcome >>= fun roots => .ok (sorted roots) := by
        rw [findAll, divided]
        simp only [Report.outcome_bind]
        rfl
      refine .inr ⟨step, rfl, ?_⟩
      rw [searched]
      obtain first | stopped := outcome_valueAt f skips a
      · have scanned := outcome_scan f skips tolerance limit a step 0 divisions.toNat []
        simp only [← List.range_eq_range', show gridEnd a step 0 = a from rfl] at scanned
        rw [first]
        obtain scanned | stopped := scanned
        · left
          show (scan f skips a step tolerance limit _ a _ []).outcome >>= _ = _
          rw [scanned]
          rfl
        · exact .inr (stopped.bind _)
      · exact .inr (stopped.bind _)

end Search

/-- **A search for all roots reports them in ascending order, apart from each other, and loses
none.**  It fails only because the range cannot be divided or because of a value that is not to be
passed over.  Every root that it reports is found by Brent's method on a part of the range at whose
ends the function has values that enclose a root; and the root found on any such part is reported or
within ten tolerances of one that is. -/
theorem findAll_reports {ε : Type} (f : Float → Except ε Float) (skips : ε → Bool) (a b : Float)
    (divisions : Int) (tolerance : Float) (limit : Int) :
    (∀ failure, (findAll f skips a b divisions tolerance limit).outcome = .error failure →
      (∃ cause, partWidth a b divisions = .error cause ∧ failure = .trouble (.parts cause)) ∨
      ∃ x cause, f x = .error cause ∧ skips cause = false ∧ failure = .sample cause) ∧
    ∀ roots, (findAll f skips a b divisions tolerance limit).outcome = .ok roots →
      ∃ step, partWidth a b divisions = .ok step ∧
        roots.Pairwise (fun x y => tolerance * 10.0 < (x - y).abs) ∧
        (∀ root ∈ roots, ∃ part < divisions.toNat,
          FindsIn f a step tolerance limit part root) ∧
        ((∀ part < divisions.toNat, ∀ root,
            FindsIn f a step tolerance limit part root → root.isFinite = true) →
          roots.Pairwise (· ≤ ·) ∧
          (0.0 ≤ tolerance → ∀ part < divisions.toNat, ∀ root,
            FindsIn f a step tolerance limit part root →
              root ∈ roots ∨ ∃ other ∈ roots, (root - other).abs ≤ tolerance * 10.0)) := by
  obtain ⟨cause, undivided, ended⟩ | ⟨step, divided, ended⟩ :=
    outcome_findAll f skips tolerance limit a b divisions
  · refine ⟨fun failure failed => ?_, fun roots found => ?_⟩
    · cases ended.symm.trans failed
      exact .inl ⟨cause, undivided, rfl⟩
    · cases ended.symm.trans found
  · obtain ended | ⟨x, cause, fails, kept, ended⟩ := ended
    · refine ⟨fun failure failed => ?_, fun roots found => ⟨step, divided, ?_⟩⟩
      · cases ended.symm.trans failed
      · cases ended.symm.trans found
        obtain ⟨apart, origin, complete⟩ :=
          sorted_joined tolerance (rootsIn f tolerance limit a step 0 divisions.toNat)
        refine ⟨apart, fun root inside => (mem_rootsIn ..).1 (origin root inside), fun finite => ?_⟩
        obtain ⟨ascending, covered⟩ := complete fun root found => by
          obtain ⟨part, before, finds⟩ := (mem_rootsIn ..).1 found
          exact finite part before root finds
        exact ⟨ascending, fun nonnegative part before root finds =>
          covered nonnegative root ((mem_rootsIn ..).2 ⟨part, before, finds⟩)⟩
    · refine ⟨fun failure failed => ?_, fun roots found => ?_⟩
      · cases ended.symm.trans failed
        exact .inr ⟨x, cause, fails, kept, rfl⟩
      · cases ended.symm.trans found

/-- The two roots of `x ^ 2 - 1` are points of the grid, so each is found on two parts; they are
reported once. -/
theorem findAll_reports_square :
    let square (x : Float) : Except Unit Float := .ok (x * x - 1.0)
    (findAll square (fun _ => true) (-2.0) 2.0 4 1e-8 100).outcome = .ok [-1.0, 1.0] ∧
      (0.0 : Float) ≤ 1e-8 ∧
      (∀ part < 4, ∀ root, FindsIn square (-2.0) 1.0 1e-8 100 part root → root.isFinite = true) ∧
      ∀ part < 4, ∀ root, FindsIn square (-2.0) 1.0 1e-8 100 part root →
        root ∈ [-1.0, 1.0] ∨ ∃ other ∈ [-1.0, 1.0], (root - other).abs ≤ 1e-8 * 10.0 := by
  intro square
  have found : (findAll square (fun _ => true) (-2.0) 2.0 4 1e-8 100).outcome = .ok [-1.0, 1.0] := by
    decide +kernel
  have nonnegative : (0.0 : Float) ≤ 1e-8 := by decide +kernel
  have finite : ∀ part < 4, ∀ root, FindsIn square (-2.0) 1.0 1e-8 100 part root →
      root.isFinite = true := by
    have all : ∀ part < 4, (rootOn square 1e-8 100 (gridEnd (-2.0) 1.0 part)
        (gridEnd (-2.0) 1.0 (part + 1))).all Float.isFinite = true := by
      decide +kernel
    intro part before root finds
    have known := all part before
    rwa [rootOn_eq_some.2 finds] at known
  obtain ⟨step, divided, -, -, complete⟩ :=
    (findAll_reports square (fun _ => true) (-2.0) 2.0 4 1e-8 100).2 _ found
  obtain rfl : step = 1.0 := by
    have width : partWidth (-2.0 : Float) 2.0 4 = .ok 1.0 := by decide +kernel
    exact Except.ok.inj (divided.symm.trans width)
  exact ⟨found, nonnegative, finite, (complete finite).2 nonnegative⟩

end SciCalc.Root
