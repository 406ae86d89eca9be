/-
# SciCalc.Proofs.Quadrature.CarriedSamples -- carried samples agree with fresh ones

The adaptive rule hands the values at five points of an interval to its halves, each half
getting those at its own ends and its own middle, in whatever arithmetic the points are
computed.  So taking them again changes nothing (`refine_eq_refineAfresh`): a value is the
same at the same point, and no sample can fail that did not fail before.

An interval therefore brings two new points, and the run of the rule is the sampling of all
points of its course in their order (`refine_eq_follow`).  Either all of them have finite
values, or the first that has none ends the run (`integrate_afresh`).

The first part holds whatever the numbers are; that doubles are ordered is only used to see
that the bounds are taken as they stand.
-/
import SciCalc.Proofs.Number.Double
import SciCalc.Proofs.Outcome
import SciCalc.Quadrature.Afresh

namespace SciCalc.Quadrature

set_option autoImplicit false

open SciCalc.Number

section Carried

variable {α ε : Type} [Scalar α] {f : α → Except ε α} {a b fa fb fm : α}

theorem sample_eq_ok {x y : α} (sampled : sample f x = .ok y) :
    f x = .ok y ∧ Scalar.isFinite y = true := by
  rw [sample] at sampled
  split at sampled
  · split at sampled
    · cases sampled
      exact ⟨‹_›, ‹_›⟩
    · cases sampled
  · cases sampled

/-- The halves hold the values at their points. -/
theorem sample_of_halves {h : Halves α} (found : halves f a b fa fb fm = .ok h) :
    sample f (middle a (middle a b)) = .ok h.fl ∧
      sample f (middle (middle a b) b) = .ok h.fr := by
  rw [halves] at found
  obtain ⟨fl, left, found⟩ := bind_eq_ok.1 found
  obtain ⟨fr, right, found⟩ := bind_eq_ok.1 found
  cases found
  exact ⟨left, right⟩

theorem freshHalves_eq (left : sample f a = .ok fa) (right : sample f b = .ok fb)
    (mid : sample f (middle a b) = .ok fm) : freshHalves f a b = halves f a b fa fb fm := by
  rw [freshHalves, left, right, mid]
  rfl

/-- Values that are those at the ends and the middle need not be taken again. -/
theorem refine_eq_refineAfresh (cut : Bool) (depth : Nat) {a b tolerance whole fa fb fm : α}
    (left : sample f a = .ok fa) (right : sample f b = .ok fb)
    (mid : sample f (middle a b) = .ok fm) :
    refine f cut depth a b tolerance whole fa fb fm =
      refineAfresh f cut depth a b tolerance whole := by
  induction depth generalizing a b tolerance whole fa fb fm with
  | zero => rw [refine, refineAfresh, freshHalves_eq left right mid]
  | succ depth ih =>
      rw [refine, refineAfresh, freshHalves_eq left right mid]
      cases found : halves f a b fa fb fm with
      | error failure => rfl
      | ok h =>
          obtain ⟨quarter, threeQuarters⟩ := sample_of_halves found
          show (if agree whole h.sum tolerance = true then _ else _) = if _ then _ else _
          rw [ih left mid quarter, ih mid right threeQuarters]

/-- The integral over a range upward is the one with all samples taken anew. -/
theorem outcome_integrateUp_eq (f : α → Except ε α) (a b tolerance : α) (depth : Int)
    (nesting : Option Nat) :
    (integrateUp f a b tolerance depth nesting).outcome =
      integrateAfresh f a b tolerance depth nesting := by
  have outcome : (integrateUp f a b tolerance depth nesting).outcome =
      refinement f a b tolerance depth nesting >>= fun tree => .ok tree.value := by
    rw [integrateUp, Report.outcome_bind]
    rfl
  rw [outcome, refinement, integrateAfresh, simpson]
  cases left : sample f a with
  | error failure => rfl
  | ok fa =>
      cases right : sample f b with
      | error failure => rfl
      | ok fb =>
          cases mid : sample f (middle a b) with
          | error failure => rfl
          | ok fm =>
              show refine f _ _ a b tolerance _ fa fb fm >>= _ = _
              rw [refine_eq_refineAfresh _ _ left right mid]
              rfl

/-! ## Courses -/

theorem sampleAll_append (f : α → Except ε α) (xs ys : List α) :
    sampleAll f (xs ++ ys) = sampleAll f xs >>= fun _ => sampleAll f ys := by
  induction xs with
  | nil => rfl
  | cons x xs ih =>
      show (sample f x >>= fun _ => sampleAll f (xs ++ ys)) = _
      rw [ih, sampleAll]
      cases sample f x <;> rfl

theorem sample_of_sampleAll {xs : List α} (sampled : sampleAll f xs = .ok ()) :
    ∀ x ∈ xs, ∃ y, sample f x = .ok y := by
  induction xs with
  | nil => simp
  | cons x xs ih =>
      obtain ⟨y, first, rest⟩ := bind_eq_ok.1 sampled
      intro z inside
      rcases List.mem_cons.1 inside with rfl | later
      · exact ⟨y, first⟩
      · exact ih rest z later

/-- Sampling fails at the first point that fails. -/
theorem first_of_sampleAll {xs : List α} {failure : Failure α ε}
    (failed : sampleAll f xs = .error failure) :
    ∃ before x after, xs = before ++ x :: after ∧ (∀ z ∈ before, ∃ y, sample f z = .ok y) ∧
      sample f x = .error failure := by
  induction xs with
  | nil => cases failed
  | cons x xs ih =>
      rcases bind_eq_error.1 failed with here | ⟨y, first, later⟩
      · exact ⟨[], x, xs, rfl, by simp, here⟩
      · obtain ⟨before, z, after, rfl, passed, failing⟩ := ih later
        refine ⟨x :: before, z, after, rfl, ?_, failing⟩
        intro w inside
        rcases List.mem_cons.1 inside with rfl | further
        · exact ⟨y, first⟩
        · exact passed w further

theorem follow_behind (f : α → Except ε α) (points : List α) (c : Course α) :
    (c.behind points).follow f = sampleAll f points >>= fun _ => c.follow f := by
  rw [Course.follow, Course.behind, sampleAll_append]
  cases sampleAll f points <;> rfl

/-- The right half is looked at if the left one has been accepted. -/
theorem follow_andThen (f : α → Except ε α) (left right : Course α) :
    (left.andThen right).follow f = do
      let first ← left.follow f
      let second ← right.follow f
      return .halved first second := by
  obtain ⟨points, accepted⟩ := left
  cases accepted with
  | none =>
      show (sampleAll f points >>= fun _ => _) = (sampleAll f points >>= fun _ => _) >>= _
      cases sampleAll f points <;> rfl
  | some tree =>
      show (sampleAll f (points ++ right.points) >>= fun _ => _) =
        (sampleAll f points >>= fun _ => _) >>= _
      rw [sampleAll_append]
      obtain ⟨further, accepted⟩ := right
      cases sampleAll f points with
      | error failure => rfl
      | ok _ =>
          show (sampleAll f further >>= fun _ => _) = (sampleAll f further >>= fun _ => _) >>= _
          cases sampleAll f further with
          | error failure => rfl
          | ok _ => cases accepted <;> rfl

/-- Values that are the function's wherever it can be sampled. -/
def Known (f : α → Except ε α) (value : α → α) : Prop := ∀ x y, sample f x = .ok y → value x = y

theorem known_knownValue (f : α → Except ε α) : Known f (knownValue f) := by
  intro x y sampled
  rw [knownValue, (sample_eq_ok sampled).1]

variable {value : α → α}

/-- On known values the halves of an interval are those of the quarter points alone. -/
theorem halves_eq_known (known : Known f value) (a b : α) :
    halves f a b (value a) (value b) (value (middle a b)) =
      sampleAll f (quarterPoints a b) >>= fun _ => .ok (knownHalves value a b) := by
  rw [halves, quarterPoints, knownHalves]
  simp only [sampleAll]
  cases left : sample f (middle a (middle a b)) with
  | error failure => rfl
  | ok fl =>
      cases right : sample f (middle (middle a b) b) with
      | error failure => rfl
      | ok fr =>
          rw [known _ _ left, known _ _ right]
          rfl

/-- **The rule samples the points of its course, in their order.** -/
theorem refine_eq_follow (known : Known f value) (cut : Bool) (depth : Nat)
    (a b tolerance whole : α) :
    refine f cut depth a b tolerance whole (value a) (value b) (value (middle a b)) =
      (courseOfHalving value cut depth a b tolerance whole).follow f := by
  induction depth generalizing a b tolerance whole with
  | zero =>
      rw [refine, halves_eq_known known, courseOfHalving, Course.follow]
      cases sampleAll f (quarterPoints a b) with
      | error failure => rfl
      | ok _ =>
          simp only [bind, Except.bind]
          split <;> rfl
  | succ depth ih =>
      rw [refine, halves_eq_known known, courseOfHalving]
      dsimp only
      split
      · rename_i agreed
        rw [Course.follow]
        cases sampleAll f (quarterPoints a b) with
        | error failure => rfl
        | ok _ => exact if_pos agreed
      · rename_i differ
        rw [follow_behind, follow_andThen]
        cases sampleAll f (quarterPoints a b) with
        | error failure => rfl
        | ok _ =>
            refine (if_neg differ).trans ?_
            -- The values handed on are those at the ends and the middles of the halves.
            have left := ih a (middle a b) (tolerance / 2.0) (knownHalves value a b).left
            have right := ih (middle a b) b (tolerance / 2.0) (knownHalves value a b).right
            rw [← left, ← right]
            rfl

/-- The whole rule: the ends, the middle and the halvings. -/
theorem refinement_eq_follow (known : Known f value) (a b tolerance : α) (depth : Int)
    (nesting : Option Nat) :
    refinement f a b tolerance depth nesting =
      (courseOfIntegral value a b tolerance depth nesting).follow f := by
  rw [refinement, courseOfIntegral, follow_behind]
  simp only [sampleAll]
  cases left : sample f a with
  | error failure => rfl
  | ok fa =>
      cases right : sample f b with
      | error failure => rfl
      | ok fb =>
          cases mid : sample f (middle a b) with
          | error failure => rfl
          | ok fm =>
              have run := refine_eq_follow known (nesting.getD depth.toNat < depth.toNat)
                (min depth.toNat (nesting.getD depth.toNat)) a b tolerance
                (estimate a b (value a) (value b) (value (middle a b)))
              simp only [known _ _ left, known _ _ right, known _ _ mid] at run ⊢
              exact run

/-- Halvings that may be nested as deeply as is allowed come to an end. -/
theorem accepted_isSome (value : α → α) (depth : Nat) (a b tolerance whole : α) :
    (courseOfHalving value false depth a b tolerance whole).accepted.isSome = true := by
  induction depth generalizing a b tolerance whole with
  | zero => rfl
  | succ depth ih =>
      rw [courseOfHalving]
      dsimp only
      split
      · rfl
      · have left := ih a (middle a b) (tolerance / 2.0) (knownHalves value a b).left
        have right := ih (middle a b) b (tolerance / 2.0) (knownHalves value a b).right
        obtain ⟨leftTree, leftAccepts⟩ := Option.isSome_iff_exists.1 left
        obtain ⟨rightTree, rightAccepts⟩ := Option.isSome_iff_exists.1 right
        simp only [Course.behind, Course.andThen, leftAccepts, rightAccepts]
        rfl

/-- Only a limit below what is allowed keeps the rule from accepting. -/
theorem limit_of_accepted_eq_none {a b tolerance : α} {depth : Int} {nesting : Option Nat}
    (none : (courseOfIntegral value a b tolerance depth nesting).accepted = none) :
    ∃ limit, nesting = some limit ∧ limit < depth.toNat := by
  by_cases short : nesting.getD depth.toNat < depth.toNat
  · cases nesting with
    | none => exact absurd short (Nat.lt_irrefl _)
    | some limit => exact ⟨limit, rfl, short⟩
  · have accepted := accepted_isSome value (min depth.toNat (nesting.getD depth.toNat)) a b
      tolerance (estimate a b (value a) (value b) (value (middle a b)))
    rw [courseOfIntegral, decide_eq_false short] at none
    rw [show (courseOfHalving value false _ a b tolerance _).accepted = _ from none] at accepted
    cases accepted

/-- A course that is followed to its end has met finite values only. -/
theorem finite_of_follow {c : Course α} {tree : Refinement α} (followed : c.follow f = .ok tree) :
    ∀ x ∈ c.points, ∃ y, f x = .ok y ∧ Scalar.isFinite y = true := by
  obtain ⟨_, sampled, -⟩ := bind_eq_ok.1 followed
  intro x inside
  obtain ⟨y, value⟩ := sample_of_sampleAll sampled x inside
  exact ⟨y, sample_eq_ok value⟩

/-- A course ends at its first point without a finite value, or goes too deep. -/
theorem first_of_follow {c : Course α} {failure : Failure α ε}
    (failed : c.follow f = .error failure) :
    (∃ before x after, c.points = before ++ x :: after ∧
      (∀ z ∈ before, ∃ y, f z = .ok y ∧ Scalar.isFinite y = true) ∧
      sample f x = .error failure) ∨
    failure = .trouble .tooDeep ∧ c.accepted = none := by
  rcases bind_eq_error.1 failed with sampling | ⟨_, -, deep⟩
  · obtain ⟨before, x, after, points, passed, failing⟩ := first_of_sampleAll sampling
    refine .inl ⟨before, x, after, points, fun z inside => ?_, failing⟩
    obtain ⟨y, value⟩ := passed z inside
    exact ⟨y, sample_eq_ok value⟩
  · cases accepted : c.accepted with
    | some tree =>
        simp only [accepted] at deep
        cases deep
    | none =>
        simp only [accepted] at deep
        cases deep
        exact .inr ⟨rfl, rfl⟩

end Carried

section Doubles

variable {ε : Type} {a b : Float}

/-- From a lower to an upper bound, both finite, the rule is used as it is. -/
theorem integrate_eq_of_lt (f : Float → Except ε Float) (left : a.isFinite = true)
    (right : b.isFinite = true) (below : a < b) (tolerance : Float) (depth : Int)
    (nesting : Option Nat) :
    integrate f a b tolerance depth nesting = integrateUp f a b tolerance depth nesting := by
  have bounded : (!(Scalar.isFinite a && Scalar.isFinite b)) = false := by
    show (!(a.isFinite && b.isFinite)) = false
    rw [left, right]
    rfl
  rw [integrate, bounded, beq_eq_false_of_lt below, if_neg Bool.false_ne_true,
    if_neg Bool.false_ne_true, if_neg (not_lt_of_lt below)]

/-- **Carried samples agree with fresh ones**, in the arithmetic of doubles.  Integration has
the outcome that it has when every interval takes all of its samples anew.  It samples the
points of its course in their order and no others: a value is returned after finite values
only, and the failure is otherwise that of the first point without one, unless an interval
would have to be halved more often than halvings can be nested. -/
theorem integrate_afresh (f : Float → Except ε Float) (left : a.isFinite = true)
    (right : b.isFinite = true) (below : a < b) (tolerance : Float) (depth : Int)
    (nesting : Option Nat) :
    (integrate f a b tolerance depth nesting).outcome =
      integrateAfresh f a b tolerance depth nesting ∧
    let course := courseOfIntegral (knownValue f) a b tolerance depth nesting
    ((integrate f a b tolerance depth nesting).outcome =
      course.follow f >>= fun tree => .ok tree.value) ∧
    (∀ value, (integrate f a b tolerance depth nesting).outcome = .ok value →
      ∀ x ∈ course.points, ∃ y, f x = .ok y ∧ y.isFinite = true) ∧
    ∀ failure, (integrate f a b tolerance depth nesting).outcome = .error failure →
      (∃ before x after, course.points = before ++ x :: after ∧
        (∀ z ∈ before, ∃ y, f z = .ok y ∧ y.isFinite = true) ∧ sample f x = .error failure) ∨
      failure = .trouble .tooDeep ∧ ∃ limit, nesting = some limit ∧ limit < depth.toNat := by
  rw [integrate_eq_of_lt f left right below]
  refine ⟨outcome_integrateUp_eq f a b tolerance depth nesting, ?_⟩
  intro course
  have followed : (integrateUp f a b tolerance depth nesting).outcome =
      course.follow f >>= fun tree => .ok tree.value := by
    rw [integrateUp, Report.outcome_bind, Report.ofExcept,
      refinement_eq_follow (known_knownValue f)]
    rfl
  refine ⟨followed, ?_, ?_⟩
  · intro value returned
    rw [followed] at returned
    obtain ⟨tree, through, -⟩ := bind_eq_ok.1 returned
    exact finite_of_follow through
  · intro failure failed
    rw [followed] at failed
    rcases bind_eq_error.1 failed with stopped | ⟨tree, -, returned⟩
    · rcases first_of_follow stopped with first | ⟨deep, unaccepted⟩
      · exact .inl first
      · exact .inr ⟨deep, limit_of_accepted_eq_none unaccepted⟩
    · cases returned

/-- The fourth power without a value at `0.375`, the right quarter point of the left half: the
run ends there, although `0.625` is not looked at before. -/
theorem integrate_afresh_refused :
    let f : Float → Except Unit Float := fun x =>
      if x == 0.375 then .error () else .ok (x * x * x * x)
    (0.0 : Float).isFinite = true ∧ (1.0 : Float).isFinite = true ∧ (0.0 : Float) < 1.0 ∧
      (integrate f 0.0 1.0 0.0 20 none).outcome = .error (.sample ()) ∧
      integrateAfresh f 0.0 1.0 0.0 20 none = .error (.sample ()) ∧
      ∃ before x after,
        (courseOfIntegral (knownValue f) 0.0 1.0 0.0 20 none).points = before ++ x :: after ∧
        (∀ z ∈ before, ∃ y, f z = .ok y ∧ y.isFinite = true) ∧
        sample f x = .error (.sample ()) := by
  intro f
  have left : (0.0 : Float).isFinite = true := by rfl
  have right : (1.0 : Float).isFinite = true := by rfl
  have below : (0.0 : Float) < 1.0 := by decide +kernel
  have failed : (integrate f 0.0 1.0 0.0 20 none).outcome = .error (.sample ()) := by
    decide +kernel
  obtain ⟨afresh, -, -, first⟩ := integrate_afresh f left right below 0.0 20 none
  refine ⟨left, right, below, failed, afresh.symm.trans failed, ?_⟩
  rcases first _ failed with stopped | ⟨deep, -⟩
  · exact stopped
  · cases deep

end Doubles

end SciCalc.Quadrature
