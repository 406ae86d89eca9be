/-
# SciCalc.Proofs.Number.Order -- the order of doubles

Doubles are compared by sign, then exponent, then mantissa.  Each has a place in this order, an
integer (`rank`): zeros have place zero, what is below zero a negative place, and a larger
exponent counts more than every mantissa.  What is no number has no place; it is given that of
zero and mentioned by name.  Comparisons of doubles are comparisons of places (`lt_iff_rank`,
`le_iff_rank`, `eq_zero_iff_rank`), so that an argument about signs and sizes is one about
integers.

What an operation does to places is known without rounding: a product with zero and a difference
of zeros have place zero, if they are numbers at all (`rank_mul_eq_zero`, `rank_sub_eq_zero`), a
product of numbers not below zero is not below zero (`rank_mul_nonneg`).  Two numbers are as far
from each other as the other way round (`distance_comm`), and have the same sum (`sum_comm`).
-/
import SciCalc.Proofs.Number.Packing

namespace SciCalc.Number

set_option autoImplicit false

open Float.Model (Format UnpackedFloat)
open Float.Model.UnpackedFloat (Sign Accuracy)

/-! ## Places -/

/-- The place of a form.  That of an infinity is past all finite ones. -/
def place : UnpackedFloat → Int
  | .notANumber | .zero _ => 0
  | .infinity sign => sign.apply 18428729675200069632
  | .finite sign mantissa exponent _ =>
      sign.apply ((exponent + 1074) * 9007199254740992 + mantissa)

/-- The place of a double. -/
def rank (x : Float) : Int := place (form x)

/-- A zero, or no number: what is at the place of zero. -/
def Null : UnpackedFloat → Prop
  | .notANumber | .zero _ => True
  | .infinity _ | .finite _ _ _ _ => False

section Finite

variable {sign : Sign} {mantissa : Nat} {exponent : Int} {positive : 0 < mantissa}

theorem place_positive (canonical : Canonical (.finite .positive mantissa exponent positive)) :
    0 < place (.finite .positive mantissa exponent positive) := by
  obtain ⟨-, low, -, -⟩ := canonical
  show 0 < (exponent + 1074) * 9007199254740992 + mantissa
  omega

theorem place_negative (canonical : Canonical (.finite .negative mantissa exponent positive)) :
    place (.finite .negative mantissa exponent positive) < 0 := by
  have above : 0 < place (.finite .positive mantissa exponent positive) := place_positive canonical
  exact Int.neg_neg_of_pos above

/-- Finite numbers are between the infinities. -/
theorem place_between (canonical : Canonical (.finite sign mantissa exponent positive)) :
    place (.infinity .negative) < place (.finite sign mantissa exponent positive) ∧
      place (.finite sign mantissa exponent positive) < place (.infinity .positive) := by
  obtain ⟨few, low, high, -⟩ := canonical
  cases sign
  · show -18428729675200069632 < -((exponent + 1074) * 9007199254740992 + mantissa) ∧
      -((exponent + 1074) * 9007199254740992 + mantissa) < (18428729675200069632 : Int)
    omega
  · show -18428729675200069632 < (exponent + 1074) * 9007199254740992 + mantissa ∧
      (exponent + 1074) * 9007199254740992 + mantissa < (18428729675200069632 : Int)
    omega

end Finite

/-- A larger exponent counts more than every mantissa. -/
theorem compare_sizes {m n : Nat} (e i : Int) (few : m < 9007199254740992)
    (fewOther : n < 9007199254740992) :
    (compare e i).then (compare m n) =
      compare ((e + 1074) * 9007199254740992 + m) ((i + 1074) * 9007199254740992 + n) := by
  rcases Int.lt_trichotomy e i with below | rfl | above
  · rw [Int.compare_eq_lt.2 below, Int.compare_eq_lt.2 (by omega)]
    rfl
  · rw [Int.compare_eq_eq.2 rfl, Ordering.eq_then]
    rcases Nat.lt_trichotomy m n with less | rfl | more
    · rw [Nat.compare_eq_lt.2 less, Int.compare_eq_lt.2 (by omega)]
    · rw [Nat.compare_eq_eq.2 rfl, Int.compare_eq_eq.2 rfl]
    · rw [Nat.compare_eq_gt.2 more, Int.compare_eq_gt.2 (by omega)]
  · rw [Int.compare_eq_gt.2 above, Int.compare_eq_gt.2 (by omega)]
    rfl

theorem compare_neg_neg (a b : Int) : compare (-a) (-b) = (compare a b).swap := by
  rcases Int.lt_trichotomy a b with below | rfl | above
  · rw [Int.compare_eq_lt.2 below, Int.compare_eq_gt.2 (Int.neg_lt_neg below)]
    rfl
  · rw [Int.compare_eq_eq.2 rfl, Int.compare_eq_eq.2 rfl]
    rfl
  · rw [Int.compare_eq_gt.2 above, Int.compare_eq_lt.2 (Int.neg_lt_neg above)]
    rfl

/-- Numbers are compared by their places. -/
theorem compare_eq_places {u v : UnpackedFloat} (canonical : Canonical u)
    (canonicalOther : Canonical v) (number : u ≠ .notANumber) (numberOther : v ≠ .notANumber) :
    UnpackedFloat.compare u v = some (compare (place u) (place v)) := by
  have less {a b : Int} (below : a < b) : some Ordering.lt = some (compare a b) :=
    congrArg some (Int.compare_eq_lt.2 below).symm
  have more {a b : Int} (above : b < a) : some Ordering.gt = some (compare a b) :=
    congrArg some (Int.compare_eq_gt.2 above).symm
  cases u with
  | notANumber => exact absurd rfl number
  | infinity sign =>
      cases v with
      | notANumber => exact absurd rfl numberOther
      | infinity other => cases sign <;> cases other <;> rfl
      | zero other => cases sign <;> rfl
      | finite other n i _ =>
          obtain ⟨above, below⟩ := place_between canonicalOther
          cases sign
          · exact less above
          · exact more below
  | zero sign =>
      cases v with
      | notANumber => exact absurd rfl numberOther
      | infinity other => cases other <;> rfl
      | zero other => rfl
      | finite other n i _ =>
          cases other
          · exact more (place_negative canonicalOther)
          · exact less (place_positive canonicalOther)
  | finite sign m e _ =>
      cases v with
      | notANumber => exact absurd rfl numberOther
      | infinity other =>
          obtain ⟨above, below⟩ := place_between canonical
          cases other
          · cases sign <;> exact more above
          · cases sign <;> exact less below
      | zero other =>
          cases sign
          · exact less (place_negative canonical)
          · exact more (place_positive canonical)
      | finite other n i _ =>
          have sizes := compare_sizes e i canonical.1 canonicalOther.1
          cases sign <;> cases other
          · exact congrArg some ((congrArg Ordering.swap sizes).trans (compare_neg_neg _ _).symm)
          · exact less (Int.lt_trans (place_negative canonical) (place_positive canonicalOther))
          · exact more (Int.lt_trans (place_negative canonicalOther) (place_positive canonical))
          · exact congrArg some sizes

/-- Only numbers are compared. -/
theorem number_of_compare {u v : UnpackedFloat} {order : Ordering}
    (compared : UnpackedFloat.compare u v = some order) : u ≠ .notANumber ∧ v ≠ .notANumber := by
  constructor
  · rintro rfl
    cases v <;> cases compared
  · rintro rfl
    cases u with
    | infinity sign | finite sign _ _ _ => cases sign <;> cases compared
    | notANumber | zero _ => cases compared

/-! ## Comparisons -/

section Comparisons

variable {x y : Float}

theorem isNaN_eq_false_iff : x.isNaN = false ↔ form x ≠ .notANumber := by
  rw [← Bool.not_eq_true, isNaN_iff]

theorem isNaN_of_isFinite (finite : x.isFinite = true) : x.isNaN = false := by
  rw [isNaN_eq_false_iff]
  intro none
  have special := not_isFinite_iff.2 (.inl none)
  rw [special] at finite
  cases finite

theorem compare_form_iff (order : Ordering) :
    UnpackedFloat.compare (form x) (form y) = some order ↔
      x.isNaN = false ∧ y.isNaN = false ∧ compare (rank x) (rank y) = order := by
  constructor
  · intro compared
    obtain ⟨number, numberOther⟩ := number_of_compare compared
    have places := compare_eq_places (canonical_form x) (canonical_form y) number numberOther
    exact ⟨isNaN_eq_false_iff.2 number, isNaN_eq_false_iff.2 numberOther,
      Option.some.inj (places.symm.trans compared)⟩
  · rintro ⟨number, numberOther, rfl⟩
    exact compare_eq_places (canonical_form x) (canonical_form y) (isNaN_eq_false_iff.1 number)
      (isNaN_eq_false_iff.1 numberOther)

theorem lt_iff_rank : x < y ↔ x.isNaN = false ∧ y.isNaN = false ∧ rank x < rank y := by
  rw [lt_iff_compare, compare_form_iff, Int.compare_eq_lt]

theorem beq_iff_rank : (x == y) = true ↔ x.isNaN = false ∧ y.isNaN = false ∧ rank x = rank y := by
  show (UnpackedFloat.compare (form x) (form y) == some .eq) = true ↔ _
  rw [beq_iff_eq, compare_form_iff, Int.compare_eq_eq]

theorem le_iff_rank : x ≤ y ↔ x.isNaN = false ∧ y.isNaN = false ∧ rank x ≤ rank y := by
  have compared : x ≤ y ↔
      Option.any Ordering.isLE (UnpackedFloat.compare (form x) (form y)) = true :=
    decide_eq_true_iff
  rw [compared, Option.any_eq_true]
  constructor
  · rintro ⟨order, found, atMost⟩
    obtain ⟨number, numberOther, rfl⟩ := (compare_form_iff order).1 found
    exact ⟨number, numberOther, Int.isLE_compare.1 atMost⟩
  · rintro ⟨number, numberOther, atMost⟩
    exact ⟨_, (compare_form_iff _).2 ⟨number, numberOther, rfl⟩, Int.isLE_compare.2 atMost⟩

theorem eq_zero_iff_rank : (x == 0.0) = true ↔ x.isNaN = false ∧ rank x = 0 := by
  have zero : rank 0.0 = 0 := rfl
  rw [beq_iff_rank, zero]
  exact ⟨fun equal => ⟨equal.1, equal.2.2⟩, fun equal => ⟨equal.1, rfl, equal.2⟩⟩

theorem rank_eq_zero_iff : rank x = 0 ↔ Null (form x) := by
  have canonical := canonical_form x
  rw [rank]
  cases unpacked : form x with
  | notANumber | zero _ => exact ⟨fun _ => trivial, fun _ => rfl⟩
  | infinity sign => cases sign <;> exact ⟨fun zero => absurd zero (by decide), False.elim⟩
  | finite sign m e positive =>
      rw [unpacked] at canonical
      refine ⟨fun zero => ?_, False.elim⟩
      cases sign
      · exact absurd zero (Int.ne_of_lt (place_negative canonical))
      · exact absurd zero (Int.ne_of_gt (place_positive canonical))

theorem rank_of_isNaN (none : x.isNaN = true) : rank x = 0 := by
  rw [rank, isNaN_iff.1 none]
  rfl

/-- Below zero are the numbers with the negative sign, apart from a zero. -/
theorem rank_nonneg_iff : 0 ≤ rank x ↔ Null (form x) ∨ HasSign .positive (form x) := by
  have canonical := canonical_form x
  rw [rank]
  cases unpacked : form x with
  | notANumber | zero _ => exact ⟨fun _ => .inl trivial, fun _ => Int.le_refl 0⟩
  | infinity sign =>
      cases sign
      · constructor
        · intro above
          exact absurd above (by decide)
        · rintro (⟨⟨⟩⟩ | own)
          cases own
      · exact ⟨fun _ => .inr rfl, fun _ => by decide⟩
  | finite sign m e positive =>
      rw [unpacked] at canonical
      cases sign
      · constructor
        · intro above
          exact absurd above (Int.not_le.2 (place_negative canonical))
        · rintro (⟨⟨⟩⟩ | own)
          cases own
      · exact ⟨fun _ => .inr rfl, fun _ => Int.le_of_lt (place_positive canonical)⟩

theorem rank_abs (x : Float) : rank x.abs = (rank x).natAbs := by
  rw [rank, form_abs, rank]
  have canonical := canonical_form x
  cases unpacked : form x with
  | notANumber | zero _ => rfl
  | infinity sign => cases sign <;> rfl
  | finite sign m e positive =>
      rw [unpacked] at canonical
      have above : 0 < place (.finite .positive m e positive) := place_positive canonical
      cases sign
      · have opposite : place (.finite .negative m e positive) =
            -place (.finite .positive m e positive) := rfl
        show place (.finite .positive m e positive) = _
        rw [opposite]
        omega
      · show place (.finite .positive m e positive) = _
        omega

theorem rank_neg (x : Float) : rank (-x) = -rank x := by
  rw [rank, form_neg, rank]
  cases form x with
  | notANumber | zero _ => rfl
  | infinity sign => cases sign <;> rfl
  | finite sign m e positive =>
      cases sign
      · exact (Int.neg_neg _).symm
      · rfl

theorem isNaN_abs (x : Float) : x.abs.isNaN = x.isNaN := by
  show (form x.abs).isNaN = (form x).isNaN
  rw [form_abs]
  cases form x <;> rfl

/-- What is not below a number is at it or past it. -/
theorem le_of_not_lt (number : x.isNaN = false) (numberOther : y.isNaN = false)
    (apart : ¬ x < y) : y ≤ x := by
  rw [lt_iff_rank] at apart
  rw [le_iff_rank]
  exact ⟨numberOther, number, Int.not_lt.1 fun below => apart ⟨number, numberOther, below⟩⟩

protected theorem le_trans {z : Float} (first : x ≤ y) (second : y ≤ z) : x ≤ z := by
  rw [le_iff_rank] at *
  exact ⟨first.1, second.2.1, Int.le_trans first.2.2 second.2.2⟩

protected theorem le_of_lt (below : x < y) : x ≤ y := by
  rw [lt_iff_rank] at below
  rw [le_iff_rank]
  exact ⟨below.1, below.2.1, Int.le_of_lt below.2.2⟩

end Comparisons

/-! ## Arithmetic -/

theorem Null.unpack_pack {u : UnpackedFloat} (null : Null u) :
    (Float.Model.pack u).unpack = u := by
  cases u with
  | notANumber | zero _ => exact unpack_pack_of_canonical trivial
  | infinity _ | finite _ _ _ _ => cases null

theorem Null.mul_left {u v : UnpackedFloat} (null : Null u) :
    Null (UnpackedFloat.mul .binary64 u v) := by
  cases u with
  | notANumber | zero _ => cases v <;> trivial
  | infinity _ | finite _ _ _ _ => cases null

theorem Null.mul_right {u v : UnpackedFloat} (null : Null v) :
    Null (UnpackedFloat.mul .binary64 u v) := by
  cases v with
  | notANumber | zero _ => cases u <;> trivial
  | infinity _ | finite _ _ _ _ => cases null

theorem Null.sub {u v : UnpackedFloat} (left : Null u) (right : Null v) :
    Null (UnpackedFloat.sub .binary64 u v) := by
  cases u with
  | notANumber => trivial
  | zero sign =>
      cases v with
      | notANumber => trivial
      | zero other => cases sign <;> cases other <;> trivial
      | infinity _ | finite _ _ _ _ => cases right
  | infinity _ | finite _ _ _ _ => cases left

theorem hasSign_roundWithAccuracy (sign : Sign) (mantissa : Nat) (exponent : Int)
    (accuracy : Accuracy) :
    HasSign sign (UnpackedFloat.roundWithAccuracy .binary64 sign mantissa exponent accuracy) := by
  have either {c : Prop} [Decidable c] {yes : c → UnpackedFloat} {no : ¬ c → UnpackedFloat}
      (ownYes : ∀ h, HasSign sign (yes h)) (ownNo : ∀ h, HasSign sign (no h)) :
      HasSign sign (dite c yes no) := by
    by_cases holds : c
    · rw [dif_pos holds]
      exact ownYes holds
    · rw [dif_neg holds]
      exact ownNo holds
  exact either (fun _ => rfl) fun _ => rfl

theorem normalize_eq (mantissa exponent : Int) (zeroSign : Sign) :
    UnpackedFloat.normalize .binary64 mantissa exponent zeroSign =
      match compare mantissa 0 with
      | .lt => .round .binary64 .negative (-mantissa).toNat exponent
      | .eq => .zero zeroSign
      | .gt => .round .binary64 .positive mantissa.toNat exponent :=
  rfl

theorem HasSign.number {sign : Sign} {u : UnpackedFloat} (own : HasSign sign u) :
    u ≠ .notANumber := by
  rintro rfl
  exact own

theorem number_unpack_pack {u : UnpackedFloat} (number : u ≠ .notANumber) :
    (Float.Model.pack u).unpack ≠ .notANumber := by
  obtain ⟨sign, own⟩ : ∃ sign, HasSign sign u := by
    cases u with
    | notANumber => exact absurd rfl number
    | infinity sign | zero sign | finite sign _ _ _ => exact ⟨sign, rfl⟩
  exact own.unpack_pack.number

/-- A product of numbers has the product of their signs, unless it is no number. -/
theorem HasSign.mul {sign other : Sign} {u v : UnpackedFloat} (left : HasSign sign u)
    (right : HasSign other v) (number : UnpackedFloat.mul .binary64 u v ≠ .notANumber) :
    HasSign (sign * other) (UnpackedFloat.mul .binary64 u v) := by
  cases u with
  | notANumber => cases left
  | infinity _ =>
      cases left
      cases v with
      | notANumber => cases right
      | infinity _ | finite _ _ _ _ =>
          cases right
          rfl
      | zero _ => exact absurd rfl number
  | zero _ =>
      cases left
      cases v with
      | notANumber => cases right
      | infinity _ => exact absurd rfl number
      | zero _ | finite _ _ _ _ =>
          cases right
          rfl
  | finite _ _ _ _ =>
      cases left
      cases v with
      | notANumber => cases right
      | infinity _ | zero _ =>
          cases right
          rfl
      | finite _ _ _ _ =>
          cases right
          exact hasSign_roundWithAccuracy _ _ _ _

/-- Finite numbers have a difference. -/
theorem sub_ne_notANumber {u v : UnpackedFloat} (finite : u.isFinite = true)
    (finiteOther : v.isFinite = true) : UnpackedFloat.sub .binary64 u v ≠ .notANumber := by
  have normalized (mantissa exponent : Int) (zeroSign : Sign) :
      UnpackedFloat.normalize .binary64 mantissa exponent zeroSign ≠ .notANumber := by
    rw [normalize_eq]
    split
    · exact (hasSign_roundWithAccuracy _ _ _ _).number
    · intro none
      cases none
    · exact (hasSign_roundWithAccuracy _ _ _ _).number
  cases u with
  | notANumber | infinity _ => cases finite
  | zero sign =>
      cases v with
      | notANumber | infinity _ => cases finiteOther
      | zero other => cases sign <;> cases other <;> exact fun none => nomatch none
      | finite _ _ _ _ => exact fun none => nomatch none
  | finite sign m e _ =>
      cases v with
      | notANumber | infinity _ => cases finiteOther
      | zero _ => exact fun none => nomatch none
      | finite other n i _ => exact normalized _ _ _

/-- The order of the operands does not count for the size of their difference. -/
theorem abs_sub_swap (u v : UnpackedFloat) :
    (UnpackedFloat.sub .binary64 u v).abs = (UnpackedFloat.sub .binary64 v u).abs := by
  have rounded (s t : Sign) (m : Nat) (e : Int) :
      (UnpackedFloat.round .binary64 s m e).abs = (UnpackedFloat.round .binary64 t m e).abs := by
    show (dite _ _ _ : UnpackedFloat).abs = (dite _ _ _ : UnpackedFloat).abs
    rw [apply_dite UnpackedFloat.abs, apply_dite UnpackedFloat.abs]
    rfl
  have normalized (d e : Int) :
      (UnpackedFloat.normalize .binary64 (-d) e .positive).abs =
        (UnpackedFloat.normalize .binary64 d e .positive).abs := by
    rw [normalize_eq, normalize_eq]
    rcases Int.lt_trichotomy d 0 with below | rfl | above
    · rw [Int.compare_eq_lt.2 below, Int.compare_eq_gt.2 (by omega)]
      exact rounded _ _ _ _
    · rfl
    · rw [Int.compare_eq_gt.2 above, Int.compare_eq_lt.2 (by omega), Int.neg_neg]
      exact rounded _ _ _ _
  cases u with
  | notANumber => cases v <;> rfl
  | infinity sign =>
      cases v with
      | infinity other => cases sign <;> cases other <;> rfl
      | _ => rfl
  | zero sign =>
      cases v with
      | zero other => cases sign <;> cases other <;> rfl
      | _ => rfl
  | finite sign m e _ =>
      cases v with
      | finite other n i _ =>
          show (UnpackedFloat.normalize .binary64 (_ - _) (min e i) .positive).abs =
            (UnpackedFloat.normalize .binary64 (_ - _) (min i e) .positive).abs
          rw [Int.min_comm i e, ← normalized, Int.neg_sub]
      | _ => rfl

/-- Nor does it count for their sum. -/
theorem add_swap (u v : UnpackedFloat) :
    UnpackedFloat.add .binary64 u v = UnpackedFloat.add .binary64 v u := by
  cases u with
  | notANumber => cases v <;> rfl
  | infinity sign =>
      cases v with
      | infinity other => cases sign <;> cases other <;> rfl
      | _ => rfl
  | zero sign =>
      cases v with
      | zero other => cases sign <;> cases other <;> rfl
      | _ => rfl
  | finite sign m e _ =>
      cases v with
      | finite other n i _ =>
          show UnpackedFloat.normalize .binary64 (_ + _) (min e i) .positive =
            UnpackedFloat.normalize .binary64 (_ + _) (min i e) .positive
          rw [Int.min_comm i e, Int.add_comm]
      | _ => rfl

section Arithmetic

variable {x y : Float}

theorem form_product :
    form (x * y) = (Float.Model.pack (UnpackedFloat.mul .binary64 (form x) (form y))).unpack :=
  rfl

theorem form_difference :
    form (x - y) = (Float.Model.pack (UnpackedFloat.sub .binary64 (form x) (form y))).unpack :=
  rfl

/-- A product with a zero is a zero or no number. -/
theorem rank_mul_eq_zero (zero : rank y = 0) : rank (x * y) = 0 := by
  have product : Null (UnpackedFloat.mul .binary64 (form x) (form y)) :=
    (rank_eq_zero_iff.1 zero).mul_right
  rwa [rank_eq_zero_iff, form_product, product.unpack_pack]

/-- A difference of zeros is a zero. -/
theorem rank_sub_eq_zero (left : rank x = 0) (right : rank y = 0) : rank (x - y) = 0 := by
  have difference : Null (UnpackedFloat.sub .binary64 (form x) (form y)) :=
    (rank_eq_zero_iff.1 left).sub (rank_eq_zero_iff.1 right)
  rwa [rank_eq_zero_iff, form_difference, difference.unpack_pack]

/-- A product of numbers not below zero is not below zero. -/
theorem rank_mul_nonneg (left : 0 ≤ rank x) (right : 0 ≤ rank y) : 0 ≤ rank (x * y) := by
  rw [rank_nonneg_iff, form_product]
  have product : Null (UnpackedFloat.mul .binary64 (form x) (form y)) ∨
      HasSign .positive (UnpackedFloat.mul .binary64 (form x) (form y)) := by
    rcases rank_nonneg_iff.1 left with null | own
    · exact .inl null.mul_left
    · rcases rank_nonneg_iff.1 right with null | ownOther
      · exact .inl null.mul_right
      · by_cases none : UnpackedFloat.mul .binary64 (form x) (form y) = .notANumber
        · exact .inl (none ▸ trivial)
        · exact .inr (own.mul ownOther none)
  obtain null | own := product
  · exact .inl (null.unpack_pack.symm ▸ null)
  · exact .inr own.unpack_pack

/-- A number has a product with every finite one that is not zero. -/
theorem isNaN_mul_eq_false {sign : Sign} {mantissa : Nat} {exponent : Int}
    {positive : 0 < mantissa} (number : x.isNaN = false)
    (finite : form y = .finite sign mantissa exponent positive) : (x * y).isNaN = false := by
  rw [isNaN_eq_false_iff] at number ⊢
  rw [form_product, finite]
  refine number_unpack_pack ?_
  cases unpacked : form x with
  | notANumber => exact absurd unpacked number
  | infinity _ | zero _ => exact fun none => nomatch none
  | finite _ _ _ _ => exact (hasSign_roundWithAccuracy _ _ _ _).number

/-- Finite numbers have a distance, though it may be infinite. -/
theorem isNaN_sub_eq_false (finite : x.isFinite = true) (finiteOther : y.isFinite = true) :
    (x - y).isNaN = false := by
  rw [isNaN_eq_false_iff, form_difference]
  exact number_unpack_pack (sub_ne_notANumber finite finiteOther)

/-- Two numbers are as far from each other as the other way round. -/
theorem distance_comm (x y : Float) : (x - y).abs = (y - x).abs := by
  have same : (form (x - y)).abs = (form (y - x)).abs := abs_unpack_pack (abs_sub_swap _ _)
  exact congrArg (fun u => (⟨Float.Model.pack u⟩ : Float)) same

theorem sum_comm (x y : Float) : x + y = y + x :=
  congrArg (fun u => (⟨Float.Model.pack u⟩ : Float)) (add_swap (form x) (form y))

end Arithmetic

end SciCalc.Number
