/-
# SciCalc.Proofs.Number.Double -- infinities and NaN in the arithmetic of doubles

Doubles compute by cases on what they are (`form`): an infinity, no number, a zero, or a finite
number that is not zero.  A result that is none of the finite ones comes out as it went in
(`unpack_pack`), and that is all the rounding these laws need:

* what is no number makes every further result none, and is below nothing
  (`not_abs_lt_of_isNaN`);
* a value that is not finite stays so in differences and products, and one such value divided
  by another is no number (`isNaN_div`);
* no double is on both sides of zero, and one that equals zero is on none;
* of two doubles each is compared with the other in the opposite way (`compare_swap`).
-/
import SciCalc.Number.Scalar

namespace SciCalc.Number

set_option autoImplicit false

open Float.Model (UnpackedFloat)
open Float.Model.UnpackedFloat (Sign)

/-- What a double is. -/
def form (x : Float) : UnpackedFloat := x.toModel.unpack

theorem unpack_pack {u : UnpackedFloat} (special : u.isFinite = false) :
    (Float.Model.pack u).unpack = u := by
  cases u with
  | notANumber => rfl
  | infinity sign => cases sign <;> rfl
  | zero sign => cases special
  | finite sign mantissa exponent positive => cases special

section Special

variable {x y t : Float}

theorem isNaN_iff : x.isNaN = true ↔ form x = .notANumber := by
  show (form x).isNaN = true ↔ _
  cases form x with
  | notANumber => exact ⟨fun _ => rfl, fun _ => rfl⟩
  | _ => constructor <;> intro same <;> cases same

theorem not_isFinite_iff :
    x.isFinite = false ↔ form x = .notANumber ∨ ∃ sign, form x = .infinity sign := by
  show (form x).isFinite = false ↔ _
  cases form x with
  | notANumber => exact ⟨fun _ => .inl rfl, fun _ => rfl⟩
  | infinity sign => exact ⟨fun _ => .inr ⟨sign, rfl⟩, fun _ => rfl⟩
  | zero _ | finite _ _ _ _ =>
      constructor
      · intro special
        cases special
      · rintro (none | ⟨sign, unbounded⟩)
        · cases none
        · cases unbounded

theorem lt_iff : x < y ↔ (form x).lt (form y) = true :=
  decide_eq_true_iff

theorem form_sub (special : (UnpackedFloat.sub .binary64 (form x) (form y)).isFinite = false) :
    form (x - y) = UnpackedFloat.sub .binary64 (form x) (form y) :=
  unpack_pack special

theorem form_mul (special : (UnpackedFloat.mul .binary64 (form x) (form y)).isFinite = false) :
    form (x * y) = UnpackedFloat.mul .binary64 (form x) (form y) :=
  unpack_pack special

theorem form_div (special : (UnpackedFloat.div .binary64 (form x) (form y)).isFinite = false) :
    form (x / y) = UnpackedFloat.div .binary64 (form x) (form y) :=
  unpack_pack special

/-! ## What is no number -/

theorem isNaN_sub_left (none : x.isNaN = true) : (x - y).isNaN = true := by
  have unpacked : UnpackedFloat.sub .binary64 (form x) (form y) = .notANumber := by
    rw [isNaN_iff.1 none]
    cases form y <;> rfl
  exact isNaN_iff.2 ((form_sub (by rw [unpacked]; rfl)).trans unpacked)

theorem isNaN_sub_right (none : y.isNaN = true) : (x - y).isNaN = true := by
  have unpacked : UnpackedFloat.sub .binary64 (form x) (form y) = .notANumber := by
    rw [isNaN_iff.1 none]
    cases form x <;> rfl
  exact isNaN_iff.2 ((form_sub (by rw [unpacked]; rfl)).trans unpacked)

theorem isNaN_div_right (none : y.isNaN = true) : (x / y).isNaN = true := by
  have unpacked : UnpackedFloat.div .binary64 (form x) (form y) = .notANumber := by
    rw [isNaN_iff.1 none]
    cases form x <;> rfl
  exact isNaN_iff.2 ((form_div (by rw [unpacked]; rfl)).trans unpacked)

/-- No threshold is above what is no number. -/
theorem not_abs_lt_of_isNaN (none : x.isNaN = true) : ¬ x.abs < t := by
  have magnitude : form x.abs = .notANumber := by
    have unpacked : (form x).abs = .notANumber := by
      rw [isNaN_iff.1 none]
      rfl
    exact (unpack_pack (by rw [show x.toModel.unpack.abs = _ from unpacked]; rfl)).trans unpacked
  intro below
  rw [lt_iff, magnitude] at below
  cases below

/-! ## What is not finite -/

theorem not_isFinite_sub_left (infinite : x.isFinite = false) : (x - y).isFinite = false := by
  have unpacked : (UnpackedFloat.sub .binary64 (form x) (form y)).isFinite = false := by
    rcases not_isFinite_iff.1 infinite with none | ⟨sign, unbounded⟩
    · rw [none]
      cases form y <;> rfl
    · rw [unbounded]
      cases form y with
      | infinity other => cases sign <;> cases other <;> rfl
      | _ => rfl
  exact (congrArg UnpackedFloat.isFinite (form_sub unpacked)).trans unpacked

theorem not_isFinite_mul_left (infinite : x.isFinite = false) : (x * y).isFinite = false := by
  have unpacked : (UnpackedFloat.mul .binary64 (form x) (form y)).isFinite = false := by
    rcases not_isFinite_iff.1 infinite with none | ⟨sign, unbounded⟩
    · rw [none]
      cases form y <;> rfl
    · rw [unbounded]
      cases form y <;> rfl
  exact (congrArg UnpackedFloat.isFinite (form_mul unpacked)).trans unpacked

/-- Of two values that are not finite, neither is a multiple of the other. -/
theorem isNaN_div (numerator : x.isFinite = false) (denominator : y.isFinite = false) :
    (x / y).isNaN = true := by
  have unpacked : UnpackedFloat.div .binary64 (form x) (form y) = .notANumber := by
    rcases not_isFinite_iff.1 numerator with none | ⟨sign, above⟩ <;>
      rcases not_isFinite_iff.1 denominator with noneBelow | ⟨other, below⟩
    · rw [none, noneBelow]
      rfl
    · rw [none, below]
      rfl
    · rw [above, noneBelow]
      rfl
    · rw [above, below]
      rfl
  exact isNaN_iff.2 ((form_div (by rw [unpacked]; rfl)).trans unpacked)

/-! ## The two sides of zero -/

theorem form_zero : form 0.0 = .zero .positive := by
  rfl

theorem not_negative_of_positive (above : 0.0 < x) : ¬ x < 0.0 := by
  intro below
  rw [lt_iff, form_zero] at above below
  cases unpacked : form x with
  | notANumber | zero _ =>
      rw [unpacked] at above
      cases above
  | infinity sign | finite sign _ _ _ =>
      rw [unpacked] at above below
      cases sign
      · cases above
      · cases below

/-- What equals zero is a zero. -/
theorem form_of_eq_zero (zero : (x == 0.0) = true) : ∃ sign, form x = .zero sign := by
  have equal : (form x).beq (form 0.0) = true := zero
  rw [form_zero] at equal
  cases unpacked : form x with
  | zero sign => exact ⟨sign, rfl⟩
  | notANumber =>
      rw [unpacked] at equal
      cases equal
  | infinity sign | finite sign _ _ _ =>
      rw [unpacked] at equal
      cases sign <;> cases equal

theorem not_positive_of_eq_zero (zero : (x == 0.0) = true) : ¬ 0.0 < x := by
  obtain ⟨sign, unpacked⟩ := form_of_eq_zero zero
  intro above
  rw [lt_iff, form_zero, unpacked] at above
  cases above

theorem not_negative_of_eq_zero (zero : (x == 0.0) = true) : ¬ x < 0.0 := by
  obtain ⟨sign, unpacked⟩ := form_of_eq_zero zero
  intro below
  rw [lt_iff, form_zero, unpacked] at below
  cases below

/-- What equals zero is below every positive threshold. -/
theorem abs_lt_of_eq_zero (zero : (x == 0.0) = true) (positive : 0.0 < t) : x.abs < t := by
  obtain ⟨sign, unpacked⟩ := form_of_eq_zero zero
  have magnitude : form x.abs = .zero .positive := by
    have unsigned : (form x).abs = .zero .positive := by
      rw [unpacked]
      rfl
    show (Float.Model.pack (form x).abs).unpack = _
    rw [unsigned]
    rfl
  rw [lt_iff, form_zero] at positive
  rw [lt_iff, magnitude]
  exact positive

/-! ## The order -/

theorem compare_swap (u v : UnpackedFloat) :
    UnpackedFloat.compare v u = (UnpackedFloat.compare u v).map Ordering.swap := by
  have sizes (e i : Int) (m n : Nat) :
      (compare i e).then (compare n m) = ((compare e i).then (compare m n)).swap := by
    rw [Ordering.swap_then, ← Std.OrientedCmp.eq_swap, ← Std.OrientedCmp.eq_swap]
  cases u with
  | notANumber => cases v <;> rfl
  | infinity sign =>
      cases v with
      | infinity other => cases sign <;> cases other <;> rfl
      | _ => cases sign <;> rfl
  | zero sign =>
      cases v with
      | infinity other | finite other _ _ _ => cases other <;> rfl
      | _ => rfl
  | finite sign m e _ =>
      cases v with
      | finite other n i _ =>
          cases sign <;> cases other
          · exact congrArg some (congrArg Ordering.swap (sizes e i m n))
          · rfl
          · rfl
          · exact congrArg some (sizes e i m n)
      | infinity other => cases other <;> rfl
      | _ => cases sign <;> rfl

theorem lt_iff_compare : x < y ↔ UnpackedFloat.compare (form x) (form y) = some .lt := by
  rw [lt_iff]
  exact beq_iff_eq

theorem not_lt_of_lt (below : x < y) : ¬ y < x := by
  rw [lt_iff_compare] at below ⊢
  rw [compare_swap, below]
  intro same
  cases same

theorem beq_eq_false_of_lt (below : x < y) : (x == y) = false := by
  rw [lt_iff_compare] at below
  show (UnpackedFloat.compare (form x) (form y) == some .eq) = false
  rw [below]
  rfl

end Special

end SciCalc.Number
