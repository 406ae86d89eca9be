/-
# SciCalc.Proofs.Number.Packing -- packing and unpacking doubles

The operations on doubles unpack their arguments, compute, and pack the result.  What a double
unpacks to is in canonical form (`canonical_form`), and a canonical form is unpacked as it was
packed (`unpack_pack_of_canonical`).  So what changes a sign and nothing else is seen exactly:
the form of `-x` is that of `x` with the other sign (`form_neg`, `form_abs`).

The result of an operation need not be canonical, its exponent can be too large.  Packing keeps
the sign even so, and makes a number of what is one (`HasSign.unpack_pack`); and the magnitude
that comes out does not depend on the sign that goes in (`abs_unpack_pack`).
-/
import SciCalc.Proofs.Number.Double

namespace SciCalc.Number

set_option autoImplicit false

open Float.Model (Format UnpackedFloat)
open Float.Model.UnpackedFloat (Sign unpackSign unpackExponent unpackMantissa packComponents
  unpackExponent_packComponents unpackMantissa_packComponents)

/-! ## Bits -/

theorem unpackSign_packComponents (sign : Sign) (exponent : BitVec 11) (mantissa : BitVec 52) :
    Sign.ofBitVec (unpackSign (packComponents .binary64 sign exponent mantissa)) = sign := by
  have bit : unpackSign (packComponents .binary64 sign exponent mantissa) = sign.toBitVec := by
    show BitVec.extractLsb' 63 1 (sign.toBitVec ++ exponent ++ mantissa) = _
    rw [BitVec.extractLsb'_append_eq_of_le (by omega),
      BitVec.extractLsb'_append_eq_of_le (by omega)]
    exact BitVec.extractLsb'_eq_self
  rw [bit]
  cases sign <;> rfl

theorem toNat_pos_of_ne_zero {mantissa : BitVec 52} (nonzero : ¬ mantissa = 0#_) :
    0 < mantissa.toNat :=
  Nat.pos_of_ne_zero fun zero => nonzero (BitVec.eq_of_toNat_eq zero)

/-- The implicit bit counts `2 ^ 52`. -/
theorem toNat_implicit (mantissa : BitVec 52) :
    (1#1 ++ mantissa).toNat = 4503599627370496 + mantissa.toNat := by
  rw [BitVec.toNat_append, ← Nat.shiftLeft_add_eq_or_of_lt mantissa.isLt]
  rfl

theorem toNat_implicit_pos (mantissa : BitVec 52) : 0 < (1#1 ++ mantissa).toNat := by
  rw [toNat_implicit]
  omega

/-- The form of a double with given parts: all ones in the exponent are an infinity or no number,
all zeros a zero or a number without the implicit bit. -/
def formOf (sign : Sign) (exponent : BitVec 11) (mantissa : BitVec 52) : UnpackedFloat :=
  if exponent = -1#_ then if mantissa = 0#_ then .infinity sign else .notANumber
  else if exponent = 0#_ then
    if zero : mantissa = 0#_ then .zero sign
    else .finite sign mantissa.toNat (exponent.toNat - 1075 + 1) (toNat_pos_of_ne_zero zero)
  else .finite sign (1#1 ++ mantissa).toNat (exponent.toNat - 1075) (toNat_implicit_pos mantissa)

theorem unpack_eq {bits : BitVec Format.binary64.numBits} {sign : Sign} {exponent : BitVec 11}
    {mantissa : BitVec 52} (signs : Sign.ofBitVec (unpackSign bits) = sign)
    (exponents : unpackExponent bits = exponent) (mantissas : unpackMantissa bits = mantissa) :
    UnpackedFloat.unpack .binary64 bits = formOf sign exponent mantissa := by
  subst signs exponents mantissas
  rfl

theorem unpack_packComponents (sign : Sign) (exponent : BitVec 11) (mantissa : BitVec 52) :
    UnpackedFloat.unpack .binary64 (packComponents .binary64 sign exponent mantissa) =
      formOf sign exponent mantissa :=
  unpack_eq (unpackSign_packComponents sign exponent mantissa) unpackExponent_packComponents
    unpackMantissa_packComponents

/-- Packing a finite form: too large an exponent makes it infinite. -/
theorem pack_finite (sign : Sign) (mantissa : Nat) (exponent : Int) (positive : 0 < mantissa) :
    UnpackedFloat.pack .binary64 (.finite sign mantissa exponent positive) =
      if 2048 ≤ (exponent + 1023 + 52).toNat + 1 then packComponents .binary64 sign (-1#_) 0
      else if mantissa.log2 + 1 = 53 then
        packComponents .binary64 sign (BitVec.ofNat _ (exponent + 1023 + 52).toNat)
          (BitVec.ofNat _ mantissa)
      else packComponents .binary64 sign 0#_ (BitVec.ofNat _ mantissa) := by
  rfl

/-! ## Canonical forms -/

/-- What doubles unpack to.  A finite form has at most 53 bits, and that many unless its exponent
is the least. -/
def Canonical : UnpackedFloat → Prop
  | .finite _ mantissa exponent _ =>
      mantissa < 9007199254740992 ∧ -1074 ≤ exponent ∧ exponent ≤ 971 ∧
        (4503599627370496 ≤ mantissa ∨ exponent = -1074)
  | _ => True

/-- Given parts make one kind of form whatever the sign.  Those of no number are all ones in the
exponent and a mantissa that is not zero. -/
theorem formOf_cases (exponent : BitVec 11) (mantissa : BitVec 52) :
    (∀ sign, formOf sign exponent mantissa = .infinity sign) ∨
    (exponent = -1#_ ∧ mantissa ≠ 0#_ ∧ ∀ sign, formOf sign exponent mantissa = .notANumber) ∨
    (∀ sign, formOf sign exponent mantissa = .zero sign) ∨
    ∃ m e positive, Canonical (.finite .positive m e positive) ∧
      ∀ sign, formOf sign exponent mantissa = .finite sign m e positive := by
  have small : mantissa.toNat < 4503599627370496 := mantissa.isLt
  have low : exponent.toNat < 2048 := exponent.isLt
  by_cases last : exponent = -1#_
  · by_cases zero : mantissa = 0#_
    · exact .inl fun sign => by rw [formOf, if_pos last, if_pos zero]
    · exact .inr (.inl ⟨last, zero, fun sign => by rw [formOf, if_pos last, if_neg zero]⟩)
  by_cases first : exponent = 0#_
  · by_cases zero : mantissa = 0#_
    · exact .inr (.inr (.inl fun sign => by
        rw [formOf, if_neg last, if_pos first, dif_pos zero]))
    · have least : exponent.toNat = 0 := congrArg BitVec.toNat first
      refine .inr (.inr (.inr ⟨_, _, toNat_pos_of_ne_zero zero, ?_, fun sign => by
        rw [formOf, if_neg last, if_pos first, dif_neg zero]⟩))
      exact ⟨by omega, by omega, by omega, .inr (by omega)⟩
  · have bound : exponent.toNat ≠ 2047 := fun same => last (BitVec.eq_of_toNat_eq same)
    have positive : exponent.toNat ≠ 0 := fun same => first (BitVec.eq_of_toNat_eq same)
    have whole := toNat_implicit mantissa
    refine .inr (.inr (.inr ⟨_, _, toNat_implicit_pos mantissa, ?_, fun sign => by
      rw [formOf, if_neg last, if_neg first]⟩))
    exact ⟨by omega, by omega, by omega, .inl (by omega)⟩

theorem canonical_formOf (sign : Sign) (exponent : BitVec 11) (mantissa : BitVec 52) :
    Canonical (formOf sign exponent mantissa) := by
  obtain same | ⟨-, -, same⟩ | same | ⟨m, e, positive, canonical, same⟩ :=
    formOf_cases exponent mantissa
  · exact same sign ▸ trivial
  · exact same sign ▸ trivial
  · exact same sign ▸ trivial
  · rw [same]
    exact canonical

theorem canonical_form (x : Float) : Canonical (form x) := by
  have unpacked : form x = formOf _ _ _ := unpack_eq rfl rfl rfl
  rw [unpacked]
  exact canonical_formOf _ _ _

/-- Finite forms are the same if their parts are. -/
theorem finite_congr {sign : Sign} {m n : Nat} {e i : Int} {positive : 0 < m}
    {positiveOther : 0 < n} (mantissas : m = n) (exponents : e = i) :
    UnpackedFloat.finite sign m e positive = .finite sign n i positiveOther := by
  subst mantissas exponents
  rfl

/-- A canonical form is unpacked as it was packed. -/
theorem unpack_pack_of_canonical {u : UnpackedFloat} (canonical : Canonical u) :
    (Float.Model.pack u).unpack = u := by
  cases u with
  | notANumber => rfl
  | infinity sign | zero sign => cases sign <;> rfl
  | finite sign mantissa exponent positive =>
      obtain ⟨few, low, high, full⟩ := canonical
      show UnpackedFloat.unpack .binary64 (UnpackedFloat.pack .binary64 _) = _
      have bits : mantissa.log2 + 1 = 53 ↔ 4503599627370496 ≤ mantissa := by
        have atLeast : 52 ≤ mantissa.log2 ↔ 4503599627370496 ≤ mantissa :=
          Nat.le_log2 (Nat.ne_of_gt positive)
        have atMost : 53 ≤ mantissa.log2 ↔ 9007199254740992 ≤ mantissa :=
          Nat.le_log2 (Nat.ne_of_gt positive)
        omega
      rw [pack_finite, if_neg (by omega)]
      by_cases normal : 4503599627370496 ≤ mantissa
      · have biased : (BitVec.ofNat 11 (exponent + 1023 + 52).toNat).toNat =
            (exponent + 1023 + 52).toNat := Nat.mod_eq_of_lt (by omega)
        have rest : (BitVec.ofNat 52 mantissa).toNat = mantissa - 4503599627370496 := by
          show mantissa % 4503599627370496 = _
          omega
        rw [if_pos (bits.2 normal), unpack_packComponents, formOf, if_neg, if_neg]
        · refine finite_congr ?_ ?_
          · rw [toNat_implicit, rest]
            omega
          · rw [biased]
            omega
        · intro same
          have zero : (exponent + 1023 + 52).toNat = 0 := biased ▸ congrArg BitVec.toNat same
          omega
        · intro same
          have last : (exponent + 1023 + 52).toNat = 2047 := biased ▸ congrArg BitVec.toNat same
          omega
      · have whole : (BitVec.ofNat 52 mantissa).toNat = mantissa := Nat.mod_eq_of_lt (by omega)
        rw [if_neg (mt bits.1 normal), unpack_packComponents, formOf, if_neg (by decide),
          if_pos rfl, dif_neg]
        · refine finite_congr whole ?_
          show ((0 : Nat) : Int) - 1075 + 1 = exponent
          omega
        · intro same
          have zero : mantissa = 0 := whole ▸ congrArg BitVec.toNat same
          omega

theorem Canonical.neg {u : UnpackedFloat} (canonical : Canonical u) : Canonical u.neg := by
  cases u <;> exact canonical

theorem Canonical.abs {u : UnpackedFloat} (canonical : Canonical u) : Canonical u.abs := by
  cases u <;> exact canonical

theorem form_neg (x : Float) : form (-x) = (form x).neg :=
  unpack_pack_of_canonical (canonical_form x).neg

theorem form_abs (x : Float) : form x.abs = (form x).abs :=
  unpack_pack_of_canonical (canonical_form x).abs

/-! ## Signs -/

/-- A number of a given sign; a zero has one too. -/
def HasSign (sign : Sign) : UnpackedFloat → Prop
  | .notANumber => False
  | .infinity own | .zero own | .finite own _ _ _ => own = sign

/-- Bits unpack to a number with their sign, unless they are those of no number. -/
theorem hasSign_unpack {sign : Sign} {exponent : BitVec 11} {mantissa : BitVec 52}
    (number : exponent = -1#_ → mantissa = 0#_) :
    HasSign sign (UnpackedFloat.unpack .binary64 (packComponents .binary64 sign exponent mantissa)) := by
  rw [unpack_packComponents]
  obtain same | ⟨last, nonzero, -⟩ | same | ⟨m, e, positive, -, same⟩ :=
    formOf_cases exponent mantissa
  · rw [same]
    rfl
  · exact absurd (number last) nonzero
  · rw [same]
    rfl
  · rw [same]
    rfl

/-- Packing keeps the sign. -/
theorem HasSign.unpack_pack {sign : Sign} {u : UnpackedFloat} (own : HasSign sign u) :
    HasSign sign (Float.Model.pack u).unpack := by
  cases u with
  | notANumber => cases own
  | infinity other =>
      have unpacked : (Float.Model.pack (.infinity other)).unpack = .infinity other :=
        unpack_pack_of_canonical trivial
      rwa [unpacked]
  | zero other =>
      have unpacked : (Float.Model.pack (.zero other)).unpack = .zero other :=
        unpack_pack_of_canonical trivial
      rwa [unpacked]
  | finite other mantissa exponent positive =>
      obtain rfl : other = sign := own
      show HasSign other (UnpackedFloat.unpack .binary64 (UnpackedFloat.pack .binary64 _))
      rw [pack_finite]
      split
      · exact hasSign_unpack fun _ => rfl
      · rename_i fits
        split
        · refine hasSign_unpack fun last => ?_
          have biased : (exponent + 1023 + 52).toNat % 2048 = 2047 := congrArg BitVec.toNat last
          omega
        · exact hasSign_unpack fun last => absurd last (by decide)

/-- The magnitude of what is unpacked does not depend on the sign that is packed. -/
theorem abs_unpack_pack {u v : UnpackedFloat} (same : u.abs = v.abs) :
    (Float.Model.pack u).unpack.abs = (Float.Model.pack v).unpack.abs := by
  have signless (sign other : Sign) (exponent : BitVec 11) (mantissa : BitVec 52) :
      (UnpackedFloat.unpack .binary64 (packComponents .binary64 sign exponent mantissa)).abs =
        (UnpackedFloat.unpack .binary64 (packComponents .binary64 other exponent mantissa)).abs := by
    rw [unpack_packComponents, unpack_packComponents]
    obtain same | ⟨-, -, same⟩ | same | ⟨m, e, positive, -, same⟩ := formOf_cases exponent mantissa
    · rw [same, same]
      rfl
    · rw [same, same]
    · rw [same, same]
      rfl
    · rw [same, same]
      rfl
  cases u <;> cases v <;> cases same
  case notANumber.notANumber.refl => rfl
  case infinity.infinity.refl => exact signless _ _ _ _
  case zero.zero.refl => exact signless _ _ _ _
  case finite.finite.refl =>
    show (UnpackedFloat.unpack .binary64 (UnpackedFloat.pack .binary64 _)).abs =
      (UnpackedFloat.unpack .binary64 (UnpackedFloat.pack .binary64 _)).abs
    rw [pack_finite, pack_finite]
    split
    · exact signless _ _ _ _
    · split <;> exact signless _ _ _ _

end SciCalc.Number
