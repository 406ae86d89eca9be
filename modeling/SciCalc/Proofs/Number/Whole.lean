/-
# SciCalc.Proofs.Number.Whole -- the doubles nearest to whole numbers

A whole number of at most 53 bits is a double.  A longer one is rounded to its first 53 bits,
and the rounding can carry into one bit more.  So the double nearest to a positive whole number
is finite and positive up to a limit half way between the greatest finite double and the next
power of two (`wholeLimit`), and from there on it is infinite (`form_ofNat`).

Rounding shifts bits out of a mantissa one after the other and remembers the last of them.
What is left after any number of shifts is a quotient (`shifted_parts`), from which follow the
size of the rounded mantissa (`roundedMantissa_shifted`) and its exponent
(`roundWithAccuracy_normal`).

A range can therefore be divided into any number of parts below the limit and into none above
it (`partWidth_eq_ok`, `partWidth_eq_tooMany`).
-/
import Mathlib.Algebra.Order.Ring.Nat
import SciCalc.Number.Parts
import SciCalc.Proofs.Number.Order

namespace SciCalc.Number

set_option autoImplicit false

open Float.Model (Format UnpackedFloat totalExponent)
open Float.Model.UnpackedFloat (Sign ExtendedMantissa)

/-! ## Rounding to 53 bits -/

/-- A whole mantissa without its last bits. -/
def shifted (mantissa count : Nat) : ExtendedMantissa :=
  count.repeat ExtendedMantissa.shiftRightOne ⟨mantissa, false, false⟩

theorem shifted_parts (mantissa count : Nat) :
    (shifted mantissa count).mantissa = 2 * mantissa / 2 ^ count / 2 ∧
      (shifted mantissa count).roundBit = (2 * mantissa / 2 ^ count % 2 != 0) := by
  induction count with
  | zero =>
      refine ⟨?_, ?_⟩
      · rw [pow_zero, Nat.div_one, Nat.mul_div_cancel_left _ (by decide)]
        rfl
      · rw [pow_zero, Nat.div_one, Nat.mul_mod_right]
        rfl
  | succ count ih =>
      have halved : 2 * mantissa / 2 ^ (count + 1) = (shifted mantissa count).mantissa := by
        rw [ih.1, pow_succ, Nat.div_div_eq_div_mul]
      rw [halved]
      exact ⟨rfl, rfl⟩

theorem targetExponent_eq (exponent : Int) :
    Format.binary64.targetExponent exponent = max (exponent - 53) (-1074) := by
  rfl

/-- Rounding takes bits away twice: once before and, where that has made a bit more, once after. -/
theorem roundWithAccuracy_of_shifts (sign : Sign) {mantissa first second : Nat} {exponent : Int}
    (before : (Format.binary64.targetExponent (totalExponent mantissa exponent) -
      exponent).toNat = first)
    (after : (Format.binary64.targetExponent
      (totalExponent (shifted mantissa first).roundedMantissa (exponent + first)) -
        (exponent + first)).toNat = second)
    (positive : 0 < (shifted (shifted mantissa first).roundedMantissa second).mantissa) :
    UnpackedFloat.roundWithAccuracy .binary64 sign mantissa exponent .exact =
      .finite sign (shifted (shifted mantissa first).roundedMantissa second).mantissa
        (exponent + first + second) positive := by
  subst before after
  exact dif_neg (Nat.ne_of_gt positive)

/-- Rounding goes up by one at most.  From an odd mantissa it does if the next bit is one, and
it never does if that is zero. -/
theorem roundedMantissa_bounds (em : ExtendedMantissa) :
    em.mantissa ≤ em.roundedMantissa ∧ em.roundedMantissa ≤ em.mantissa + 1 ∧
      (em.roundBit = false → em.roundedMantissa = em.mantissa) ∧
      (em.roundBit = true → em.mantissa % 2 = 1 → em.roundedMantissa = em.mantissa + 1) := by
  obtain ⟨mantissa, roundBit, stickyBit⟩ := em
  cases roundBit with
  | false =>
      have same : ExtendedMantissa.roundedMantissa ⟨mantissa, false, stickyBit⟩ = mantissa := by
        cases stickyBit <;> rfl
      rw [same]
      exact ⟨Nat.le_refl _, Nat.le_succ _, fun _ => rfl, fun one => (nomatch one)⟩
  | true =>
      cases stickyBit with
      | false =>
          show mantissa ≤ mantissa + mantissa % 2 ∧ mantissa + mantissa % 2 ≤ mantissa + 1 ∧
            (true = false → mantissa + mantissa % 2 = mantissa) ∧
            (true = true → mantissa % 2 = 1 → mantissa + mantissa % 2 = mantissa + 1)
          exact ⟨by omega, by omega, fun zero => (nomatch zero), fun _ odd => by rw [odd]⟩
      | true =>
          exact ⟨Nat.le_succ _, Nat.le_refl _, fun zero => (nomatch zero), fun _ _ => rfl⟩

/-- The first 53 of at least 53 bits, rounded: the next power of two if they and the bit behind
them are all ones, and otherwise 53 bits again. -/
theorem roundedMantissa_shifted {mantissa count : Nat} (lower : 2 ^ 53 ≤ 2 * mantissa / 2 ^ count)
    (upper : 2 * mantissa / 2 ^ count < 2 ^ 54) :
    (2 ^ 54 - 1 ≤ 2 * mantissa / 2 ^ count ∧ (shifted mantissa count).roundedMantissa = 2 ^ 53) ∨
      (2 * mantissa / 2 ^ count < 2 ^ 54 - 1 ∧ 2 ^ 52 ≤ (shifted mantissa count).roundedMantissa ∧
        (shifted mantissa count).roundedMantissa < 2 ^ 53) := by
  obtain ⟨kept, decides⟩ := shifted_parts mantissa count
  obtain ⟨above, below, down, up⟩ := roundedMantissa_bounds (shifted mantissa count)
  rw [kept] at above below down up
  rw [decides] at down up
  by_cases ones : 2 ^ 54 - 1 ≤ 2 * mantissa / 2 ^ count
  · refine .inl ⟨ones, ?_⟩
    rw [up (bne_iff_ne.2 (by omega)) (by omega)]
    omega
  · refine .inr ⟨by omega, by omega, ?_⟩
    by_cases last : 2 * mantissa / 2 ^ count % 2 = 0
    · rw [down (by rw [last]; rfl)]
      omega
    · omega

/-- A number of more than 52 bits is rounded to 53, and its exponent grows by the number of those
taken away, and by one more if the first 54 are all ones. -/
theorem roundWithAccuracy_normal {mantissa count : Nat} {exponent : Int} (sign : Sign)
    (bits : mantissa.log2 = 52 + count) (low : -1074 ≤ exponent) :
    ∃ (m : Nat) (positive : 0 < m), 2 ^ 52 ≤ m ∧ m < 2 ^ 53 ∧
      UnpackedFloat.roundWithAccuracy .binary64 sign mantissa exponent .exact =
        .finite sign m
          (exponent + count + if 2 ^ 54 - 1 ≤ 2 * mantissa / 2 ^ count then 1 else 0) positive := by
  have nonzero : mantissa ≠ 0 := by
    rintro rfl
    rw [Nat.log2_zero] at bits
    omega
  obtain ⟨atLeast, atMost⟩ := (Nat.log2_eq_iff nonzero).1 bits
  have lower : 2 ^ 53 ≤ 2 * mantissa / 2 ^ count := by
    rw [pow_add] at atLeast
    rw [Nat.le_div_iff_mul_le (Nat.two_pow_pos count)]
    omega
  have upper : 2 * mantissa / 2 ^ count < 2 ^ 54 := by
    rw [show 52 + count + 1 = 53 + count by omega, pow_add] at atMost
    rw [Nat.div_lt_iff_lt_mul (Nat.two_pow_pos count)]
    omega
  have before : (Format.binary64.targetExponent (totalExponent mantissa exponent) -
      exponent).toNat = count := by
    rw [targetExponent_eq, totalExponent, bits]
    omega
  have after (size : Nat) (digits : (shifted mantissa count).roundedMantissa.log2 = 52 + size) :
      (Format.binary64.targetExponent
        (totalExponent (shifted mantissa count).roundedMantissa (exponent + count)) -
          (exponent + count)).toNat = size := by
    rw [targetExponent_eq, totalExponent, digits]
    omega
  rcases roundedMantissa_shifted lower upper with ⟨ones, carried⟩ | ⟨mixed, least, most⟩
  · have half : (shifted (shifted mantissa count).roundedMantissa 1).mantissa = 2 ^ 52 := by
      rw [carried]
      rfl
    rw [if_pos ones, roundWithAccuracy_of_shifts sign before
      (after 1 (by rw [carried, Nat.log2_two_pow])) (by rw [half]; decide)]
    exact ⟨_, _, by rw [half], by rw [half]; decide, rfl⟩
  · have digits : (shifted mantissa count).roundedMantissa.log2 = 52 + 0 :=
      (Nat.log2_eq_iff (by omega)).2 ⟨least, most⟩
    rw [if_neg (by omega), roundWithAccuracy_of_shifts sign before (after 0 digits)
      (Nat.lt_of_lt_of_le (by decide) least)]
    exact ⟨_, _, least, most, rfl⟩

/-! ## Whole numbers -/

/-- The least whole number whose nearest double is infinite: half way from the greatest finite one
to the next power of two. -/
def wholeLimit : Nat := 2 ^ 1024 - 2 ^ 970

theorem unpack_pack_normal {m : Nat} {positive : 0 < m} {exponent : Int} (sign : Sign)
    (least : 2 ^ 52 ≤ m) (most : m < 2 ^ 53) (low : -1074 ≤ exponent) :
    (Float.Model.pack (.finite sign m exponent positive)).unpack =
      if exponent ≤ 971 then .finite sign m exponent positive else .infinity sign := by
  by_cases high : exponent ≤ 971
  · rw [if_pos high]
    exact unpack_pack_of_canonical ⟨most, low, high, .inl least⟩
  · rw [if_neg high]
    show UnpackedFloat.unpack .binary64 (UnpackedFloat.pack .binary64 _) = _
    rw [pack_finite, if_pos (by omega), unpack_packComponents]
    rfl

/-- A number with fewer bits than a mantissa is rounded as it is, zeros behind it. -/
theorem round_eq (sign : Sign) {mantissa : Nat} {exponent target : Int}
    (targeted : Format.binary64.targetExponent (totalExponent mantissa exponent) = target) :
    UnpackedFloat.round .binary64 sign mantissa exponent =
      .roundWithAccuracy .binary64 sign (mantissa <<< (exponent - target).toNat)
        (exponent - (exponent - target).toNat) .exact := by
  subst targeted
  rfl

theorem log2_mul_two_pow {n : Nat} (nonzero : n ≠ 0) (k : Nat) :
    (n * 2 ^ k).log2 = n.log2 + k := by
  obtain ⟨atLeast, atMost⟩ := (Nat.log2_eq_iff nonzero).1 rfl
  rw [Nat.log2_eq_iff (Nat.mul_ne_zero nonzero (Nat.ne_of_gt (Nat.two_pow_pos k))),
    show n.log2 + k + 1 = n.log2 + 1 + k by omega, pow_add, pow_add]
  exact ⟨Nat.mul_le_mul_right _ atLeast, Nat.mul_lt_mul_of_pos_right atMost (Nat.two_pow_pos k)⟩

/-- Where all bits taken away are zeros nothing is carried. -/
theorem roundWithAccuracy_zeros (sign : Sign) {m : Nat} (least : 2 ^ 52 ≤ m) (most : m < 2 ^ 53)
    (count : Nat) (exponent : Int) (low : -1074 ≤ exponent) :
    ∃ (r : Nat) (positive : 0 < r), 2 ^ 52 ≤ r ∧ r < 2 ^ 53 ∧
      UnpackedFloat.roundWithAccuracy .binary64 sign (m * 2 ^ count) exponent .exact =
        .finite sign r (exponent + count) positive := by
  have bits : (m * 2 ^ count).log2 = 52 + count := by
    rw [log2_mul_two_pow (by omega), (Nat.log2_eq_iff (k := 52) (by omega)).2 ⟨least, most⟩]
  have mixed : ¬ 2 ^ 54 - 1 ≤ 2 * (m * 2 ^ count) / 2 ^ count := by
    rw [← Nat.mul_assoc, Nat.mul_div_cancel _ (Nat.two_pow_pos count)]
    omega
  obtain ⟨r, positive, atLeast, atMost, rounded⟩ := roundWithAccuracy_normal sign bits low
  rw [if_neg mixed, Int.add_zero] at rounded
  exact ⟨r, positive, atLeast, atMost, rounded⟩

/-- A whole number of at most 53 bits is a double. -/
theorem form_toFloat {n : Nat} (nonzero : n ≠ 0) (few : n < 2 ^ 53) :
    ∃ (m : Nat) (positive : 0 < m), 2 ^ 52 ≤ m ∧ m < 2 ^ 53 ∧
      form n.toUInt64.toFloat = .finite .positive m (n.log2 - 52) positive := by
  have digits : n.log2 ≤ 52 := Nat.lt_succ_iff.1 ((Nat.log2_lt nonzero).2 few)
  have whole : n.toUInt64.toNat = n := Nat.mod_eq_of_lt (by omega)
  have target : Format.binary64.targetExponent (totalExponent n 0) = n.log2 - 52 := by
    rw [targetExponent_eq, totalExponent]
    omega
  have shift : ((0 : Int) - (n.log2 - 52)).toNat = 52 - n.log2 := by omega
  have bits : (n * 2 ^ (52 - n.log2)).log2 = 52 := by
    rw [log2_mul_two_pow nonzero]
    omega
  obtain ⟨least, most⟩ := (Nat.log2_eq_iff (by rintro zero; rw [zero] at bits; cases bits)).1 bits
  have converted : UnpackedFloat.ofUInt64 .binary64 n.toUInt64 =
      .round .binary64 .positive n 0 := by
    show UnpackedFloat.normalize .binary64 (n.toUInt64.toNat : Int) 0 .positive = _
    rw [whole, normalize_eq, Int.compare_eq_gt.2 (by omega)]
    rfl
  obtain ⟨m, positive, atLeast, atMost, rounded⟩ := roundWithAccuracy_zeros .positive least most 0
    ((0 : Int) - (52 - n.log2 : Nat)) (by omega)
  have exponent : (0 : Int) - (52 - n.log2 : Nat) + (0 : Nat) = n.log2 - 52 := by omega
  rw [pow_zero, Nat.mul_one, exponent] at rounded
  refine ⟨m, positive, atLeast, atMost, ?_⟩
  show (Float.Model.pack (UnpackedFloat.ofUInt64 .binary64 n.toUInt64)).unpack = _
  rw [converted, round_eq .positive target, shift, Nat.shiftLeft_eq, rounded,
    unpack_pack_normal .positive atLeast atMost (by omega), if_pos (by omega)]

/-- The double nearest to a whole number of at most 53 bits. -/
theorem form_ofNat_few {n : Nat} (nonzero : n ≠ 0) (few : n < 2 ^ 53) :
    ∃ (m : Nat) (positive : 0 < m),
      form (Float.ofNat n) = .finite .positive m (n.log2 - 52) positive := by
  have digits : n.log2 ≤ 52 := Nat.lt_succ_iff.1 ((Nat.log2_lt nonzero).2 few)
  have product : Float.ofNat n = n.toUInt64.toFloat * Float.ofBits 0x3FF0000000000000 :=
    dif_pos ⟨few, by decide⟩
  have one : form (Float.ofBits 0x3FF0000000000000) =
      .finite .positive (2 ^ 52) (-52) (Nat.two_pow_pos 52) := by
    rfl
  obtain ⟨m, positive, least, most, converted⟩ := form_toFloat nonzero few
  obtain ⟨r, positiveRounded, atLeast, atMost, rounded⟩ :=
    roundWithAccuracy_zeros .positive least most 52 (n.log2 - 52 + -52) (by omega)
  have exponent : (n.log2 : Int) - 52 + -52 + (52 : Nat) = n.log2 - 52 := by omega
  rw [exponent] at rounded
  have multiplied : UnpackedFloat.mul .binary64 (form n.toUInt64.toFloat)
      (form (Float.ofBits 0x3FF0000000000000)) = _ :=
    (congrArg₂ (UnpackedFloat.mul .binary64) converted one).trans rounded
  refine ⟨r, positiveRounded, ?_⟩
  rw [product, form_product, multiplied, unpack_pack_normal .positive atLeast atMost (by omega),
    if_pos (by omega)]

/-- A whole number of more than 53 bits is rounded to them. -/
theorem ofScientific_whole {n : Nat} (nonzero : n ≠ 0) :
    UnpackedFloat.ofScientific .binary64 n 0 =
      .roundWithAccuracy .binary64 .positive (n * 2 ^ 53) (-53) .exact := by
  have shifted : UnpackedFloat.ofScientific .binary64 n 0 =
      .roundWithAccuracy .binary64 .positive (n <<< 53 * 1) (-53) .exact :=
    (dif_neg nonzero).trans ((if_neg (by decide)).trans ((if_neg (by
      show ¬ (0 : Int) < -(2048 + n.log2)
      omega)).trans (if_pos (by decide))))
  rw [shifted, Nat.mul_one, Nat.shiftLeft_eq]

theorem wholeLimit_eq : wholeLimit = (2 ^ 54 - 1) * 2 ^ 970 := by
  rw [wholeLimit, Nat.sub_mul, ← pow_add, Nat.one_mul]

theorem two_pow_le_wholeLimit {k : Nat} (small : k ≤ 1023) : 2 ^ k ≤ wholeLimit :=
  calc
    2 ^ k ≤ 2 ^ 1023 := pow_le_pow_right₀ (by decide) small
    _ = 2 ^ 53 * 2 ^ 970 := by rw [← pow_add]
    _ ≤ (2 ^ 54 - 1) * 2 ^ 970 := Nat.mul_le_mul_right _ (by decide)
    _ = wholeLimit := wholeLimit_eq.symm

theorem wholeLimit_le_two_pow {k : Nat} (large : 1024 ≤ k) : wholeLimit ≤ 2 ^ k :=
  Nat.le_trans (Nat.sub_le _ _) (pow_le_pow_right₀ (by decide) large)

/-- A number is beyond the limit if its exponent is too large, or becomes so by a carry. -/
theorem wholeLimit_le_iff {n : Nat} (nonzero : n ≠ 0) :
    wholeLimit ≤ n ↔ (971 : Int) < -53 + (n.log2 + 1 : Nat) +
      if 2 ^ 54 - 1 ≤ 2 * (n * 2 ^ 53) / 2 ^ (n.log2 + 1) then 1 else 0 := by
  obtain ⟨atLeast, atMost⟩ := (Nat.log2_eq_iff nonzero).1 rfl
  rcases Nat.lt_trichotomy n.log2 1023 with fewer | same | more
  · have below : n < wholeLimit := Nat.lt_of_lt_of_le atMost (two_pow_le_wholeLimit fewer)
    refine iff_of_false (Nat.not_le.2 below) ?_
    split <;> omega
  · have carried : 2 ^ 54 - 1 ≤ 2 * (n * 2 ^ 53) / 2 ^ (n.log2 + 1) ↔ wholeLimit ≤ n := by
      have first : 2 * (n * 2 ^ 53) = n * 2 ^ 54 := by omega
      have top : n.log2 + 1 = 970 + 54 := by omega
      rw [first, top, Nat.le_div_iff_mul_le (pow_pos (by decide) _), pow_add 2 970 54,
        ← Nat.mul_assoc, wholeLimit_eq]
      exact Nat.mul_le_mul_right_iff (Nat.two_pow_pos 54)
    rw [← carried]
    split <;> omega
  · have above : wholeLimit ≤ n := Nat.le_trans (wholeLimit_le_two_pow more) atLeast
    refine iff_of_true above ?_
    split <;> omega

/-- The double nearest to a whole number of more than 53 bits is infinite from the limit on. -/
theorem form_ofNat_many {n : Nat} (many : 2 ^ 53 ≤ n) :
    (n < wholeLimit → ∃ (m : Nat) (exponent : Int) (positive : 0 < m),
      form (Float.ofNat n) = .finite .positive m exponent positive) ∧
    (wholeLimit ≤ n → form (Float.ofNat n) = .infinity .positive) := by
  have nonzero : n ≠ 0 := by omega
  have digits : 53 ≤ n.log2 := (Nat.le_log2 nonzero).2 many
  have bits : (n * 2 ^ 53).log2 = 52 + (n.log2 + 1) := by
    rw [log2_mul_two_pow nonzero]
    omega
  obtain ⟨m, positive, least, most, rounded⟩ :=
    roundWithAccuracy_normal .positive bits (show (-1074 : Int) ≤ -53 by decide)
  have packed : form (Float.ofNat n) =
      (Float.Model.pack (UnpackedFloat.ofScientific .binary64 n 0)).unpack := by
    have scaled : Float.ofNat n = ⟨Float.Model.ofScientific n 0⟩ := dif_neg (by omega)
    rw [scaled]
    rfl
  rw [packed, ofScientific_whole nonzero, rounded,
    unpack_pack_normal .positive least most (by split <;> omega)]
  have limit := wholeLimit_le_iff nonzero
  refine ⟨fun within => ?_, fun beyond => if_neg (Int.not_le.2 (limit.1 beyond))⟩
  exact ⟨m, _, positive, if_pos (Int.not_lt.1 (mt limit.2 (Nat.not_le.2 within)))⟩

/-- **The doubles nearest to whole numbers.**  Below the limit they are finite, and positive for
positive numbers. -/
theorem form_ofNat {n : Nat} (nonzero : n ≠ 0) :
    (n < wholeLimit → ∃ (m : Nat) (exponent : Int) (positive : 0 < m),
      form (Float.ofNat n) = .finite .positive m exponent positive) ∧
    (wholeLimit ≤ n → form (Float.ofNat n) = .infinity .positive) := by
  by_cases few : n < 2 ^ 53
  · obtain ⟨m, positive, same⟩ := form_ofNat_few nonzero few
    refine ⟨fun _ => ⟨m, _, positive, same⟩, fun beyond => ?_⟩
    have large := two_pow_le_wholeLimit (k := 53) (by decide)
    omega
  · exact form_ofNat_many (Nat.not_lt.1 few)

theorem isFinite_ofNat_iff {n : Nat} (nonzero : n ≠ 0) :
    (Float.ofNat n).isFinite = true ↔ n < wholeLimit := by
  obtain ⟨finite, infinite⟩ := form_ofNat nonzero
  show (form (Float.ofNat n)).isFinite = true ↔ _
  by_cases within : n < wholeLimit
  · obtain ⟨m, exponent, positive, same⟩ := finite within
    rw [same]
    exact iff_of_true rfl within
  · rw [infinite (Nat.not_lt.1 within)]
    exact iff_of_false (fun same => nomatch same) within

theorem ofNat_ne_zero {n : Nat} (nonzero : n ≠ 0) : (Float.ofNat n == 0.0) = false := by
  obtain ⟨finite, infinite⟩ := form_ofNat nonzero
  refine Bool.eq_false_iff.2 fun equal => ?_
  obtain ⟨sign, zero⟩ := form_of_eq_zero equal
  by_cases within : n < wholeLimit
  · obtain ⟨m, exponent, positive, same⟩ := finite within
    cases same.symm.trans zero
  · cases (infinite (Nat.not_lt.1 within)).symm.trans zero

/-! ## Parts of a range -/

section Parts

variable {count : Int}

theorem ofInt_eq_ofNat (some : 1 ≤ count) : Float.ofInt count = Float.ofNat count.toNat := by
  obtain ⟨n, rfl⟩ := Int.eq_ofNat_of_zero_le (show 0 ≤ count by omega)
  rfl

/-- A range can be divided into every number of parts up to the limit. -/
theorem partWidth_eq_ok (a b : Float) (some : 1 ≤ count) (within : count < wholeLimit) :
    partWidth a b count = .ok ((b - a) / Float.ofInt count) := by
  have nonzero : count.toNat ≠ 0 := by omega
  have finite : Scalar.isFinite (Scalar.ofInt count : Float) = true := by
    show (Float.ofInt count).isFinite = true
    rw [ofInt_eq_ofNat some]
    exact (isFinite_ofNat_iff nonzero).2 (by omega)
  have different : ((Scalar.ofInt count : Float) == 0.0) = false := by
    show (Float.ofInt count == 0.0) = false
    rw [ofInt_eq_ofNat some]
    exact ofNat_ne_zero nonzero
  rw [partWidth, finite, different]
  rfl

theorem partWidth_eq_tooMany (a b : Float) (beyond : wholeLimit ≤ count) :
    partWidth a b count = .error .tooMany := by
  have large := two_pow_le_wholeLimit (k := 0) (by decide)
  have some : 1 ≤ count := by omega
  have infinite : Scalar.isFinite (Scalar.ofInt count : Float) = false := by
    show (Float.ofInt count).isFinite = false
    rw [ofInt_eq_ofNat some]
    exact Bool.eq_false_iff.2 (mt (isFinite_ofNat_iff (by omega)).1 (by omega))
  rw [partWidth, infinite]
  rfl

end Parts

end SciCalc.Number
