import Drafting.Proofs.Gradient.Frame
import Mathlib

/-!
# Doubles next to zero, and past the greatest

What becomes of a number in a step against no slope, and of one that is not finite. A double
consists of a sign, a mantissa and an exponent, or is special; its operations take it apart, work on
the parts and put the result together again. Taking a double apart and putting it together gives it
back (`ofParts_parts`), adding a zero changes no more than the sign of a zero (`add_zero_cases`),
and the share of a finite damping that a step goes is finite, so that zero times it is a zero again
(`neg_zero_mul`). A sum is finite only if its first term is (`isFinite_of_add`).
-/

namespace Drafting

namespace Double

open Float.Model (Format UnpackedFloat totalExponent)
open Float.Model.UnpackedFloat

/-! ### Packing -/

/-- Every word of 64 bits is packed from a sign, an exponent and a mantissa. -/
lemma exists_packComponents (b : BitVec 64) :
    ∃ s exponent mantissa, b = packComponents .binary64 s exponent mantissa :=
  ⟨_, _, _, (@packComponents_unpackSign_unpackExponent_unpackMantissa .binary64 b).symm⟩

/-- A zero, or a finite number that is not too large for a double, with a sign. -/
inductive Fits (s : Sign) : UnpackedFloat → Prop where
  | zero : Fits s (.zero s)
  | finite (mantissa : ℕ) (exponent : ℤ) (pos : 0 < mantissa) : mantissa < 2 ^ 53 →
    exponent ≤ 971 → Fits s (.finite s mantissa exponent pos)

lemma fits_packComponents (s : Sign) {exponent : BitVec 11} (mantissa : BitVec 52)
    (greatest : exponent ≠ -1#11) :
    Fits s (unpack .binary64 (packComponents .binary64 s exponent mantissa)) := by
  have small : mantissa.toNat < 2 ^ 52 := mantissa.isLt
  have below : exponent.toNat < 2047 := by
    refine lt_of_le_of_ne (Nat.le_of_lt_succ exponent.isLt) fun same => greatest ?_
    exact BitVec.eq_of_toNat_eq same
  rw [unpack]
  simp only [unpackMantissa_packComponents, unpackExponent_packComponents,
    unpackSign_packComponents, Sign.ofBitVec_toBitVec]
  rw [if_neg greatest]
  split
  · next least =>
    split
    · exact .zero
    · refine .finite _ _ _ (small.trans (by decide)) ?_
      rw [least]
      decide
  · refine .finite _ _ _ (1#1 ++ mantissa).isLt ?_
    change (exponent.toNat : ℤ) - (1023 + 52) ≤ 971
    omega

/-- A double that is finite fits. -/
lemma exists_fits_unpack {b : BitVec 64} (finite : (unpack .binary64 b).isFinite = true) :
    ∃ s, Fits s (unpack .binary64 b) := by
  obtain ⟨s, exponent, mantissa, rfl⟩ := exists_packComponents b
  refine ⟨s, fits_packComponents s mantissa fun greatest => ?_⟩
  rw [unpack] at finite
  simp only [unpackMantissa_packComponents, unpackExponent_packComponents] at finite
  rw [if_pos greatest] at finite
  split at finite
  · cases finite
  · cases finite

lemma fits_unpack_pack (s : Sign) {mantissa : ℕ} {exponent : ℤ} (pos : 0 < mantissa)
    (small : exponent ≤ 971) : Fits s (unpack .binary64
      (UnpackedFloat.pack .binary64 (.finite s mantissa exponent pos))) := by
  have below : (exponent + Format.binary64.exponentBias +
      Format.binary64.mantissaBitsWithoutImplicit).toNat < 2047 := by
    change (exponent + 1023 + 52).toNat < 2047
    omega
  rw [UnpackedFloat.pack]
  dsimp only
  rw [if_neg (Nat.not_le_of_lt (Nat.succ_lt_succ below))]
  split
  · refine fits_packComponents s _ fun greatest => below.ne ?_
    have top := congrArg BitVec.toNat greatest
    rw [BitVec.toNat_ofNat] at top
    exact (Nat.mod_eq_of_lt (below.trans (by decide))).symm.trans top
  · exact fits_packComponents s _ (by decide)

/-! ### Rounding -/

lemma mantissa_shiftRight (em : ExtendedMantissa) (k : ℕ) :
    (em >>> k).mantissa = em.mantissa / 2 ^ k := by
  induction k with
  | zero => exact (Nat.div_one _).symm
  | succ k ih =>
    change (em >>> k).mantissa / 2 = _
    rw [ih, Nat.div_div_eq_div_mul, Nat.pow_succ]

lemma roundedMantissa_le (em : ExtendedMantissa) : em.roundedMantissa ≤ em.mantissa + 1 := by
  obtain ⟨mantissa, roundBit, stickyBit⟩ := em
  cases roundBit <;> cases stickyBit <;>
    simp [ExtendedMantissa.roundedMantissa, ExtendedMantissa.accuracy,
      Accuracy.roundToNearestEven]
  omega

lemma log2_le_of_lt {n k : ℕ} (small : n < 2 ^ (k + 1)) : n.log2 ≤ k := by
  by_cases zero : n = 0
  · rw [zero, Nat.log2_zero]
    exact Nat.zero_le k
  · exact Nat.le_of_lt_succ ((Nat.log2_lt zero).mpr small)

/-- Shifting to the exponent aimed at leaves no more bits than a double has. -/
lemma div_shift_lt (mantissa : ℕ) (exponent : ℤ) :
    mantissa / 2 ^ (Format.binary64.targetExponent (totalExponent mantissa exponent) -
      exponent).toNat < 2 ^ 53 := by
  have enough : mantissa.log2 + 1 ≤ 53 + (Format.binary64.targetExponent
      (totalExponent mantissa exponent) - exponent).toNat := by
    change mantissa.log2 + 1 ≤
      53 + (max (mantissa.log2 + 1 + exponent - 53) (-1074) - exponent).toNat
    omega
  rw [Nat.div_lt_iff_lt_mul (Nat.two_pow_pos _), ← Nat.pow_add]
  exact Nat.lt_log2_self.trans_le (Nat.pow_le_pow_right (by decide) enough)

/-- What rounding makes of a number that is not too large fits. -/
lemma round_cases (s : Sign) {mantissa : ℕ} {exponent : ℤ} (few : mantissa < 2 ^ 106)
    (small : exponent ≤ 912) :
    roundWithAccuracy .binary64 s mantissa exponent .exact = .zero s ∨
      ∃ mantissa' exponent' pos, exponent' ≤ 971 ∧
        roundWithAccuracy .binary64 s mantissa exponent .exact =
          .finite s mantissa' exponent' pos := by
  have bits := log2_le_of_lt few
  have short := div_shift_lt mantissa exponent
  have reached : exponent + ((Format.binary64.targetExponent (totalExponent mantissa exponent) -
      exponent).toNat : ℤ) ≤ 965 := by
    change exponent + ((max (mantissa.log2 + 1 + exponent - 53) (-1074) - exponent).toNat : ℤ) ≤ 965
    omega
  rw [roundWithAccuracy]
  dsimp only [shiftToTargetExponent, shiftToExponent]
  generalize (Format.binary64.targetExponent (totalExponent mantissa exponent) -
    exponent).toNat = k at short reached ⊢
  have rounded := roundedMantissa_le (ExtendedMantissa.ofMantissaAndAccuracy mantissa .exact >>> k)
  rw [mantissa_shiftRight] at rounded
  generalize (ExtendedMantissa.ofMantissaAndAccuracy mantissa .exact >>> k).roundedMantissa =
    mantissa' at rounded ⊢
  -- rounding up can take one bit more, and the second shift drops it
  have bits' : mantissa'.log2 ≤ 53 :=
    log2_le_of_lt ((rounded.trans short).trans_lt (by decide))
  split
  · exact .inl rfl
  · next pos =>
    refine .inr ⟨_, _, Nat.pos_of_ne_zero pos, ?_, rfl⟩
    change exponent + k + ((max (mantissa'.log2 + 1 + (exponent + k) - 53) (-1074) -
      (exponent + k)).toNat : ℤ) ≤ 971
    omega

lemma fits_unpack_pack_round (s : Sign) {mantissa : ℕ} {exponent : ℤ} (few : mantissa < 2 ^ 106)
    (small : exponent ≤ 912) : Fits s (unpack .binary64
      (UnpackedFloat.pack .binary64 (roundWithAccuracy .binary64 s mantissa exponent .exact))) := by
  obtain zero | ⟨mantissa', exponent', pos, le, finite⟩ := round_cases s few small
  · rw [zero]
    cases s <;> exact .zero
  · rw [finite]
    exact fits_unpack_pack s pos le

/-! ### Doubles and their parts -/

/-- What a double consists of. -/
def parts (x : Float) : UnpackedFloat := x.toModel.unpack

/-- The double with given parts. -/
def ofParts (u : UnpackedFloat) : Float := .ofModel (.pack u)

lemma ofParts_parts (x : Float) : ofParts (parts x) = x := by
  obtain ⟨bits, valid⟩ := x
  simp [ofParts, parts, Float.Model.pack, Float.Model.unpack, pack_unpack_of_valid valid]

lemma parts_zero (s : Sign) : parts (ofParts (.zero s)) = .zero s := by
  cases s <;> rfl

lemma add_eq (x y : Float) : x + y = ofParts (UnpackedFloat.add .binary64 (parts x) (parts y)) :=
  rfl

lemma mul_eq (x y : Float) : x * y = ofParts (UnpackedFloat.mul .binary64 (parts x) (parts y)) :=
  rfl

lemma isZero_ofParts_zero (s : Sign) : Scalar.isZero (ofParts (.zero s)) = true := by
  cases s <;> decide +kernel

lemma sign_mul_positive (s : Sign) : s * .positive = s := by
  cases s <;> rfl

/-- Adding a zero changes nothing but the sign of a zero. -/
lemma add_zero_cases (x : Float) (s : Sign) :
    x + ofParts (.zero s) = x ∨
      s = .positive ∧ Scalar.isZero (x + ofParts (.zero s)) = true ∧ Scalar.isZero x = true := by
  rw [add_eq, parts_zero]
  have whole := ofParts_parts x
  generalize parts x = u at whole ⊢
  cases u with
  | notANumber => exact .inl whole
  | infinity s' => exact .inl whole
  | finite s' m e pos => exact .inl whole
  | zero s' =>
    rw [← whole]
    cases s with
    | negative => cases s' <;> exact .inl rfl
    | positive =>
      refine .inr ⟨rfl, ?_, isZero_ofParts_zero s'⟩
      cases s' <;> exact isZero_ofParts_zero .positive

/-- A finite number times the share that a step goes is finite. -/
lemma fits_mul_stepScale {s : Sign} {x : Float} (fits : Fits s (parts x)) :
    Fits s (parts (x * Gradient.stepScale)) := by
  have scale : parts Gradient.stepScale =
      .finite .positive 5764607523034235 (-59) (by decide) := rfl
  rw [mul_eq, scale]
  generalize parts x = u at fits ⊢
  cases fits with
  | zero =>
    have product : UnpackedFloat.mul .binary64 (.zero s)
        (.finite .positive 5764607523034235 (-59) (by decide)) = .zero (s * .positive) := rfl
    rw [product, parts_zero, sign_mul_positive]
    exact .zero
  | finite m e pos short small =>
    have product : UnpackedFloat.mul .binary64 (.finite s m e pos)
        (.finite .positive 5764607523034235 (-59) (by decide)) =
        roundWithAccuracy .binary64 s (m * 5764607523034235) (e + -59) .exact :=
      congrArg (fun s => roundWithAccuracy .binary64 s _ _ .exact) (sign_mul_positive s)
    have few : m * 5764607523034235 < 2 ^ 106 := by
      calc m * 5764607523034235 < 2 ^ 53 * 2 ^ 53 := Nat.mul_lt_mul'' short (by decide)
        _ = 2 ^ 106 := by decide
    rw [product]
    exact fits_unpack_pack_round s few (by omega)

/-- Zero times a number that fits is a zero. -/
lemma neg_zero_mul {s : Sign} {y : Float} (fits : Fits s (parts y)) :
    -(0 : Float) * y = ofParts (.zero (.negative * s)) := by
  have zero : parts (-(0 : Float)) = .zero .negative := rfl
  rw [mul_eq, zero]
  generalize parts y = u at fits ⊢
  cases fits with
  | zero => rfl
  | finite => rfl

lemma exists_fits {x : Float} (finite : x.isFinite = true) : ∃ s, Fits s (parts x) :=
  exists_fits_unpack finite

lemma fits_positive {s : Sign} {x : Float} (fits : Fits s (parts x)) (pos : 0 < x) :
    s = .positive := by
  have zero : parts 0 = .zero .positive := rfl
  have less : ((parts 0).lt (parts x)) = true := of_decide_eq_true pos
  rw [zero] at less
  cases s with
  | positive => rfl
  | negative =>
    generalize parts x = u at fits less
    cases fits <;> cases less

/-! ### Numbers that are not finite -/

/-- Infinity plus anything is infinity, or no number at all. -/
lemma infinity_add_cases (s : Sign) (v : UnpackedFloat) :
    UnpackedFloat.add .binary64 (.infinity s) v = .infinity s ∨
      UnpackedFloat.add .binary64 (.infinity s) v = .notANumber := by
  cases v with
  | notANumber => exact .inr rfl
  | infinity s' =>
    cases s <;> cases s'
    · exact .inl rfl
    · exact .inr rfl
    · exact .inr rfl
    · exact .inl rfl
  | zero => cases s <;> exact .inl rfl
  | finite => cases s <;> exact .inl rfl

lemma isFinite_infinity (s : Sign) : (ofParts (.infinity s)).isFinite = false := by
  cases s <;> decide +kernel

lemma isFinite_notANumber : (ofParts .notANumber).isFinite = false := by decide +kernel

/-- A sum is finite only if its first term is. -/
lemma isFinite_of_add {x y : Float} (finite : (x + y).isFinite = true) : x.isFinite = true := by
  change (parts x).isFinite = true
  rw [add_eq] at finite
  generalize parts x = u at finite ⊢
  generalize parts y = v at finite
  cases u with
  | notANumber =>
    have undefined : UnpackedFloat.add .binary64 .notANumber v = .notANumber := by cases v <;> rfl
    rw [undefined, isFinite_notANumber] at finite
    cases finite
  | infinity s =>
    obtain infinite | undefined := infinity_add_cases s v
    · rw [infinite, isFinite_infinity] at finite
      cases finite
    · rw [undefined, isFinite_notANumber] at finite
      cases finite
  | zero s => rfl
  | finite => rfl

end Double

/-! ### Steps against no slope -/

instance : Scalar.IsLevel Float where
  slope_eq_zero := by decide +kernel
  zero_add_zero := by decide +kernel
  add_zero_same a := (Double.add_zero_cases a .positive).imp id And.right
  add_level_same a damping finite := by
    obtain ⟨s, fits⟩ := Double.exists_fits finite
    change Scalar.Same (a + -(0 : Float) * (damping * Gradient.stepScale)) a
    rw [Double.neg_zero_mul (Double.fits_mul_stepScale fits)]
    exact (Double.add_zero_cases a _).imp id And.right
  add_level_eq a damping finite pos := by
    obtain ⟨s, fits⟩ := Double.exists_fits finite
    obtain rfl := Double.fits_positive fits pos
    change a + -(0 : Float) * (damping * Gradient.stepScale) = a
    rw [Double.neg_zero_mul (Double.fits_mul_stepScale fits)]
    exact (Double.add_zero_cases a _).resolve_right fun ⟨positive, _⟩ => nomatch positive

end Drafting
