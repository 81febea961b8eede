import Drafting.Proofs.Doubles

/-!
# Domains of roots and arc cosines

A root is taken of what is not below zero, and an arc cosine of what lies between minus one and one.
Scalars have domains if these hold of whatever a measurement takes them of: of a number that has
been raised to zero, of a mean of squares, and of a number that has been moved into the range. The
reals do, and so do doubles with their infinities and their undefined results: a double is not below
zero unless it has a negative sign, and squares, sums and shares of numbers without one have none
either.
-/

namespace Drafting

/-- Scalars of which roots and arc cosines are taken in their domains. -/
class Scalar.HasDomains (α : Type) [Scalar α] : Prop where
  zero : ¬(0 : α) < 0
  undefined {a : α} : ¬a ≤ a → ¬a < 0
  square (a : α) : ¬a * a < 0
  sum {a b : α} : ¬a < 0 → ¬b < 0 → ¬a + b < 0
  share {a : α} (n : ℕ) : ¬a < 0 → ¬a / (n : α) < 0
  greater (a : α) : ¬Scalar.greater a 0 < 0
  clamp (a : α) : -1 ≤ Scalar.clamp a (-1) 1 ∧ Scalar.clamp a (-1) 1 ≤ 1

instance : Scalar.HasDomains ℝ where
  zero := lt_irrefl (0 : ℝ)
  undefined undefined := absurd le_rfl undefined
  square a := not_lt.mpr (mul_self_nonneg a)
  sum first second := not_lt.mpr (add_nonneg (not_lt.mp first) (not_lt.mp second))
  share n above := not_lt.mpr (div_nonneg (not_lt.mp above) n.cast_nonneg)
  greater a := by
    change ¬(if a < 0 then 0 else a) < 0
    split
    · exact lt_irrefl 0
    · assumption
  clamp a := by
    change -1 ≤ (if -1 < (if a < 1 then a else 1) then (if a < 1 then a else 1) else -1) ∧
      (if -1 < (if a < 1 then a else 1) then (if a < 1 then a else 1) else -1) ≤ (1 : ℝ)
    split_ifs <;> constructor <;> linarith

namespace Double

open Float.Model (Format UnpackedFloat)
open Float.Model.UnpackedFloat

lemma lt_iff (x y : Float) : x < y ↔ (parts x).lt (parts y) = true :=
  decide_eq_true_iff (p := x.toModel < y.toModel)

lemma le_iff (x y : Float) : x ≤ y ↔ (parts x).le (parts y) = true :=
  decide_eq_true_iff (p := x.toModel ≤ y.toModel)

lemma le_of_lt {x y : Float} (less : x < y) : x ≤ y := by
  rw [lt_iff, UnpackedFloat.lt, beq_iff_eq] at less
  rw [le_iff, UnpackedFloat.le, less]
  rfl

/-- A number that is less than another is not undefined. -/
lemma le_self_of_lt {x y : Float} (less : x < y) : x ≤ x := by
  rw [lt_iff, UnpackedFloat.lt, beq_iff_eq] at less
  rw [le_iff]
  generalize parts x = u at less ⊢
  cases u with
  | notANumber => cases less
  | infinity s => cases s <;> rfl
  | zero s => rfl
  | finite s m e pos => cases s <;> simp [UnpackedFloat.le, UnpackedFloat.compare]

/-! ### Numbers without a negative sign -/

/-- Parts that have no negative sign. -/
inductive IsUnsigned : UnpackedFloat → Prop where
  | notANumber : IsUnsigned .notANumber
  | infinity : IsUnsigned (.infinity .positive)
  | zero : IsUnsigned (.zero .positive)
  | finite (mantissa : ℕ) (exponent : ℤ) (pos : 0 < mantissa) :
    IsUnsigned (.finite .positive mantissa exponent pos)

lemma isUnsigned_packComponents (exponent : BitVec 11) (mantissa : BitVec 52) :
    IsUnsigned (unpack .binary64 (packComponents .binary64 .positive exponent mantissa)) := by
  rw [unpack]
  simp only [unpackMantissa_packComponents, unpackExponent_packComponents,
    unpackSign_packComponents, Sign.ofBitVec_toBitVec]
  split
  · split
    · exact .infinity
    · exact .notANumber
  · split
    · split
      · exact .zero
      · exact .finite ..
    · exact .finite ..

/-- A double that is put together without a negative sign has none. -/
lemma IsUnsigned.ofParts {u : UnpackedFloat} (unsigned : IsUnsigned u) :
    IsUnsigned (parts (ofParts u)) := by
  have packed : ∃ exponent mantissa,
      u.pack .binary64 = packComponents .binary64 .positive exponent mantissa := by
    cases unsigned with
    | notANumber | infinity | zero => exact ⟨_, _, rfl⟩
    | finite m e pos =>
      rw [UnpackedFloat.pack]
      dsimp only
      split
      · exact ⟨_, _, rfl⟩
      · split <;> exact ⟨_, _, rfl⟩
  obtain ⟨exponent, mantissa, packed⟩ := packed
  have unpacked : parts (Double.ofParts u) = unpack .binary64 (u.pack .binary64) := rfl
  rw [unpacked, packed]
  exact isUnsigned_packComponents exponent mantissa

lemma isUnsigned_roundWithAccuracy (m : ℕ) (e : ℤ) (accuracy : Accuracy) :
    IsUnsigned (roundWithAccuracy .binary64 .positive m e accuracy) := by
  rw [roundWithAccuracy]
  dsimp only
  split
  · exact .zero
  · exact .finite ..

/-- A sum that is not below zero is put together without a negative sign. -/
lemma isUnsigned_normalize (m : ℕ) (e : ℤ) :
    IsUnsigned (Float.Model.UnpackedFloat.normalize .binary64 m e .positive) := by
  rw [Float.Model.UnpackedFloat.normalize]
  split
  · next less => exact absurd (Int.compare_eq_lt.mp less) (by omega)
  · exact .zero
  · exact isUnsigned_roundWithAccuracy ..

namespace IsUnsigned

variable {u v : UnpackedFloat}

lemma add (first : IsUnsigned u) (second : IsUnsigned v) :
    IsUnsigned (UnpackedFloat.add .binary64 u v) := by
  cases first with
  | notANumber => cases second <;> exact .notANumber
  | infinity => cases second <;> first | exact .infinity | exact .notANumber
  | zero => cases second <;> constructor
  | finite m e pos =>
    cases second with
    | notANumber => exact .notANumber
    | infinity => exact .infinity
    | zero => exact .finite ..
    | finite m' e' pos' => exact isUnsigned_normalize (_ + _) _

lemma mul (first : IsUnsigned u) (second : IsUnsigned v) :
    IsUnsigned (UnpackedFloat.mul .binary64 u v) := by
  cases first <;> cases second <;>
    first | exact isUnsigned_roundWithAccuracy .. | constructor

lemma div (first : IsUnsigned u) (second : IsUnsigned v) :
    IsUnsigned (UnpackedFloat.div .binary64 u v) := by
  cases first <;> cases second <;>
    first | exact isUnsigned_roundWithAccuracy .. | constructor

end IsUnsigned

/-- A square has no negative sign. -/
lemma isUnsigned_square (u : UnpackedFloat) : IsUnsigned (UnpackedFloat.mul .binary64 u u) := by
  cases u with
  | notANumber => exact .notANumber
  | infinity s => cases s <;> exact .infinity
  | zero s => cases s <;> exact .zero
  | finite s m e pos => cases s <;> exact isUnsigned_roundWithAccuracy ..

/-- A number that is given by digits has no negative sign, nor has what it is scaled by. -/
lemma isUnsigned_ofScientific (m : ℕ) (e : ℤ) :
    IsUnsigned (UnpackedFloat.ofScientific .binary64 m e) := by
  rw [UnpackedFloat.ofScientific]
  split
  · exact .zero
  · split
    · exact .infinity
    · split
      · exact .zero
      · split
        · exact (IsUnsigned.finite ..).mul (.finite ..)
        · exact (IsUnsigned.finite ..).div (.finite ..)

/-- A natural number has no negative sign. -/
lemma isUnsigned_natCast (n : ℕ) : IsUnsigned (parts (Scalar.toNatCast.natCast n)) := by
  change IsUnsigned (parts (Float.ofScientific n false 0))
  rw [Float.ofScientific]
  split
  -- what a double holds exactly is scaled by the zeroth power of ten, anything else is rounded
  · have whole : IsUnsigned (parts n.toUInt64.toFloat) := (isUnsigned_normalize _ _).ofParts
    have one : parts Float.exactlyRepresentablePowersOfTen[0] =
        .finite .positive (2 ^ 52) (-52) (by decide) := rfl
    have unsigned : IsUnsigned (parts Float.exactlyRepresentablePowersOfTen[0]) := by
      rw [one]
      exact .finite ..
    exact (whole.mul unsigned).ofParts
  · exact (isUnsigned_ofScientific n _).ofParts

/-! ### Numbers that are not below zero -/

/-- Parts of a number that is not below zero: it has no negative sign, unless it is a zero. -/
inductive NotBelow : UnpackedFloat → Prop where
  | negativeZero : NotBelow (.zero .negative)
  | unsigned {u : UnpackedFloat} : IsUnsigned u → NotBelow u

lemma not_lt_zero_iff (x : Float) : ¬x < 0 ↔ NotBelow (parts x) := by
  have zero : parts 0 = .zero .positive := rfl
  rw [lt_iff, zero]
  generalize parts x = u
  constructor
  · intro above
    cases u with
    | notANumber => exact .unsigned .notANumber
    | infinity s => cases s <;> first | exact .unsigned .infinity | exact absurd rfl above
    | zero s => cases s <;> first | exact .negativeZero | exact .unsigned .zero
    | finite s => cases s <;> first | exact .unsigned (.finite ..) | exact absurd rfl above
  · intro above
    cases above with
    | negativeZero => exact Bool.false_ne_true
    | unsigned unsigned => cases unsigned <;> exact Bool.false_ne_true

lemma NotBelow.ofParts {u : UnpackedFloat} (above : NotBelow u) : ¬Double.ofParts u < 0 := by
  rw [not_lt_zero_iff]
  cases above with
  | negativeZero => exact .negativeZero
  | unsigned unsigned => exact .unsigned unsigned.ofParts

lemma NotBelow.add {u v : UnpackedFloat} (first : NotBelow u) (second : NotBelow v) :
    NotBelow (UnpackedFloat.add .binary64 u v) := by
  cases first with
  | negativeZero =>
    cases second with
    | negativeZero => exact .negativeZero
    | unsigned unsigned => cases unsigned <;> exact .unsigned (by constructor)
  | unsigned unsigned =>
    cases second with
    | negativeZero => cases unsigned <;> exact .unsigned (by constructor)
    | unsigned unsigned' => exact .unsigned (unsigned.add unsigned')

lemma NotBelow.div {u v : UnpackedFloat} (first : NotBelow u) (second : IsUnsigned v) :
    NotBelow (UnpackedFloat.div .binary64 u v) := by
  cases first with
  | negativeZero =>
    cases second <;> first | exact .negativeZero | exact .unsigned .notANumber
  | unsigned unsigned => exact .unsigned (unsigned.div second)

end Double

instance : Scalar.HasDomains Float where
  zero := by decide +kernel
  undefined undefined less := undefined (Double.le_self_of_lt less)
  square a := (Double.NotBelow.unsigned (Double.isUnsigned_square _)).ofParts
  sum first second :=
    (((Double.not_lt_zero_iff _).mp first).add ((Double.not_lt_zero_iff _).mp second)).ofParts
  share n above :=
    (((Double.not_lt_zero_iff _).mp above).div (Double.isUnsigned_natCast n)).ofParts
  greater a := by
    change ¬(if a < 0 then (0 : Float) else a) < 0
    split
    · decide +kernel
    · assumption
  clamp a := by
    -- an undefined number is not less than one, so one takes its place
    have small : (if a < 1 then a else (1 : Float)) ≤ 1 := by
      split
      · next below => exact Double.le_of_lt below
      · decide +kernel
    change -1 ≤ (if -1 < (if a < 1 then a else 1) then (if a < 1 then a else 1) else (-1 : Float)) ∧
      (if -1 < (if a < 1 then a else 1) then (if a < 1 then a else 1) else (-1 : Float)) ≤ 1
    generalize (if a < 1 then a else (1 : Float)) = b at small ⊢
    split
    · next above => exact ⟨Double.le_of_lt above, small⟩
    · decide +kernel

end Drafting
