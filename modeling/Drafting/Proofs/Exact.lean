import Drafting.Scalar.Binary64
import Drafting.Value.Conversion
import Mathlib.Analysis.SpecialFunctions.Trigonometric.Inverse

/-!
# Exact arithmetic

The reals as scalars: every operation is exact and every number is finite. Doubles and reals are
plain scalars, that is, no number is changed in place and none hides a fault. A value of an option
is a number if it is given as a real or as an integer that is one.
-/

namespace Drafting

/-- Scalars that are numbers and nothing else. -/
class Scalar.IsPlain (α : Type) [Scalar α] : Prop where
  increase_eq (a b : α) : Scalar.increase a b = a + b
  wear_eq (a b : α) : Scalar.wear a b = a
  settle_eq (a : α) : Scalar.settle a = a
  after_eq (a b : α) : Scalar.after a b = b

instance : Scalar.IsPlain Float where
  increase_eq _ _ := rfl
  wear_eq _ _ := rfl
  settle_eq _ := rfl
  after_eq _ _ := rfl

/-- The real number that a numeral writes; one that writes no number counts as zero. -/
noncomputable def Numeral.toRealNumber : Numeral → ℝ
  | .decimal negative digits exponent =>
    (if negative then -1 else 1) * digits * (10 : ℝ) ^ exponent
  | _ => 0

noncomputable instance : Scalar ℝ where
  decidableLe a b := inferInstanceAs (Decidable (a ≤ b))
  decidableLt a b := inferInstanceAs (Decidable (a < b))
  abs a := |a|
  sqrt := Real.sqrt
  acos := Real.arccos
  hypot a b := √(a ^ 2 + b ^ 2)
  isFinite _ := true
  ceil a := ⌈a⌉₊
  ofInt? n := some n
  ofIntBelow n := n
  compareInt? n a := some (cmp (n : ℝ) a)
  ofNumeral := Numeral.toRealNumber
  text _ := "real"

instance : Scalar.IsPlain ℝ where
  increase_eq _ _ := rfl
  wear_eq _ _ := rfl
  settle_eq _ := rfl
  after_eq _ _ := rfl

/-- Over the reals it is of no consequence from which end a list is summed. -/
lemma Scalar.sum_eq_sum (xs : List ℝ) : Scalar.sum xs = xs.sum := by
  rw [List.sum_eq_foldl]
  rfl

/-- The greater of two reals is their maximum. -/
lemma Scalar.greater_eq_max (a b : ℝ) : Scalar.greater a b = max a b := by
  change (if a < b then b else a) = max a b
  split
  · next less => exact (max_eq_right less.le).symm
  · next above => exact (max_eq_left (not_lt.mp above)).symm

/-- A value that is a number: a real, or an integer that is no other than the number. -/
inductive Value.IsNumber {α : Type} [Scalar α] : Value α → α → Prop where
  | real (x : α) : IsNumber (.real x) x
  | int (n : ℤ) (x : α) : Scalar.ofInt? n = some x → Scalar.ofIntBelow n = x → IsNumber (.int n) x

/-- A value that counts as a number: a mark, an integer that is in range, or a real. -/
inductive Value.CountsAs {α : Type} [Scalar α] : Value α → α → Prop where
  | flag {b : Bool} {x : α} : Scalar.ofInt? (if b then 1 else 0) = some x → CountsAs (.flag b) x
  | int {n : ℤ} {x : α} : Scalar.ofInt? n = some x → CountsAs (.int n) x
  | real (x : α) : CountsAs (.real x) x

namespace Value

variable {α : Type} [Scalar α] {v : Value α} {x : α}

lemma ofIntOrFault_eq_ok {n : ℤ} (inRange : Scalar.ofInt? n = some x) :
    (ofIntOrFault n : Except (Fault α) α) = .ok x := by
  rw [ofIntOrFault, inRange]

namespace CountsAs

variable (counts : v.CountsAs x)

include counts

lemma factor_eq_ok : v.factor = .ok x := by
  cases counts with
  | flag inRange | int inRange => exact ofIntOrFault_eq_ok inRange
  | real x => rfl

lemma exists_bound : ∃ y, v.bound = .ok y := by
  cases counts with
  | flag inRange => exact ⟨x, ofIntOrFault_eq_ok inRange⟩
  | int | real => exact ⟨_, rfl⟩

lemma exists_iterationCap : ∃ count, v.iterationCap = .ok count := by
  cases counts <;> exact ⟨_, rfl⟩

end CountsAs

namespace IsNumber

lemma countsAs (number : v.IsNumber x) : v.CountsAs x := by
  cases number with
  | real x => exact .real x
  | int n x inRange below => exact .int inRange

lemma factor_eq_ok (number : v.IsNumber x) : v.factor = .ok x := number.countsAs.factor_eq_ok

lemma bound_eq_ok (number : v.IsNumber x) : v.bound = .ok x := by
  cases number with
  | real x => rfl
  | int n x inRange below =>
    rw [← below]
    rfl

end IsNumber

end Value

end Drafting
