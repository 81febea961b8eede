import Drafting.Proofs.Exact
import Drafting.Residual.Basic
import Mathlib.Algebra.Order.BigOperators.Group.List

/-!
# Root mean squares of residuals

In exact arithmetic a list of residuals either has an infeasible one, and then its root mean square
is infeasible, or it is a list of numbers, and then its root mean square is what the name says. No
number of a list is greater than its root mean square times the root of the length of the list.
-/

namespace Drafting.Residual

section

variable {α : Type}

/-- Whether nothing could be measured. -/
def isInfeasible : Residual α → Bool
  | infeasible => true
  | measured _ => false

lemma isInfeasible_iff {r : Residual α} : r.isInfeasible = true ↔ r = infeasible := by
  cases r <;> simp [isInfeasible]

lemma isInfeasible_ofOption (x : Option α) : (ofOption x).isInfeasible = !x.isSome := by
  cases x <;> rfl

variable [Scalar α]

lemma eq_of_finite? {x r : α} (finite : (measured x).finite? = some r) : r = x := by
  rw [finite?] at finite
  split at finite
  · exact (Option.some.inj finite).symm
  · cases finite

lemma eq_measured_of_finite? {r : Residual α} {x : α} (finite : r.finite? = some x) :
    r = measured x := by
  cases r with
  | infeasible => cases finite
  | measured y => rw [eq_of_finite? finite]

end

lemma isUndefined_eq_false (x : ℝ) : isUndefined x = false := by
  rw [isUndefined, decide_eq_true (le_refl x), Bool.not_true]

/-- A sum that has become infeasible stays so. -/
lemma foldl_addSquare_infeasible (rs : List (Residual ℝ)) :
    rs.foldl addSquare infeasible = infeasible := by
  induction rs with
  | nil => rfl
  | cons r rest ih =>
    have absorbed : addSquare infeasible r = infeasible := by
      cases r with
      | infeasible => rfl
      | measured x => simp [addSquare, isUndefined_eq_false]
    rw [List.foldl_cons, absorbed, ih]

/-- Adding the squares of numbers to a sum adds their sum. -/
lemma foldl_addSquare_measured (values : List ℝ) (total : ℝ) :
    (values.map measured).foldl addSquare (measured total) =
      measured (total + (values.map (· ^ 2)).sum) := by
  induction values generalizing total with
  | nil => simp
  | cons x rest ih =>
    have step : addSquare (measured total) (measured x) = measured (total + x * x) := rfl
    rw [List.map_cons, List.foldl_cons, step, ih, List.map_cons, List.sum_cons, sq, add_assoc]

/-- One infeasible residual makes the sum of the squares infeasible. -/
lemma sumOfSquares_of_infeasible {rs : List (Residual ℝ)} (there : infeasible ∈ rs) :
    sumOfSquares rs = infeasible := by
  obtain ⟨before, after, rfl⟩ := List.append_of_mem there
  have reached : addSquare (before.foldl addSquare (measured 0)) infeasible = infeasible := by
    cases before.foldl addSquare (measured (0 : ℝ)) with
    | infeasible => rfl
    | measured x => simp [addSquare, isUndefined_eq_false]
  rw [sumOfSquares, List.foldl_append, List.foldl_cons, reached, foldl_addSquare_infeasible]

/-- A residual as a number or, if infeasible, as what is greater than all numbers. -/
def toExtended : Residual ℝ → WithTop ℝ
  | infeasible => ⊤
  | measured r => r

/-- A residual with its number changed, if it has one. -/
def map (f : ℝ → ℝ) : Residual ℝ → Residual ℝ
  | infeasible => infeasible
  | measured r => measured (f r)

lemma rootMeanSquare_eq_map (rs : List (Residual ℝ)) :
    rootMeanSquare rs = (sumOfSquares rs).map fun t => √(t / rs.length) := by
  cases rs with
  | nil => simp [rootMeanSquare, sumOfSquares, map]
  | cons r rest =>
    rw [rootMeanSquare]
    · cases sumOfSquares (r :: rest) <;> rfl
    · exact List.cons_ne_nil r rest

/-- One infeasible residual makes the root mean square infeasible. -/
lemma rootMeanSquare_of_infeasible {rs : List (Residual ℝ)} (there : infeasible ∈ rs) :
    rootMeanSquare rs = infeasible := by
  rw [rootMeanSquare_eq_map, sumOfSquares_of_infeasible there, map]

/-- The root mean square of numbers. -/
lemma rootMeanSquare_measured (values : List ℝ) :
    rootMeanSquare (values.map measured) =
      measured √((values.map (· ^ 2)).sum / values.length) := by
  rw [rootMeanSquare_eq_map, sumOfSquares, foldl_addSquare_measured, zero_add, map,
    List.length_map]

/-- A single number is its own root mean square. -/
lemma rootMeanSquare_singleton {r : ℝ} (nonneg : 0 ≤ r) :
    rootMeanSquare [measured r] = measured r := by
  have mean := rootMeanSquare_measured [r]
  rw [List.map_singleton, List.map_singleton, List.sum_singleton, List.length_singleton,
    Nat.cast_one, div_one, Real.sqrt_sq nonneg] at mean
  exact mean

/-- Residuals are numbers unless one of them is infeasible. -/
lemma exists_measured_or_infeasible (rs : List (Residual ℝ)) :
    (∃ values : List ℝ, rs = values.map measured) ∨ infeasible ∈ rs := by
  induction rs with
  | nil => exact .inl ⟨[], rfl⟩
  | cons r rest ih =>
    cases r with
    | infeasible => exact .inr List.mem_cons_self
    | measured x =>
      cases ih with
      | inl numbers =>
        obtain ⟨values, rfl⟩ := numbers
        exact .inl ⟨x :: values, rfl⟩
      | inr there => exact .inr (List.mem_cons_of_mem _ there)

/-- A residual is within a bound if and only if it is a number that is. -/
lemma isAtMost_iff {r : Residual ℝ} {bound : ℝ} :
    r.isAtMost bound = true ↔ ∃ x, r = measured x ∧ x ≤ bound := by
  cases r with
  | infeasible => simp [isAtMost, Scalar.isTop, Scalar.isFinite]
  | measured x => simp [isAtMost]

/-- A number is at most the root of the mean of squares that it takes part in, times the root of
their number. -/
lemma le_sqrt_mean_mul {values : List ℝ} {x bound : ℝ} (there : x ∈ values)
    (mean : √((values.map (· ^ 2)).sum / values.length) ≤ bound) :
    x ≤ bound * √values.length := by
  have positive : (0 : ℝ) < values.length := by
    exact_mod_cast List.length_pos_of_mem there
  have square : x ^ 2 ≤ (values.map (· ^ 2)).sum := by
    refine List.single_le_sum ?_ _ (List.mem_map_of_mem there)
    intro y squared
    obtain ⟨z, -, rfl⟩ := List.mem_map.mp squared
    exact sq_nonneg z
  calc x ≤ √((values.map (· ^ 2)).sum) := Real.le_sqrt_of_sq_le square
    _ = √((values.map (· ^ 2)).sum / values.length) * √values.length := by
      rw [← Real.sqrt_mul' _ positive.le, div_mul_cancel₀ _ positive.ne']
    _ ≤ bound * √values.length := mul_le_mul_of_nonneg_right mean (Real.sqrt_nonneg _)

/-- Where a root mean square is within a bound, every residual is within the bound times the root of
the number of residuals. -/
lemma isAtMost_of_rootMeanSquare {rs : List (Residual ℝ)} {r : Residual ℝ} {bound : ℝ}
    (there : r ∈ rs) (mean : (rootMeanSquare rs).isAtMost bound = true) :
    r.isAtMost (bound * √rs.length) = true := by
  cases exists_measured_or_infeasible rs with
  | inr infeasible =>
    rw [rootMeanSquare_of_infeasible infeasible, isAtMost_iff] at mean
    obtain ⟨x, absurdity, -⟩ := mean
    cases absurdity
  | inl numbers =>
    obtain ⟨values, rfl⟩ := numbers
    obtain ⟨x, member, rfl⟩ := List.mem_map.mp there
    rw [rootMeanSquare_measured, isAtMost_iff] at mean
    obtain ⟨y, value, small⟩ := mean
    cases value
    rw [isAtMost_iff, List.length_map]
    exact ⟨x, rfl, le_sqrt_mean_mul member small⟩

/-! ### Residuals that are zero -/

/-- A residual of zero adds nothing to a sum of squares. -/
lemma addSquare_zero (total : Residual ℝ) : addSquare total (measured 0) = total := by
  cases total with
  | infeasible => simp [addSquare, isUndefined_eq_false]
  | measured t => simp [addSquare]

/-- Leaving out residuals of zero leaves the sum of the squares as it is. -/
lemma sumOfSquares_filter {β : Type} {keep : β → Bool} {residual : β → Residual ℝ} {xs : List β}
    (zero : ∀ x ∈ xs, keep x = false → residual x = measured 0) :
    sumOfSquares ((xs.filter keep).map residual) = sumOfSquares (xs.map residual) := by
  rw [sumOfSquares, sumOfSquares]
  generalize (measured 0 : Residual ℝ) = total
  induction xs generalizing total with
  | nil => rfl
  | cons x rest ih =>
    obtain ⟨zero, others⟩ := List.forall_mem_cons.mp zero
    cases kept : keep x with
    | true =>
      rw [List.filter_cons_of_pos kept, List.map_cons, List.map_cons, List.foldl_cons,
        List.foldl_cons]
      exact ih others _
    | false =>
      rw [List.filter_cons_of_neg (by rw [kept]; exact Bool.false_ne_true), List.map_cons,
        List.foldl_cons, zero kept, addSquare_zero]
      exact ih others _

/-- A residual times a number. -/
noncomputable def scale (factor : ℝ) : Residual ℝ → Residual ℝ := map (factor * ·)

/-- Leaving out residuals of zero changes nothing but the number that the mean is taken over. -/
lemma rootMeanSquare_filter {β : Type} {keep : β → Bool} {residual : β → Residual ℝ} {xs : List β}
    (zero : ∀ x ∈ xs, keep x = false → residual x = measured 0) :
    rootMeanSquare ((xs.filter keep).map residual) =
      (rootMeanSquare (xs.map residual)).scale √(xs.length / (xs.filter keep).length) := by
  rw [rootMeanSquare_eq_map, rootMeanSquare_eq_map, sumOfSquares_filter zero, List.length_map,
    List.length_map]
  cases empty : xs with
  | nil => simp [sumOfSquares, map, scale]
  | cons x rest =>
    have positive : (xs.length : ℝ) ≠ 0 := by
      rw [empty, List.length_cons]
      exact Nat.cast_ne_zero.mpr (Nat.succ_ne_zero _)
    rw [← empty]
    cases sumOfSquares (xs.map residual) with
    | infeasible => rfl
    | measured t =>
      simp only [map, scale]
      rw [← Real.sqrt_mul (by positivity), div_mul_div_comm, mul_comm (xs.length : ℝ) t,
        mul_div_mul_right _ _ positive]

end Drafting.Residual
