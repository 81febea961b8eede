import Drafting.Linear.Equation
import Drafting.Proofs.Exact

/-!
# Linear equations over the reals

Inner products of lists of reals, which cut off the longer list, and what an equation makes of
values once its first unknown is split off (`Equation.eval_eq_leading_mul_add`) or eliminated by
means of another equation (`Equation.eval_reduce`).
-/

namespace Drafting

namespace Linear

/-! ### Inner products -/

lemma dot_eq_sum (xs ys : List ℝ) : dot xs ys = (List.zipWith (· * ·) xs ys).sum :=
  Scalar.sum_eq_sum _

@[simp] lemma dot_nil_left (ys : List ℝ) : dot [] ys = 0 := by simp [dot_eq_sum]

@[simp] lemma dot_nil_right (xs : List ℝ) : dot xs [] = 0 := by simp [dot_eq_sum]

@[simp] lemma dot_cons_cons (x y : ℝ) (xs ys : List ℝ) :
    dot (x :: xs) (y :: ys) = x * y + dot xs ys := by
  simp [dot_eq_sum]

lemma dot_comm (xs ys : List ℝ) : dot xs ys = dot ys xs := by
  rw [dot_eq_sum, dot_eq_sum, List.zipWith_comm]
  simp only [mul_comm]

/-- Zeros contribute nothing to an inner product. -/
lemma dot_of_forall_eq_zero {xs : List ℝ} (zero : ∀ x ∈ xs, x = 0) (ys : List ℝ) :
    dot xs ys = 0 := by
  induction xs generalizing ys with
  | nil => exact dot_nil_left ys
  | cons x rest ih =>
    obtain ⟨first, others⟩ := List.forall_mem_cons.mp zero
    cases ys with
    | nil => exact dot_nil_right _
    | cons y ys => rw [dot_cons_cons, first, ih others, zero_mul, zero_add]

lemma getD_of_forall_eq_zero {xs : List ℝ} (zero : ∀ x ∈ xs, x = 0) (i : ℕ) :
    xs.getD i 0 = 0 := by
  rw [List.getD_eq_getElem?_getD]
  cases there : xs[i]? with
  | none => rfl
  | some x => exact zero x (List.mem_of_getElem? there)

lemma forall_mem_replicate_eq_zero (count : ℕ) : ∀ x ∈ List.replicate count (0 : ℝ), x = 0 :=
  fun _ => List.eq_of_mem_replicate

/-- Zeros at the end of a list are of no consequence. -/
lemma dot_append_of_forall_eq_zero {zeros : List ℝ} (zero : ∀ x ∈ zeros, x = 0)
    (xs ys : List ℝ) : dot (xs ++ zeros) ys = dot xs ys := by
  induction xs generalizing ys with
  | nil => rw [List.nil_append, dot_of_forall_eq_zero zero, dot_nil_left]
  | cons x rest ih =>
    cases ys with
    | nil => rw [dot_nil_right, dot_nil_right]
    | cons y ys => rw [List.cons_append, dot_cons_cons, dot_cons_cons, ih]

/-- Places where one of the lists is zero can be left out at the front. -/
lemma dot_eq_dot_drop {count : ℕ} {xs ys : List ℝ}
    (zero : ∀ i < count, xs.getD i 0 = 0 ∨ ys.getD i 0 = 0) :
    dot xs ys = dot (xs.drop count) (ys.drop count) := by
  induction count generalizing xs ys with
  | zero => rfl
  | succ count ih =>
    match xs, ys with
    | [], ys => rw [List.drop_nil, dot_nil_left, dot_nil_left]
    | xs, [] => rw [List.drop_nil, dot_nil_right, dot_nil_right]
    | x :: xs, y :: ys =>
      have first : x * y = 0 := mul_eq_zero.mpr (zero 0 (Nat.succ_pos count))
      rw [dot_cons_cons, first, zero_add, List.drop_succ_cons, List.drop_succ_cons]
      exact ih fun i inside => zero (i + 1) (Nat.succ_lt_succ inside)

lemma dot_subtract (factor : ℝ) {xs ys : List ℝ} (same : xs.length = ys.length)
    (zs : List ℝ) : dot (subtract factor xs ys) zs = dot xs zs - factor * dot ys zs := by
  induction xs generalizing ys zs with
  | nil =>
    rw [List.length_eq_zero_iff.mp same.symm]
    simp [subtract]
  | cons x rest ih =>
    obtain ⟨y, ys, rfl⟩ := List.exists_cons_of_length_eq_add_one same.symm
    cases zs with
    | nil => simp
    | cons z zs =>
      have tail := ih (Nat.succ_injective same) zs
      rw [subtract] at tail ⊢
      rw [List.zipWith_cons_cons, dot_cons_cons, dot_cons_cons, dot_cons_cons, tail]
      ring

lemma dot_map_add {β : Type} (f g : β → ℝ) (xs : List β) (ys : List ℝ) :
    dot (xs.map fun x => f x + g x) ys = dot (xs.map f) ys + dot (xs.map g) ys := by
  induction xs generalizing ys with
  | nil => simp
  | cons x rest ih =>
    cases ys with
    | nil => simp
    | cons y ys =>
      simp only [List.map_cons, dot_cons_cons, ih]
      ring

lemma dot_map_mul {β : Type} (f : β → ℝ) (factor : ℝ) (xs : List β) (ys : List ℝ) :
    dot (xs.map fun x => f x * factor) ys = dot (xs.map f) ys * factor := by
  induction xs generalizing ys with
  | nil => simp
  | cons x rest ih =>
    cases ys with
    | nil => simp
    | cons y ys =>
      simp only [List.map_cons, dot_cons_cons, ih]
      ring

lemma dot_map_sub {β : Type} (f g : β → ℝ) (xs : List β) (ys : List ℝ) :
    dot (xs.map fun x => f x - g x) ys = dot (xs.map f) ys - dot (xs.map g) ys := by
  have sum : (xs.map fun x => f x - g x) = xs.map fun x => f x + g x * -1 :=
    List.map_congr_left fun x _ => by ring
  rw [sum, dot_map_add, dot_map_mul]
  ring

/-- A single one among zeros picks out a number. -/
lemma dot_indicator (i : ℕ) (xs : List ℝ) :
    dot ((List.range xs.length).map fun j => if j = i then 1 else 0) xs = xs.getD i 0 := by
  induction xs generalizing i with
  | nil => simp
  | cons x rest ih =>
    rw [List.length_cons, List.range_succ_eq_map, List.map_cons, List.map_map, dot_cons_cons]
    cases i with
    | zero =>
      rw [dot_of_forall_eq_zero (by simp)]
      simp
    | succ i =>
      have shifted : (fun j => if j = i + 1 then (1 : ℝ) else 0) ∘ Nat.succ =
          fun j => if j = i then 1 else 0 := by
        funext j
        simp
      rw [shifted, ih]
      simp

lemma getD_subtract (factor : ℝ) {xs ys : List ℝ} (same : xs.length = ys.length) (i : ℕ) :
    (subtract factor xs ys).getD i 0 = xs.getD i 0 - factor * ys.getD i 0 := by
  induction xs generalizing ys i with
  | nil =>
    rw [List.length_eq_zero_iff.mp same.symm]
    simp [subtract]
  | cons x rest ih =>
    obtain ⟨y, ys, rfl⟩ := List.exists_cons_of_length_eq_add_one same.symm
    cases i with
    | zero => rfl
    | succ i => exact ih (Nat.succ_injective same) i

lemma dot_self_nonneg (xs : List ℝ) : 0 ≤ dot xs xs := by
  induction xs with
  | nil => rw [dot_nil_left]
  | cons x rest ih =>
    rw [dot_cons_cons]
    exact add_nonneg (mul_self_nonneg x) ih

/-- A list of reals that is orthogonal to itself is zero throughout. -/
lemma eq_zero_of_dot_self_eq_zero {xs : List ℝ} (zero : dot xs xs = 0) : ∀ x ∈ xs, x = 0 := by
  induction xs with
  | nil => exact nofun
  | cons x rest ih =>
    rw [dot_cons_cons] at zero
    obtain ⟨first, others⟩ :=
      (add_eq_zero_iff_of_nonneg (mul_self_nonneg x) (dot_self_nonneg rest)).mp zero
    exact List.forall_mem_cons.mpr ⟨mul_self_eq_zero.mp first, ih others⟩

end Linear

namespace Equation

open Linear

/-- Splitting off the first unknown. -/
lemma eval_eq_leading_mul_add (e : Equation ℝ) (xs : List ℝ) :
    e.eval xs = e.leading * xs.headD 0 + e.dropFirst.eval xs.tail := by
  obtain ⟨coefficients, value⟩ := e
  cases coefficients with
  | nil => simp [eval, leading, dropFirst]
  | cons c rest =>
    cases xs with
    | nil => simp [eval]
    | cons x xs => simp [eval, leading, dropFirst]

/-- What is left of an equation once its first unknown has been eliminated. -/
lemma eval_reduce {pivot e : Equation ℝ}
    (same : e.coefficients.length = pivot.coefficients.length) (xs : List ℝ) :
    (pivot.reduce e).eval xs =
      e.dropFirst.eval xs - e.leading / pivot.leading * pivot.dropFirst.eval xs := by
  rw [eval, reduce, dot_subtract]
  · rfl
  · rw [List.length_tail, List.length_tail, same]

end Equation

end Drafting
